import CouponSale.Keyspace.CounterServer
import CouponSale.Proofs.Keyspace.Script
import CouponSale.Proofs.Store.CounterCall

/-!
A counter server answers like a counter in memory. The states of both are related as long as nothing
is made to fail: the keyspace keeps the counter. Every call answers the same on related states and
leaves related states, so by induction every list of calls does.
-/
namespace CouponSale

/-- Calls the counter of a server. -/
def CounterServer.call (s : CounterServer) : CounterCall → CounterAnswer × CounterServer
  | .seed coupon total _ => (.seeded (s.seed coupon total).1, (s.seed coupon total).2.1)
  | .reserve coupon user => (.verdict (s.reserve coupon user).1, (s.reserve coupon user).2)
  | .remaining coupon => (.units (s.remaining? coupon).1, (s.remaining? coupon).2)
  | .hasClaimed coupon user => (.held (s.hasClaimed coupon user).1, (s.hasClaimed coupon user).2)
  | .claimedCount coupon => (.holders (s.claimedCount coupon).1, (s.claimedCount coupon).2)

/-- The answers to calls made one after the other. -/
def answers {σ : Type} (call : σ → CounterCall → CounterAnswer × σ) (s : σ) :
    List CounterCall → List CounterAnswer
  | [] => []
  | c :: calls => (call s c).1 :: answers call (call s c).2 calls

/-- A server and stores in memory have the same counter, and no call of it is made to fail. -/
structure CounterServer.Agrees (s : CounterServer) (m : Memory) : Prop where
  idle : s.failing = 0
  plain : s.reply = none
  sound : m.reserving.failing = 0
  keeps : s.keys.Keeps m.counter

namespace CounterServer

/-- With no failure to come, a command that the keyspace carries out succeeds. -/
theorem send_of_idle {α : Type} {s : CounterServer} (idle : s.failing = 0) (attempt : String)
    (command : Keyspace → Reply α × Keyspace) {a : α} {keys : Keyspace}
    (carried : command s.keys = (.ok a, keys)) :
    s.send attempt command = (.ok a, { s with keys }) := by
  simp only [send, idle, carried]

theorem ask_of_idle {α : Type} {s : CounterServer} (idle : s.failing = 0) (attempt : String)
    (look : Keyspace → Reply α) {a : α} (seen : look s.keys = .ok a) :
    s.ask attempt look = (.ok a, s) :=
  send_of_idle idle attempt (fun k => (look k, k)) (congrArg (·, s.keys) seen)

/-- A script of which no reply was set in advance is sent like any command. -/
theorem runScript_of_plain {s : CounterServer} (plain : s.reply = none) (coupon : CouponId)
    (user : UserId) :
    s.runScript coupon user = s.send "execute reserve script" (Script.reserve · coupon user) := by
  rw [runScript, plain]
  cases s.failing <;> rfl

namespace Agrees

variable {s : CounterServer} {m : Memory} (agrees : s.Agrees m)

theorem new (sink : Sink) : CounterServer.new.Agrees (.new sink) where
  idle := rfl
  plain := rfl
  sound := rfl
  keeps := .empty

include agrees

theorem seed (coupon : CouponId) {total : Int} (fits : InInt64 total) :
    (s.call (.seed coupon total fits)).1 = (m.call (.seed coupon total fits)).1 ∧
      (s.call (.seed coupon total fits)).2.Agrees (m.call (.seed coupon total fits)).2 := by
  have sent := send_of_idle agrees.idle "seed coupon stock"
    (fun k => (.ok (), k.set (Script.stockKey coupon) (Decimal.text total))) rfl
  simp only [CounterServer.call, CounterServer.seed, sent]
  exact ⟨rfl, agrees.idle, agrees.plain, agrees.sound, agrees.keeps.set coupon fits⟩

theorem reserve (coupon : CouponId) (user : UserId) :
    (s.call (.reserve coupon user)).1 = (m.call (.reserve coupon user)).1 ∧
      (s.call (.reserve coupon user)).2.Agrees (m.call (.reserve coupon user)).2 := by
  obtain ⟨reply, keys, ran, meant, keeps⟩ :=
    agrees.keeps.reserve (m.counter.reserve_reserves coupon user)
  have sent := send_of_idle agrees.idle "execute reserve script"
    (Script.reserve · coupon user) ran
  rw [← runScript_of_plain agrees.plain] at sent
  simp only [CounterServer.call, CounterServer.reserve, sent, m.call_reserve agrees.sound, verdict,
    meant]
  exact ⟨trivial, agrees.idle, agrees.plain, agrees.sound, keeps⟩

theorem remaining (coupon : CouponId) : s.call (.remaining coupon) =
    (.units (.ok (m.counter.remaining? coupon)), s) := by
  have seen : (s.keys.get (Script.stockKey coupon)).bind readStock =
      .ok (m.counter.remaining? coupon) := by
    rw [agrees.keeps.get, Counter.remaining?]
    cases seeded : m.counter.tab? coupon with
    | none => rfl
    | some tab =>
      have fits := agrees.keeps.fits coupon tab seeded
      simp only [Option.map_some, Except.bind, readStock, Decimal.toList_text,
        Decimal.readInt64?_ofInt fits]
  simp only [CounterServer.call, remaining?, ask_of_idle agrees.idle "read coupon stock"
    (fun k => (k.get (Script.stockKey coupon)).bind readStock) seen]

theorem hasClaimed (coupon : CouponId) (user : UserId) : s.call (.hasClaimed coupon user) =
    (.held (.ok (m.counter.hasClaimed coupon user)), s) := by
  have held : (m.counter.holders coupon).contains user = m.counter.hasClaimed coupon user := by
    unfold Counter.holders Counter.hasClaimed
    cases m.counter.tab? coupon <;> rfl
  have seen := agrees.keeps.isMember coupon user
  rw [held] at seen
  simp only [CounterServer.call, CounterServer.hasClaimed, ask_of_idle agrees.idle
    "check claimed set" (·.isMember (Script.claimedKey coupon) user.text) seen]

theorem claimedCount (coupon : CouponId) : s.call (.claimedCount coupon) =
    (.holders (.ok (m.counter.claimedCount coupon)), s) := by
  have count : (m.counter.holders coupon).length = m.counter.claimedCount coupon := by
    unfold Counter.holders Counter.claimedCount
    cases m.counter.tab? coupon <;> rfl
  have seen := agrees.keeps.memberCount coupon
  rw [count] at seen
  simp only [CounterServer.call, CounterServer.claimedCount, ask_of_idle agrees.idle
    "count claimed set" (·.memberCount (Script.claimedKey coupon)) seen]

/-- A call answers the same on both and keeps them in agreement. -/
theorem call (c : CounterCall) :
    (s.call c).1 = (m.call c).1 ∧ (s.call c).2.Agrees (m.call c).2 := by
  cases c with
  | seed coupon total fits => exact agrees.seed coupon fits
  | reserve coupon user => exact agrees.reserve coupon user
  | remaining coupon =>
    rw [agrees.remaining]
    exact ⟨rfl, agrees⟩
  | hasClaimed coupon user =>
    rw [agrees.hasClaimed]
    exact ⟨rfl, agrees⟩
  | claimedCount coupon =>
    rw [agrees.claimedCount]
    exact ⟨rfl, agrees⟩

theorem answers (calls : List CounterCall) :
    CouponSale.answers CounterServer.call s calls = CouponSale.answers Memory.call m calls := by
  induction calls generalizing s m with
  | nil => rfl
  | cons c calls ih =>
    obtain ⟨same, after⟩ := agrees.call c
    simp only [CouponSale.answers, same, ih after]

end Agrees

/-- On an empty server every list of calls is answered as by a new counter in memory. -/
theorem answers_eq_memory (sink : Sink) (calls : List CounterCall) :
    answers CounterServer.call .new calls = answers Memory.call (.new sink) calls :=
  (Agrees.new sink).answers calls

end CounterServer
end CouponSale

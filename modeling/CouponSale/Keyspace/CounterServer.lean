import CouponSale.Keyspace.Script
import CouponSale.Note

/-!
The counter on a server that keeps a keyspace. Every call sends one command. The next commands
can be made to fail without effect, and the next script can be made to answer a given reply
without running.
-/
namespace CouponSale

structure CounterServer where
  keys : Keyspace
  /-- How many of the next commands fail. -/
  failing : Nat
  /-- The reply of the next script that does not fail, in place of its run. -/
  reply : Option Int
  deriving DecidableEq, Repr, Inhabited

namespace CounterServer

def new : CounterServer := ⟨.empty, 0, none⟩

def unavailable (attempt : String) : Failure := .counterUnavailable ("Failed to " ++ attempt)

/-- Sends a command. A command that fails, or is refused, fails the attempt. -/
def send {α : Type} (s : CounterServer) (attempt : String)
    (command : Keyspace → Reply α × Keyspace) : Answer α × CounterServer :=
  match s.failing with
  | n + 1 => (.error (unavailable attempt), { s with failing := n })
  | 0 =>
    match command s.keys with
    | (.ok a, keys) => (.ok a, { s with keys })
    | (.error _, keys) => (.error (unavailable attempt), { s with keys })

/-- Sends a command that only looks. -/
def ask {α : Type} (s : CounterServer) (attempt : String) (look : Keyspace → Reply α) :
    Answer α × CounterServer :=
  s.send attempt (fun k => (look k, k))

def runScript (s : CounterServer) (coupon : CouponId) (user : UserId) :
    Answer Int × CounterServer :=
  match s.failing, s.reply with
  | 0, some reply => (.ok reply, { s with reply := none })
  | _, _ => s.send "execute reserve script" (Script.reserve · coupon user)

/-- The verdict that a script's reply stands for, or the failure to understand it. -/
def verdict (reply : Int) : Answer Reservation :=
  match Script.verdict? reply with
  | some verdict => .ok verdict
  | none => .error (.counterUnavailable ("Unexpected reserve script reply: " ++ Decimal.text reply))

def reserve (s : CounterServer) (coupon : CouponId) (user : UserId) :
    Answer Reservation × CounterServer :=
  match s.runScript coupon user with
  | (.error e, s) => (.error e, s)
  | (.ok reply, s) => (verdict reply, s)

def seed (s : CounterServer) (coupon : CouponId) (total : Int) :
    Answer Unit × CounterServer × List Note :=
  match s.send "seed coupon stock"
      (fun k => (.ok (), k.set (Script.stockKey coupon) (Decimal.text total))) with
  | (.error e, s) => (.error e, s, [])
  | (.ok (), s) => (.ok (), s, [.counterSeeded coupon total])

/-- The number a text under the stock key stands for. -/
def readStock : Option String → Reply (Option Int)
  | none => .ok none
  | some s =>
    match Decimal.readInt64? s.toList with
    | some i => .ok (some i)
    | none => .error .notInteger

def remaining? (s : CounterServer) (coupon : CouponId) : Answer (Option Int) × CounterServer :=
  s.ask "read coupon stock" (fun k => (k.get (Script.stockKey coupon)).bind readStock)

def hasClaimed (s : CounterServer) (coupon : CouponId) (user : UserId) :
    Answer Bool × CounterServer :=
  s.ask "check claimed set" (·.isMember (Script.claimedKey coupon) user.text)

def claimedCount (s : CounterServer) (coupon : CouponId) : Answer Nat × CounterServer :=
  s.ask "count claimed set" (·.memberCount (Script.claimedKey coupon))

/-- Removes both keys of a coupon. -/
def clear (s : CounterServer) (coupon : CouponId) : Answer Unit × CounterServer :=
  s.send "clear coupon keys"
    (fun k => (.ok (), (k.delete (Script.stockKey coupon)).delete (Script.claimedKey coupon)))

end CounterServer
end CouponSale

import CouponSale.Keyspace.CounterServer
import CouponSale.Run
import CouponSale.SoldOut

/-!
Claims over a counter server whose messages take time. Sending the script, its run on the server,
the arrival of the reply and the end of the wait are steps of their own, in any order that their
causes allow: a script that was sent runs once, whether or not anyone still waits for its reply.
-/
namespace CouponSale

structure Exchange.Call where
  user : UserId
  coupon : CouponId
  /-- The server's reply, once the script has run. -/
  reply : Option (Reply Int)
  answer : Option (Answer Reservation)
  deriving Repr, Inhabited

/-- A keyspace, the coupons flagged as exhausted, and the claims so far in the order of sending. -/
structure Exchange where
  keys : Keyspace
  soldOut : SoldOut
  calls : List Exchange.Call
  deriving Repr, Inhabited

namespace Exchange

def new (keys : Keyspace) : Exchange := ⟨keys, .empty, []⟩

def hear : Reply Int → Answer Reservation
  | .ok reply => CounterServer.verdict reply
  | .error _ => .error (CounterServer.unavailable "execute reserve script")

/-- Who moves next; calls are numbered from zero. -/
inductive Label where
  | send (user : UserId) (coupon : CouponId)
  | execute (call : Nat)
  | deliver (call : Nat)
  | expire (call : Nat) (after : Span)
  deriving Repr

abbrev Told := Nat × Answer Reservation

def change (x : Exchange) (n : Nat) (call : Call) : Exchange :=
  { x with calls := x.calls.set n call }

/-- Sends the script of a claim, unless the coupon is flagged. -/
def send? (x : Exchange) (user : UserId) (coupon : CouponId) : Option Exchange :=
  if x.soldOut.check coupon then none
  else some { x with calls := x.calls ++ [⟨user, coupon, none, none⟩] }

/-- Runs the script of a call, once. -/
def execute? (x : Exchange) (n : Nat) (call : Call) : Option Exchange :=
  if call.reply.isSome then none
  else
    let (reply, keys) := Script.reserve x.keys call.coupon call.user
    some ({ x with keys }.change n { call with reply := some reply })

/-- Tells a caller who still waits its answer; only a sold-out counter flags the coupon. -/
def tell? (x : Exchange) (n : Nat) (call : Call) (answer : Answer Reservation) :
    Option (Exchange × List Told) :=
  if call.answer.isSome then none
  else
    let x := x.change n { call with answer := some answer }
    let soldOut := match answer with
      | .ok .outOfStock => (x.soldOut.mark call.coupon).2
      | _ => x.soldOut
    some ({ x with soldOut }, [(n, answer)])

/-- The move a label stands for, with the answer it brings a caller; `none` where it is not
possible. -/
def step? (x : Exchange) : Label → Option (Exchange × List Told)
  | .send user coupon => (x.send? user coupon).map (·, [])
  | .execute n => x.calls[n]?.bind fun call => (x.execute? n call).map (·, [])
  | .deliver n =>
    x.calls[n]?.bind fun call => call.reply.bind fun reply => x.tell? n call (hear reply)
  | .expire n after =>
    x.calls[n]?.bind fun call => x.tell? n call (.error (.counterTimeout after))

/-- An exchange that a run leads to from a keyspace. -/
def Reachable (keys : Keyspace) (told : List Told) (x : Exchange) : Prop :=
  Leads step? (new keys) told x

end Exchange
end CouponSale

import CouponSale.Coupon

/-!
A burst: the users from one on claim one coupon, so many at a time. A user is started when there is
a place, and leaves it with the answer to the claim; once all are started the answers are counted.
-/
namespace CouponSale

structure Burst where
  coupon : CouponId
  /-- The first user that is still to be started. -/
  next : Nat
  users : Nat
  /-- How many places there are. -/
  limit : Nat
  /-- How many of the answers are counted. -/
  joined : Nat
  deriving DecidableEq, Repr, Inhabited

namespace Burst

/-- Without a place no burst would end, so there is one at least. -/
def new (coupon : CouponId) (users : Int) (concurrency : Nat) : Burst where
  coupon := coupon
  next := 1
  users := users.toNat
  limit := max concurrency 1
  joined := 0

/-- How many users can be started: the places that ended claims have left. -/
def startable (b : Burst) (answered : Nat) : Nat :=
  min (answered + b.limit - (b.next - 1)) (b.users + 1 - b.next)

def start (b : Burst) (count : Nat) : Burst := { b with next := b.next + count }

/-- How many answers can be counted. -/
def joinable (b : Burst) (answered : Nat) : Nat :=
  if b.next ≤ b.users then 0 else answered - b.joined

def join (b : Burst) (count : Nat) : Burst := { b with joined := b.joined + count }

def isOver (b : Burst) : Bool := b.users < b.next && b.joined = b.users

end Burst
end CouponSale

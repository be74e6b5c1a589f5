import CouponSale.Store.Memory
import CouponSale.Text.Decimal
import Mathlib.Data.List.Dedup

/-!
Calls of a counter as data, and the counter in memory under them.
-/
namespace CouponSale

/-- A call of a counter. A total is a signed 64-bit word. -/
inductive CounterCall where
  | seed (coupon : CouponId) (total : Int) (fits : InInt64 total)
  | reserve (coupon : CouponId) (user : UserId)
  | remaining (coupon : CouponId)
  | hasClaimed (coupon : CouponId) (user : UserId)
  | claimedCount (coupon : CouponId)

/-- What a call of a counter answers. -/
inductive CounterAnswer where
  | seeded (answer : Answer Unit)
  | verdict (answer : Answer Reservation)
  | units (answer : Answer (Option Int))
  | held (answer : Answer Bool)
  | holders (answer : Answer Nat)
  deriving DecidableEq

/-- Calls the counter in memory; a question about it never fails. -/
def Memory.call (m : Memory) : CounterCall → CounterAnswer × Memory
  | .seed coupon total _ =>
    (.seeded (Backend.seed m coupon total).1, (Backend.seed m coupon total).2.1)
  | .reserve coupon user =>
    let begun := Backend.beginReserve m
    (.verdict (Backend.reserve begun coupon user).1, (Backend.reserve begun coupon user).2)
  | .remaining coupon => (.units (.ok (m.counter.remaining? coupon)), m)
  | .hasClaimed coupon user => (.held (.ok (m.counter.hasClaimed coupon user)), m)
  | .claimedCount coupon => (.holders (.ok (m.counter.claimedCount coupon)), m)

/-- With no failure to come, a reservation is what the counter decides. -/
theorem Memory.call_reserve {m : Memory} (sound : m.reserving.failing = 0) (coupon : CouponId)
    (user : UserId) : m.call (.reserve coupon user) =
      (.verdict (.ok (m.counter.reserve coupon user).1),
        { Backend.beginReserve m with counter := (m.counter.reserve coupon user).2 }) := by
  simp only [Memory.call, Backend.reserve, Backend.beginReserve, Service.begin, Memory.reserve,
    sound]

end CouponSale

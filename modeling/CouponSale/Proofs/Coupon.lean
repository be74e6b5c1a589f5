import CouponSale.Failure
import Mathlib.Tactic.SplitIfs

/-!
What an accepted request for a coupon is.
-/
namespace CouponSale.NewCoupon

/-- A request without a flaw. -/
structure Valid (c : NewCoupon) (now : Moment) : Prop where
  named : c.cleanName.toList ≠ []
  short : c.cleanName.length ≤ Coupon.nameLimit
  stocked : 0 < c.total
  priced : 0 ≤ c.amount
  opens : c.start < c.finish
  lasts : now < c.finish

variable {c : NewCoupon} {now : Moment}

theorem flaw?_eq_none_iff : c.flaw? now = none ↔ c.Valid now := by
  constructor
  · intro flawless
    unfold flaw? at flawless
    split_ifs at flawless with unnamed long empty negative shut ended
    exact ⟨by simpa using unnamed, Nat.le_of_not_lt long, Int.lt_of_not_ge empty,
      Int.le_of_not_gt negative, Decidable.not_not.mp shut, Decidable.not_not.mp ended⟩
  · rintro ⟨named, short, stocked, priced, opens, lasts⟩
    unfold flaw?
    rw [if_neg (by simpa using named), if_neg (Nat.not_lt.mpr short),
      if_neg (Int.not_le.mpr stocked), if_neg (Int.not_lt.mpr priced),
      if_neg (fun shut => shut opens), if_neg (fun ended => ended lasts)]

theorem validate_iff : c.validate now = .ok () ↔ c.Valid now := by
  rw [← flaw?_eq_none_iff, validate]
  cases c.flaw? now <;> simp

end CouponSale.NewCoupon

import CouponSale.Log

/-!
Coupons known to be exhausted. A flag answers a claim without asking the counter. Flags never
expire and are never cleared, since a sale does not restock.
-/
namespace CouponSale

/-- The flagged coupons, each once, the latest first. -/
structure SoldOut where
  coupons : List CouponId
  deriving DecidableEq, Repr, Inhabited

namespace SoldOut

def empty : SoldOut := ⟨[]⟩

def check (s : SoldOut) (coupon : CouponId) : Bool := s.coupons.contains coupon

/-- Flags a coupon; the answer says whether this call set the flag. -/
def mark (s : SoldOut) (coupon : CouponId) : Bool × SoldOut :=
  if s.check coupon then (false, s) else (true, ⟨coupon :: s.coupons⟩)

def size (s : SoldOut) : Nat := s.coupons.length

/-- The record of a newly set flag. -/
def markedRecord (coupon : CouponId) : LogRecord :=
  .info "Coupon marked exhausted in negative cache" [.coupon coupon]

theorem check_mark (s : SoldOut) (a b : CouponId) :
    (s.mark a).2.check b = (decide (b = a) || s.check b) := by
  unfold mark
  by_cases h : s.check a = true
  · rw [if_pos h]
    by_cases hb : b = a
    · subst hb; simp [h]
    · simp [hb]
  · rw [if_neg h]
    simp [check]

end SoldOut
end CouponSale

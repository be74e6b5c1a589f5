import CouponSale.Number.Binary64

/-!
The sign of a rounded number. Rounding keeps a sign and makes no number zero that was at least one
unit, whatever it does to its size.
-/
namespace CouponSale.Binary64

theorem twoTo_pos (n : Nat) : 0 < twoTo n := Nat.two_pow_pos n

theorem one_le_spacing (units : Nat) : 1 ≤ spacing units := twoTo_pos _

theorem spacing_le {units : Nat} (positive : 0 < units) : spacing units ≤ units := by
  have power : 2 ^ units.log2 ≤ units := Nat.log2_self_le (by omega)
  have smaller : 2 ^ (units.log2 - 52) ≤ 2 ^ units.log2 :=
    Nat.pow_le_pow_right (by omega) (by omega)
  exact Nat.le_trans smaller power

theorem le_nearest (num den : Nat) : num / den ≤ nearest num den := by
  simp only [nearest]
  split
  · exact Nat.le_refl _
  · split <;> omega

theorem roundUnits_pos {num : Nat} (positive : 0 < num) : 0 < roundUnits num 1 := by
  have step := one_le_spacing num
  have quotient : 1 ≤ num / spacing num := Nat.div_pos (spacing_le positive) step
  have rounded := le_nearest num (spacing num)
  simp only [roundUnits, Nat.div_one, Nat.mul_one]
  exact Nat.mul_pos step (Nat.le_trans quotient rounded)

/-- A number of at least one unit, below zero or above it. -/
inductive Signed (negative : Bool) : Binary64 → Prop
  | infinite : Signed negative (.infinite negative)
  | finite {units : Nat} (positive : 0 < units) : Signed negative (.finite negative units)

-- The bound is a number of two thousand bits, so it is named and never computed.
theorem ite_signed {negative : Bool} {bound units : Nat} (positive : 0 < units) :
    Signed negative (if bound ≤ units then .infinite negative else .finite negative units) := by
  split
  · exact .infinite
  · exact .finite positive

theorem ofUnits_signed {negative : Bool} {num : Nat} (positive : 0 < num) :
    Signed negative (ofUnits negative num 1) := by
  rw [ofUnits]
  exact ite_signed (roundUnits_pos positive)

theorem oneUnits_pos : 0 < oneUnits := twoTo_pos 1074

theorem ofQuotient_signed {negative : Bool} {num : Nat} (positive : 0 < num) :
    Signed negative (ofQuotient negative num 1) := by
  rw [ofQuotient]
  exact ofUnits_signed (Nat.mul_pos positive oneUnits_pos)

/-- Just the numbers below zero and zero are at most zero. -/
theorem atMost_zero_of_signed {negative : Bool} {x : Binary64} (sign : Signed negative x) :
    x.atMost (.finite false 0) = negative := by
  cases sign with
  | infinite => cases negative <;> rfl
  | finite positive => cases negative <;> simp [atMost, below, same, signed] <;> omega

end CouponSale.Binary64

import CouponSale.Keyspace.Numeral
import CouponSale.Proofs.Number.Binary64
import CouponSale.Proofs.Text.Decimal
import Mathlib.Data.List.TakeDrop
import Mathlib.Data.List.TakeWhile

/-!
A reservation script reads the canonical form of an integer as a number on the same side of zero.
-/
namespace CouponSale.Numeral

open Decimal (ofInt isDigit)

/-- What is written between spaces and up to a null character is taken as it stands, if it has
neither. -/
theorem strip_takeWhile {cs : List Char}
    (plain : ∀ c ∈ cs, c ≠ '\u0000' ∧ isSpace c = false) :
    strip (cs.takeWhile (· ≠ '\u0000')) = cs := by
  have whole : cs.takeWhile (· ≠ '\u0000') = cs :=
    List.takeWhile_eq_self_iff.mpr fun c member => by simpa using (plain c member).1
  have kept : ∀ ds : List Char, (∀ d ∈ ds, isSpace d = false) → ds.dropWhile isSpace = ds := by
    intro ds none
    cases ds with
    | nil => rfl
    | cons d ds => simp [none d]
  have none : ∀ c ∈ cs, isSpace c = false := fun c member => (plain c member).2
  rw [whole, strip, kept cs none, kept cs.reverse (by simpa using none), List.reverse_reverse]

theorem plain_ofInt (i : Int) : ∀ c ∈ ofInt i, c ≠ '\u0000' ∧ isSpace c = false := by
  have digit : ∀ c : Char, isDigit c = true → c ≠ '\u0000' ∧ isSpace c = false := by
    intro c digit
    obtain ⟨above, below⟩ := Decimal.range_of_isDigit digit
    constructor
    · rintro rfl
      simp at above
    · simp [isSpace]
      omega
  intro c member
  cases i with
  | ofNat n => exact digit c (Decimal.isDigit_of_mem member)
  | negSucc n =>
    rcases List.mem_cons.mp member with rfl | digits
    · decide
    · exact digit c (Decimal.isDigit_of_mem digits)

theorem mantissa_ofNat (n : Nat) :
    mantissa isDigit (Decimal.ofNat n) = (Decimal.ofNat n, [], []) := by
  have digits : ∀ c ∈ Decimal.ofNat n, isDigit c = true := fun c => Decimal.isDigit_of_mem
  simp only [mantissa, List.span_eq_takeWhile_dropWhile, List.takeWhile_eq_self_iff.mpr digits,
    List.dropWhile_eq_nil_iff.mpr digits]

theorem unsigned?_ofNat (negative : Bool) (n : Nat) :
    unsigned? negative (Decimal.ofNat n) = some (scaled 10 negative n 0) := by
  have decimal : decimal? negative (Decimal.ofNat n) = some (scaled 10 negative n 0) := by
    simp [decimal?, mantissa_ofNat, Decimal.readNat?_ofNat, exponent?]
  have letter : ∀ c rest, isDigit c = false → Decimal.ofNat n ≠ '0' :: c :: rest := by
    intro c rest other same
    have member : c ∈ Decimal.ofNat n := by simp [same]
    rw [Decimal.isDigit_of_mem member] at other
    contradiction
  unfold unsigned?
  split
  · rename_i digits mark
    exact absurd mark (letter 'x' digits (by decide))
  · rename_i digits mark
    exact absurd mark (letter 'X' digits (by decide))
  · rw [decimal]
    rfl

/-- A decimal without a fraction keeps its sign, unless it is zero. -/
theorem scaled_signed {negative : Bool} {n : Nat} (positive : 0 < n) :
    Binary64.Signed negative (scaled 10 negative n 0) := by
  have more : n ≠ 0 := by omega
  have near : ¬ (farthestPlace : Int) < 0 := by decide
  rw [scaled, if_neg more, if_neg near, if_pos (Int.le_refl 0)]
  exact Binary64.ofQuotient_signed (by simpa using positive)

/-- The script finds the canonical form of an integer to be at most zero just when it is. -/
theorem read?_ofInt (i : Int) :
    ∃ x, read? (ofInt i) = some x ∧ x.atMost (.finite false 0) = decide (i ≤ 0) := by
  unfold read?
  rw [strip_takeWhile (plain_ofInt i)]
  cases i with
  | ofNat n =>
    have positive : sign (ofInt (.ofNat n)) = (false, Decimal.ofNat n) := by
      simp only [ofInt, sign]
      split
      · rename_i rest minus
        exact absurd minus (Decimal.ofNat_ne_cons (by decide) rest)
      · rename_i rest plus
        exact absurd plus (Decimal.ofNat_ne_cons (by decide) rest)
      · rfl
    simp only [positive, unsigned?_ofNat]
    refine ⟨_, rfl, ?_⟩
    by_cases none : n = 0
    · subst none
      rfl
    · rw [Binary64.atMost_zero_of_signed (scaled_signed (by omega))]
      simp
      omega
  | negSucc n =>
    simp only [ofInt, sign, unsigned?_ofNat]
    refine ⟨_, rfl, ?_⟩
    rw [Binary64.atMost_zero_of_signed (scaled_signed (by omega))]
    simp
    omega

end CouponSale.Numeral

import CouponSale.Proofs.Number.Binary64
import Mathlib.Tactic.Ring

/-!
Rounding to the format. A count of units that the format holds is its own rounding, and rounding
goes past no such count; so products of powers of two are exact until they overflow, and repeated
squaring of two gives just the power.
-/
namespace CouponSale.Binary64

theorem twoTo_add (m n : Nat) : twoTo (m + n) = twoTo m * twoTo n := Nat.pow_add 2 m n

theorem twoTo_le {m n : Nat} (le : m ≤ n) : twoTo m ≤ twoTo n :=
  Nat.pow_le_pow_right (by omega) le

theorem twoTo_lt {m n : Nat} (lt : m < n) : twoTo m < twoTo n :=
  Nat.pow_lt_pow_right (by omega) lt

theorem twoTo_dvd {m n : Nat} (le : m ≤ n) : twoTo m ∣ twoTo n := Nat.pow_dvd_pow 2 le

/-- A count of units with no more than 53 significant bits. -/
def Representable (units : Nat) : Prop :=
  ∃ significand exponent, significand < twoTo 53 ∧ units = significand * twoTo exponent

theorem representable_mul_twoTo {units : Nat} (fits : Representable units) (n : Nat) :
    Representable (units * twoTo n) := by
  obtain ⟨significand, exponent, bound, rfl⟩ := fits
  exact ⟨significand, exponent + n, bound, by rw [twoTo_add, Nat.mul_assoc]⟩

theorem representable_of_lt {units : Nat} (bound : units < twoTo 53) : Representable units :=
  ⟨units, 0, bound, (Nat.mul_one units).symm⟩

theorem representable_twoTo (n : Nat) : Representable (twoTo n) :=
  ⟨1, n, by decide, (Nat.one_mul _).symm⟩

theorem representable_of_le {units : Nat} (bound : units ≤ twoTo 53) : Representable units := by
  rcases Nat.lt_or_eq_of_le bound with less | rfl
  · exact representable_of_lt less
  · exact representable_twoTo 53

theorem nearest_mul {den : Nat} (positive : 0 < den) (n : Nat) : nearest (n * den) den = n := by
  simp [nearest, Nat.mul_div_cancel n positive, positive]

/-- The spacing around a count that the format holds divides it. -/
theorem Representable.spacing_dvd {units : Nat} (fits : Representable units) :
    spacing units ∣ units := by
  obtain ⟨significand, exponent, bound, rfl⟩ := fits
  by_cases zero : significand = 0
  · simp [zero]
  · have size : (significand * twoTo exponent).log2 < 53 + exponent := by
      refine (Nat.log2_lt ?_).mpr ?_
      · exact Nat.mul_ne_zero zero (Nat.ne_of_gt (twoTo_pos _))
      · rw [Nat.pow_add]
        exact Nat.mul_lt_mul_of_pos_right bound (twoTo_pos _)
    exact Nat.dvd_mul_left_of_dvd (twoTo_dvd (by omega)) _

theorem Representable.roundUnits {units den : Nat} (fits : Representable units)
    (positive : 0 < den) : roundUnits (units * den) den = units := by
  obtain ⟨count, parts⟩ := fits.spacing_dvd
  have step := one_le_spacing units
  have product : units * den = count * (spacing units * den) := by
    conv_lhs => rw [parts]
    ring
  simp only [Binary64.roundUnits, Nat.mul_div_cancel units positive]
  rw [product, nearest_mul (Nat.mul_pos step positive), ← parts]

/-- Rounding goes past no count that the format holds. -/
theorem Representable.le_roundUnits {units num den : Nat} (fits : Representable units)
    (positive : 0 < den) (le : units * den ≤ num) : units ≤ Binary64.roundUnits num den := by
  have below : units ≤ num / den := (Nat.le_div_iff_mul_le positive).mpr le
  have lower : num / den / spacing (num / den) ≤ nearest num (spacing (num / den) * den) := by
    rw [Nat.div_div_eq_div_mul, Nat.mul_comm den]
    exact le_nearest _ _
  simp only [Binary64.roundUnits]
  generalize num / den = quotient at below lower ⊢
  have step := one_le_spacing quotient
  obtain ⟨significand, exponent, bound, rfl⟩ := fits
  by_cases fine : quotient.log2 - 52 ≤ exponent
  · -- The spacing divides the count, so that no rounding comes between them.
    obtain ⟨count, parts⟩ : spacing quotient ∣ significand * twoTo exponent :=
      Nat.dvd_mul_left_of_dvd (twoTo_dvd fine) _
    rw [parts] at below ⊢
    have enough : count ≤ quotient / spacing quotient :=
      (Nat.le_div_iff_mul_le step).mpr (by rwa [Nat.mul_comm])
    exact Nat.mul_le_mul_left _ (Nat.le_trans enough lower)
  · -- The count has fewer bits than the spacing has with 52 more.
    have coarse : twoTo 52 * spacing quotient ≤ quotient := by
      rw [spacing, ← twoTo_add, show 52 + (quotient.log2 - 52) = quotient.log2 by omega]
      exact Nat.log2_self_le (by rintro rfl; simp at fine)
    have enough : twoTo 52 ≤ quotient / spacing quotient :=
      (Nat.le_div_iff_mul_le step).mpr coarse
    calc significand * twoTo exponent
        ≤ twoTo 53 * twoTo exponent := Nat.mul_le_mul_right _ (Nat.le_of_lt bound)
      _ = twoTo (53 + exponent) := (twoTo_add 53 exponent).symm
      _ ≤ twoTo (quotient.log2 - 52 + 52) := twoTo_le (by omega)
      _ = spacing quotient * twoTo 52 := twoTo_add _ 52
      _ ≤ _ := Nat.mul_le_mul_left _ (Nat.le_trans enough lower)

/-- The positive number of so many units, or infinity when the format does not reach so far. -/
def ofMagnitude (units : Nat) : Binary64 :=
  if overflowUnits ≤ units then .infinite false else .finite false units

theorem ofUnits_false (num den : Nat) : ofUnits false num den = ofMagnitude (roundUnits num den) :=
  rfl

theorem ofMagnitude_of_le {units : Nat} (le : overflowUnits ≤ units) :
    ofMagnitude units = .infinite false := by
  rw [ofMagnitude, if_pos le]

theorem ofMagnitude_of_lt {units : Nat} (lt : units < overflowUnits) :
    ofMagnitude units = .finite false units := by
  rw [ofMagnitude, if_neg (Nat.not_le.mpr lt)]

theorem finite_mul_finite (s t : Bool) (a b : Nat) :
    finite s a * finite t b = ofUnits (s ^^ t) (a * b) oneUnits := by
  show mul (finite s a) (finite t b) = _
  rw [mul]

theorem finite_mul_infinite (s t : Bool) {a : Nat} (nonzero : a ≠ 0) :
    finite s a * infinite t = infinite (s ^^ t) := if_neg nonzero

theorem infinite_mul_finite (s t : Bool) {b : Nat} (nonzero : b ≠ 0) :
    infinite s * finite t b = infinite (s ^^ t) := if_neg nonzero

theorem ofNat_of_le {n : Nat} (bound : n ≤ twoTo 53) : ofNat n = ofMagnitude (n * oneUnits) := by
  have fits : Representable (n * oneUnits) :=
    representable_mul_twoTo (representable_of_le bound) 1074
  have exact := fits.roundUnits Nat.one_pos
  rw [Nat.mul_one] at exact
  rw [ofNat, ofUnits_false, exact]

/-- A number of at least so many units, infinity included. -/
inductive Reaches (least : Nat) : Binary64 → Prop
  | infinite : Reaches least (.infinite false)
  | finite {units : Nat} (le : least ≤ units) : Reaches least (.finite false units)

theorem ofMagnitude_reaches {least units : Nat} (le : least ≤ units) :
    Reaches least (ofMagnitude units) := by
  rcases Nat.lt_or_ge units overflowUnits with lt | ge
  · rw [ofMagnitude_of_lt lt]
    exact .finite le
  · rw [ofMagnitude_of_le ge]
    exact .infinite

theorem ofNat_reaches {m n : Nat} (bound : m < twoTo 53) (le : m ≤ n) :
    Reaches (m * oneUnits) (ofNat n) := by
  have fits : Representable (m * oneUnits) :=
    representable_mul_twoTo (representable_of_lt bound) 1074
  rw [ofNat, ofUnits_false]
  refine ofMagnitude_reaches (fits.le_roundUnits Nat.one_pos ?_)
  rw [Nat.mul_one]
  exact Nat.mul_le_mul_right _ le

/-- A product reaches what the format holds below the product of the bounds. -/
theorem Reaches.mul {x y : Binary64} {a b c : Nat} (left : Reaches a x) (right : Reaches b y)
    (leftPos : 0 < a) (rightPos : 0 < b) (fits : Representable c) (le : c * oneUnits ≤ a * b) :
    Reaches c (x * y) := by
  cases left with
  | infinite =>
    cases right with
    | infinite => exact .infinite
    | finite bound =>
      rw [infinite_mul_finite _ _ (by omega)]
      exact .infinite
  | finite bound =>
    cases right with
    | infinite =>
      rw [finite_mul_infinite _ _ (by omega)]
      exact .infinite
    | finite bound' =>
      rw [finite_mul_finite]
      refine ofMagnitude_reaches (fits.le_roundUnits oneUnits_pos ?_)
      exact Nat.le_trans le (Nat.mul_le_mul bound bound')

/-- What is at least a finite number comes to that number under it as a cap. -/
theorem Reaches.min {x : Binary64} {cap : Nat} (reaches : Reaches cap x) :
    (if x.isFinite then x.min (.finite false cap) else .finite false cap) =
      .finite false cap := by
  cases reaches with
  | infinite => rfl
  | @finite units le =>
    simp only [isFinite, if_true, Binary64.min, below, signed, Bool.false_eq_true, if_false,
      decide_eq_true_eq, Int.ofNat_lt]
    split
    · rfl
    · rw [Nat.le_antisymm le (by omega)]

/-- A product that the format holds is exact, or overflows with a factor; no factor is below one. -/
theorem ofMagnitude_mul {a b c : Nat} (left : oneUnits ≤ a) (right : oneUnits ≤ b)
    (fits : Representable c) (product : a * b = c * oneUnits) :
    ofMagnitude a * ofMagnitude b = ofMagnitude c := by
  have one := oneUnits_pos
  have right' : b * oneUnits ≤ a * b := by
    rw [Nat.mul_comm a b]
    exact Nat.mul_le_mul_left b left
  have overflows : ∀ {factor : Nat}, factor * oneUnits ≤ a * b → overflowUnits ≤ factor →
      ofMagnitude c = .infinite false := by
    intro factor le past
    rw [product] at le
    exact ofMagnitude_of_le (Nat.le_trans past (Nat.le_of_mul_le_mul_right le one))
  rcases Nat.lt_or_ge a overflowUnits with small | large
  · rcases Nat.lt_or_ge b overflowUnits with small' | large'
    · rw [ofMagnitude_of_lt small, ofMagnitude_of_lt small', finite_mul_finite, product,
        Bool.xor_false, ofUnits_false, fits.roundUnits one]
    · rw [ofMagnitude_of_lt small, ofMagnitude_of_le large', finite_mul_infinite _ _ (by omega),
        overflows right' large']
      rfl
  · rw [ofMagnitude_of_le large, overflows (Nat.mul_le_mul_left a right) large]
    rcases Nat.lt_or_ge b overflowUnits with small' | large'
    · rw [ofMagnitude_of_lt small', infinite_mul_finite _ _ (by omega)]
      rfl
    · rw [ofMagnitude_of_le large']
      rfl

/-- Repeated squaring keeps to any law of exponents that the product has. -/
theorem powLoop_of_mul {power : Nat → Binary64} (mul : ∀ m n, power m * power n = power (m + n))
    {fuel exponent : Nat} (enough : exponent < fuel) (m n : Nat) :
    powLoop fuel (power m) (power n) exponent = power (m + n * exponent) := by
  induction fuel generalizing m n exponent with
  | zero => omega
  | succ fuel ih =>
    have collected : (if exponent % 2 = 1 then power m * power n else power m) =
        power (m + n * (exponent % 2)) := by
      rcases Nat.mod_two_eq_zero_or_one exponent with even | odd
      · simp [even]
      · simp [odd, mul]
    have halves : n * exponent = n * (exponent % 2) + (n + n) * (exponent / 2) := by
      conv_lhs => rw [← Nat.mod_add_div exponent 2]
      ring
    simp only [powLoop, collected]
    split
    · rename_i last
      rw [halves, last, Nat.mul_zero, Nat.add_zero]
    · rw [mul, ih (by omega), halves, Nat.add_assoc]

/-- The power of two with this exponent, exact or infinite. -/
def powerOfTwo (n : Nat) : Binary64 := ofMagnitude (twoTo (1074 + n))

theorem oneUnits_le (n : Nat) : oneUnits ≤ twoTo (1074 + n) := by
  rw [oneUnits]
  exact twoTo_le (Nat.le_add_right 1074 n)

theorem powerOfTwo_mul (m n : Nat) : powerOfTwo m * powerOfTwo n = powerOfTwo (m + n) := by
  refine ofMagnitude_mul (oneUnits_le m) (oneUnits_le n) (representable_twoTo _) ?_
  rw [oneUnits, ← twoTo_add, ← twoTo_add]
  congr 1
  omega

theorem ofNat_two : ofNat 2 = powerOfTwo 1 := by
  have two : twoTo 1 = 2 := rfl
  have exact : ofNat 2 = ofMagnitude (2 * oneUnits) := ofNat_of_le (by decide)
  rw [exact, powerOfTwo, Nat.add_comm 1074 1, twoTo_add 1 1074, oneUnits, two]

theorem powerOfTwo_zero : powerOfTwo 0 = one := by
  have lt : oneUnits < overflowUnits := by
    rw [oneUnits, overflowUnits]
    exact twoTo_lt (by omega)
  rw [powerOfTwo, one, ← ofMagnitude_of_lt lt, oneUnits]

theorem pow_two (n : Nat) : (ofNat 2).pow n = powerOfTwo n := by
  rw [pow, ← powerOfTwo_zero, ofNat_two, powLoop_of_mul powerOfTwo_mul (by omega), Nat.one_mul,
    Nat.zero_add]

end CouponSale.Binary64

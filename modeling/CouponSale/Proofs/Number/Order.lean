import CouponSale.Proofs.Number.Rounding
import Mathlib.Tactic.SplitIfs

/-!
Order. Rounding keeps the order of counts, so that products keep the order of their factors; and
repeated squaring keeps the order of exponents, where the base is at least one. The powers with
exponents `n` and `n + 1` are different products, of different roundings. But up to the lowest bit
that is not set in `n`, the one multiplies squares that the other has squared instead.
-/
namespace CouponSale.Binary64

theorem nearest_le (num den : Nat) : nearest num den ≤ num / den + 1 := by
  simp only [nearest]
  split
  · omega
  · split <;> omega

theorem nearest_mono {num num' : Nat} (den : Nat) (le : num ≤ num') :
    nearest num den ≤ nearest num' den := by
  rcases Nat.lt_or_eq_of_le (Nat.div_le_div_right (c := den) le) with apart | together
  · calc nearest num den
        ≤ num / den + 1 := nearest_le num den
      _ ≤ num' / den := apart
      _ ≤ nearest num' den := le_nearest num' den
  · have rest : num % den ≤ num' % den := by
      have split := Nat.div_add_mod num den
      have split' := Nat.div_add_mod num' den
      rw [together] at split
      omega
    simp only [nearest, together]
    split_ifs <;> omega

theorem log2_mono {m n : Nat} (le : m ≤ n) : m.log2 ≤ n.log2 := by
  rcases Nat.eq_zero_or_pos m with rfl | some
  · exact Nat.zero_le _
  · exact (Nat.le_log2 (by omega)).mpr (Nat.le_trans (Nat.log2_self_le (by omega)) le)

/-- Rounding stays below every count that the format holds. -/
theorem Representable.roundUnits_le {units num den : Nat} (fits : Representable units)
    (positive : 0 < den) (le : num ≤ units * den) : Binary64.roundUnits num den ≤ units := by
  have below : num / den ≤ units := Nat.div_le_of_le_mul (by rwa [Nat.mul_comm])
  simp only [Binary64.roundUnits]
  generalize num / den = quotient at below ⊢
  have step := one_le_spacing quotient
  obtain ⟨significand, exponent, bound, rfl⟩ := fits
  by_cases fine : quotient.log2 - 52 ≤ exponent
  · obtain ⟨count, parts⟩ : spacing quotient ∣ significand * twoTo exponent :=
      Nat.dvd_mul_left_of_dvd (twoTo_dvd fine) _
    rw [parts] at le ⊢
    refine Nat.mul_le_mul_left _ ?_
    calc nearest num (spacing quotient * den)
        ≤ nearest (count * (spacing quotient * den)) (spacing quotient * den) :=
          nearest_mono _ (by rwa [Nat.mul_left_comm, ← Nat.mul_assoc])
      _ = count := nearest_mul (Nat.mul_pos step positive) count
  · -- A count of fewer bits is not above the quotient.
    have small : significand * twoTo exponent < quotient :=
      calc significand * twoTo exponent
          < twoTo 53 * twoTo exponent := Nat.mul_lt_mul_of_pos_right bound (twoTo_pos _)
        _ = twoTo (53 + exponent) := (twoTo_add 53 exponent).symm
        _ ≤ twoTo quotient.log2 := twoTo_le (by omega)
        _ ≤ quotient := Nat.log2_self_le (by rintro rfl; simp at fine)
    omega

theorem roundUnits_mono {num num' den : Nat} (positive : 0 < den) (le : num ≤ num') :
    roundUnits num den ≤ roundUnits num' den := by
  have quotients : num / den ≤ num' / den := Nat.div_le_div_right le
  rcases Nat.lt_or_ge (num / den).log2 (num' / den).log2 with apart | together
  · -- A power of two lies between the two.
    have nonzero : num' / den ≠ 0 := by
      intro zero
      simp [zero] at apart
    have power : Representable (twoTo (num' / den).log2) := representable_twoTo _
    have upper : num < twoTo (num' / den).log2 * den := by
      have small : num / den < twoTo (num' / den).log2 :=
        Nat.lt_of_lt_of_le Nat.lt_log2_self (twoTo_le apart)
      exact (Nat.div_lt_iff_lt_mul positive).mp small
    have lower : twoTo (num' / den).log2 * den ≤ num' :=
      (Nat.le_div_iff_mul_le positive).mp (Nat.log2_self_le nonzero)
    exact Nat.le_trans (power.roundUnits_le positive (Nat.le_of_lt upper))
      (power.le_roundUnits positive lower)
  · have same : spacing (num / den) = spacing (num' / den) := by
      rw [spacing, spacing, Nat.le_antisymm (log2_mono quotients) together]
    simp only [roundUnits, same]
    exact Nat.mul_le_mul_left _ (nearest_mono _ le)

/-- Two numbers from zero up, the second of which is no less than the first. -/
inductive Climbs : Binary64 → Binary64 → Prop
  | finite {a b : Nat} (le : a ≤ b) : Climbs (.finite false a) (.finite false b)
  | infinite {x : Binary64} (plain : Reaches 0 x) : Climbs x (.infinite false)

theorem Climbs.refl {x : Binary64} {least : Nat} (reaches : Reaches least x) : Climbs x x := by
  cases reaches with
  | infinite => exact .infinite .infinite
  | finite => exact .finite (Nat.le_refl _)

theorem Climbs.reaches_zero {x y : Binary64} (climbs : Climbs x y) : Reaches 0 x := by
  cases climbs with
  | infinite plain => exact plain
  | finite => exact .finite (Nat.zero_le _)

theorem Climbs.reaches {x y : Binary64} {least : Nat} (climbs : Climbs x y)
    (reaches : Reaches least x) : Reaches least y := by
  cases climbs with
  | infinite => exact .infinite
  | finite le =>
    cases reaches with
    | finite bound => exact .finite (Nat.le_trans bound le)

theorem Reaches.climbs {x : Binary64} {least : Nat} (reaches : Reaches least x) :
    Climbs (.finite false least) x := by
  cases reaches with
  | infinite => exact .infinite (.finite (Nat.zero_le _))
  | finite bound => exact .finite bound

theorem Reaches.mono {x : Binary64} {least more : Nat} (reaches : Reaches more x)
    (le : least ≤ more) : Reaches least x := by
  cases reaches with
  | infinite => exact .infinite
  | finite bound => exact .finite (Nat.le_trans le bound)

theorem ofMagnitude_climbs {a b : Nat} (le : a ≤ b) : Climbs (ofMagnitude a) (ofMagnitude b) := by
  rcases Nat.lt_or_ge b overflowUnits with small | large
  · rw [ofMagnitude_of_lt small, ofMagnitude_of_lt (Nat.lt_of_le_of_lt le small)]
    exact .finite le
  · rw [ofMagnitude_of_le large]
    exact .infinite (ofMagnitude_reaches (Nat.zero_le a))

/-- A product of two numbers that are not zero is a number. -/
theorem Reaches.mul_reaches_zero {x y : Binary64} (left : Reaches 1 x) (right : Reaches 1 y) :
    Reaches 0 (x * y) :=
  left.mul right Nat.one_pos Nat.one_pos (representable_of_lt (twoTo_pos 53)) (by omega)

theorem Climbs.mul {x x' y y' : Binary64} (left : Climbs x x') (right : Climbs y y')
    (some : Reaches 1 x) (some' : Reaches 1 y) : Climbs (x * y) (x' * y') := by
  have plain := some.mul_reaches_zero some'
  have more := left.reaches some
  have more' := right.reaches some'
  cases left with
  | infinite =>
    cases more' with
    | infinite => exact .infinite plain
    | finite bound =>
      rw [infinite_mul_finite _ _ (by omega)]
      exact .infinite plain
  | finite le =>
    cases right with
    | infinite =>
      cases more with
      | finite bound =>
        rw [finite_mul_infinite _ _ (by omega)]
        exact .infinite plain
    | finite le' =>
      rw [finite_mul_finite, finite_mul_finite]
      exact ofMagnitude_climbs (roundUnits_mono oneUnits_pos (Nat.mul_le_mul le le'))

theorem Reaches.some {x : Binary64} (reaches : Reaches oneUnits x) : Reaches 1 x :=
  reaches.mono oneUnits_pos

theorem representable_oneUnits : Representable oneUnits := by
  rw [oneUnits]
  exact representable_twoTo 1074

/-- A product of numbers from one up is at least one. -/
theorem Reaches.mul_one {x y : Binary64} (left : Reaches oneUnits x) (right : Reaches oneUnits y) :
    Reaches oneUnits (x * y) :=
  left.mul right oneUnits_pos oneUnits_pos representable_oneUnits (Nat.le_refl _)

theorem representable_roundUnits (num den : Nat) :
    Representable (roundUnits num den) := by
  have step := one_le_spacing (num / den)
  have quotient : num / (spacing (num / den) * den) < twoTo 53 := by
    rw [Nat.mul_comm, ← Nat.div_div_eq_div_mul, Nat.div_lt_iff_lt_mul step, spacing, ← twoTo_add]
    exact Nat.lt_of_lt_of_le Nat.lt_log2_self (twoTo_le (by omega))
  have significand : nearest num (spacing (num / den) * den) ≤ twoTo 53 :=
    Nat.le_trans (nearest_le _ _) quotient
  simp only [roundUnits]
  rw [Nat.mul_comm]
  exact representable_mul_twoTo (representable_of_le significand) _

/-- Once more times one, a product stays what it is. -/
theorem one_mul_mul {x y : Binary64} (left : Reaches 1 x) (right : Reaches 1 y) :
    one * (x * y) = x * y := by
  have infinite : one * infinite false = infinite false :=
    finite_mul_infinite _ _ (Nat.ne_of_gt oneUnits_pos)
  cases left with
  | infinite =>
    cases right with
    | infinite => exact infinite
    | finite bound => rw [infinite_mul_finite _ _ (by omega)]; exact infinite
  | @finite a bound =>
    cases right with
    | infinite => rw [finite_mul_infinite _ _ (by omega)]; exact infinite
    | @finite b bound' =>
      rw [finite_mul_finite, Bool.xor_false, ofUnits_false]
      rcases Nat.lt_or_ge (roundUnits (a * b) oneUnits) overflowUnits with small | large
      · rw [ofMagnitude_of_lt small, one, finite_mul_finite, Bool.xor_false, ofUnits_false,
          Nat.mul_comm oneUnits, (representable_roundUnits _ _).roundUnits oneUnits_pos,
          ofMagnitude_of_lt small]
      · rw [ofMagnitude_of_le large]
        exact infinite

theorem powLoop_zero (fuel : Nat) (acc base : Binary64) : powLoop fuel acc base 0 = acc := by
  cases fuel <;> rfl

/-- One more round, whether it is the last one or not. -/
theorem powLoop_succ (fuel : Nat) (acc base : Binary64) (exponent : Nat) :
    powLoop (fuel + 1) acc base exponent =
      powLoop fuel (if exponent % 2 = 1 then acc * base else acc) (base * base)
        (exponent / 2) := by
  rw [powLoop]
  split
  · rename_i last
    rw [last, powLoop_zero]
  · rfl

/-- Repeated squaring keeps the order of what is collected. -/
theorem powLoop_climbs {fuel fuel' exponent : Nat} (enough : exponent < fuel)
    (enough' : exponent < fuel') {acc acc' base : Binary64} (climbs : Climbs acc acc')
    (accOne : Reaches oneUnits acc) (baseOne : Reaches oneUnits base) :
    Climbs (powLoop fuel acc base exponent) (powLoop fuel' acc' base exponent) := by
  induction fuel generalizing fuel' exponent acc acc' base with
  | zero => omega
  | succ fuel ih =>
    obtain _ | fuel' := fuel'
    · omega
    rcases Nat.eq_zero_or_pos exponent with rfl | positive
    · rwa [powLoop_zero, powLoop_zero]
    rw [powLoop_succ, powLoop_succ]
    split
    · exact ih (by omega) (by omega) (climbs.mul (.refl baseOne) accOne.some baseOne.some)
        (accOne.mul_one baseOne) (baseOne.mul_one baseOne)
    · exact ih (by omega) (by omega) climbs accOne (baseOne.mul_one baseOne)

/-- The next exponent gives no less, if what has been collected is no more than the base: it has
been collected while the next exponent, whose lowest bits are zero, has collected nothing. -/
theorem powLoop_next {fuel fuel' exponent : Nat} (enough : exponent < fuel)
    (enough' : exponent + 1 < fuel') {acc base : Binary64} (within : Climbs acc base)
    (within' : Climbs acc (one * base)) (accOne : Reaches oneUnits acc)
    (baseOne : Reaches oneUnits base) :
    Climbs (powLoop fuel acc base exponent) (powLoop fuel' one base (exponent + 1)) := by
  induction fuel generalizing fuel' exponent acc base with
  | zero => omega
  | succ fuel ih =>
    obtain _ | fuel' := fuel'
    · omega
    rcases Nat.eq_zero_or_pos exponent with rfl | positive
    · rwa [powLoop_succ fuel', powLoop_zero, powLoop_zero]
    rw [powLoop_succ, powLoop_succ]
    have square := baseOne.mul_one baseOne
    rcases Nat.mod_two_eq_zero_or_one exponent with even | odd
    · have half : (exponent + 1) / 2 = exponent / 2 := by omega
      rw [if_neg (by omega), if_pos (by omega), half]
      exact powLoop_climbs (by omega) (by omega) within' accOne square
    · have half : (exponent + 1) / 2 = exponent / 2 + 1 := by omega
      have collected : Climbs (acc * base) (base * base) :=
        within.mul (.refl baseOne) accOne.some baseOne.some
      rw [if_pos odd, if_neg (by omega), half]
      refine ih (by omega) (by omega) collected ?_ (accOne.mul_one baseOne) square
      rwa [one_mul_mul baseOne.some baseOne.some]

theorem one_reaches : Reaches oneUnits one := .finite (Nat.le_refl _)

/-- Powers of a number from one up never go down, infinity included. -/
theorem pow_climbs {base : Binary64} (atLeastOne : Reaches oneUnits base) (n : Nat) :
    Climbs (base.pow n) (base.pow (n + 1)) :=
  powLoop_next (by omega) (by omega) atLeastOne.climbs (one_reaches.mul_one atLeastOne).climbs
    one_reaches atLeastOne

theorem pow_reaches {base : Binary64} (atLeastOne : Reaches oneUnits base) (n : Nat) :
    Reaches oneUnits (base.pow n) := by
  induction n with
  | zero => rw [pow, powLoop_zero]; exact one_reaches
  | succ n ih => exact (pow_climbs atLeastOne n).reaches ih

end CouponSale.Binary64

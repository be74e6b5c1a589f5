import CouponSale.Proofs.Number.Order
import CouponSale.Proofs.Retry.Backoff

/-!
Delays that grow. With a multiplier of at least one no delay is shorter than the one before it, and
none is longer than the cap: also past the attempt where the power overflows, where nothing times
infinity is no number any more, and past the exponents that the power takes.
-/
namespace CouponSale

namespace Binary64

/-- A number from zero up is not moved by the cut at zero. -/
theorem Reaches.max_zero {x : Binary64} {least : Nat} (reaches : Reaches least x) :
    x.max (.finite false 0) = x := by
  cases reaches with
  | infinite => rfl
  | @finite units bound =>
    have above : ¬ signed false units < signed false 0 := Int.not_lt.mpr (Int.natCast_nonneg _)
    simp only [Binary64.max, below, above, decide_false, Bool.false_eq_true, if_false]

theorem Climbs.truncate_le {x y : Binary64} (climbs : Climbs x y) (top : Nat) :
    x.truncate top ≤ y.truncate top := by
  cases climbs with
  | infinite plain =>
    cases plain with
    | infinite => exact Nat.le_refl _
    | finite => exact Nat.min_le_left _ _
  | finite le =>
    simp only [truncate, Bool.false_eq_true, if_false]
    have whole := Nat.div_le_div_right (c := oneUnits) le
    exact Nat.le_min.mpr ⟨Nat.min_le_left _ _, Nat.le_trans (Nat.min_le_right _ _) whole⟩

/-- A number under a cap. One that is not finite, or is no number, counts as the cap. -/
def cutTo (cap x : Binary64) : Binary64 := if x.isFinite then x.min cap else cap

theorem min_finite (a cap : Nat) :
    (finite false a).min (.finite false cap) = .finite false (Nat.min a cap) := by
  simp only [Binary64.min, below, signed, Bool.false_eq_true, if_false, decide_eq_true_eq,
    Int.ofNat_lt]
  split
  · rw [show Nat.min a cap = cap from Nat.min_eq_right (by omega)]
  · rw [show Nat.min a cap = a from Nat.min_eq_left (by omega)]

variable {cap x y : Binary64}

/-- What a number from zero up comes to under a cap from zero up. -/
theorem cutTo_climbs_cap (plain : Reaches 0 cap) (number : Reaches 0 x) :
    Climbs (cutTo cap x) cap := by
  cases number with
  | infinite => exact .refl plain
  | @finite a bound =>
    cases plain with
    | infinite => exact .infinite (.finite bound)
    | @finite c bound' =>
      rw [cutTo, isFinite, if_pos rfl, min_finite]
      exact .finite (Nat.min_le_right _ _)

theorem Climbs.cutTo (climbs : Climbs x y) (plain : Reaches 0 cap) :
    Climbs (cutTo cap x) (cutTo cap y) := by
  cases climbs with
  | infinite number => exact cutTo_climbs_cap plain number
  | @finite a b le =>
    cases plain with
    | infinite => exact .finite le
    | finite =>
      rw [Binary64.cutTo, Binary64.cutTo, isFinite, isFinite, if_pos rfl, if_pos rfl, min_finite,
        min_finite]
      exact .finite (Nat.le_min.mpr
        ⟨Nat.le_trans (Nat.min_le_left _ _) le, Nat.min_le_right _ _⟩)

theorem ofNat_reaches_one {n : Nat} (positive : 0 < n) : Reaches 1 (ofNat n) := by
  rw [ofNat, ofUnits_false]
  exact ofMagnitude_reaches (roundUnits_pos (Nat.mul_pos positive oneUnits_pos))

theorem ofNat_reaches_zero (n : Nat) : Reaches 0 (ofNat n) := by
  rw [ofNat, ofUnits_false]
  exact ofMagnitude_reaches (Nat.zero_le _)

theorem zero_mul_finite (units : Nat) : finite false 0 * finite false units = .finite false 0 := by
  have zero := (representable_of_lt (twoTo_pos 53)).roundUnits oneUnits_pos
  have small : 0 < overflowUnits := twoTo_pos 2098
  rw [Nat.zero_mul] at zero
  rw [finite_mul_finite, Bool.xor_false, ofUnits_false, Nat.zero_mul, zero,
    ofMagnitude_of_lt small]

theorem zero_mul_infinite : finite false 0 * infinite false = .nan := by
  show mul (finite false 0) (infinite false) = _
  rw [mul, if_pos rfl]

/-- Nothing times a number stays nothing under a cap, unless the number is infinite. -/
theorem cutTo_zero_mul (plain : Reaches 0 cap) (number : Reaches 0 x) :
    cutTo cap (finite false 0 * x) = if x.isFinite then .finite false 0 else cap := by
  cases number with
  | infinite =>
    rw [zero_mul_infinite]
    rfl
  | finite =>
    rw [zero_mul_finite, isFinite, if_pos rfl]
    cases plain with
    | infinite => rfl
    | finite =>
      rw [cutTo, isFinite, if_pos rfl, min_finite, show Nat.min 0 _ = 0 from Nat.zero_min _]

/-- Under a cap the multiples of a number keep the order of the factors, those of nothing too. -/
theorem Climbs.cutTo_mul (climbs : Climbs x y) (start : Nat) (plain : Reaches 0 cap)
    (some : Reaches 1 x) :
    Climbs (Binary64.cutTo cap (ofNat start * x)) (Binary64.cutTo cap (ofNat start * y)) := by
  rcases Nat.eq_zero_or_pos start with rfl | positive
  · have number := some.mono (Nat.zero_le 1)
    rw [ofNat_zero, cutTo_zero_mul plain number, cutTo_zero_mul plain (climbs.reaches number)]
    cases climbs with
    | finite => exact .finite (Nat.le_refl 0)
    | infinite =>
      cases number with
      | infinite => exact .refl plain
      | finite => exact plain.climbs
  · have one := ofNat_reaches_one positive
    exact ((Climbs.refl one).mul climbs one some).cutTo plain

theorem cutTo_mul_climbs_cap (start : Nat) (plain : Reaches 0 cap) (some : Reaches 1 x) :
    Climbs (cutTo cap (ofNat start * x)) cap := by
  rcases Nat.eq_zero_or_pos start with rfl | positive
  · rw [ofNat_zero, cutTo_zero_mul plain (some.mono (Nat.zero_le 1))]
    split
    · exact plain.climbs
    · exact .refl plain
  · exact cutTo_climbs_cap plain ((ofNat_reaches_one positive).mul_reaches_zero some)

theorem reaches_of_atMost {x : Binary64} (atMost : one.atMost x = true) : Reaches oneUnits x := by
  have positive := oneUnits_pos
  cases x with
  | nan => simp [Binary64.atMost, one, below, same] at atMost
  | infinite negative =>
    cases negative with
    | false => exact .infinite
    | true => simp [Binary64.atMost, one, below, same] at atMost
  | finite negative units =>
    have order : signed false oneUnits ≤ signed negative units := by
      simp only [Binary64.atMost, one, below, same, Bool.or_eq_true, decide_eq_true_eq] at atMost
      omega
    cases negative with
    | false => exact .finite (Int.ofNat_le.mp order)
    | true =>
      have above : (oneUnits : Int) ≤ -units := order
      omega

end Binary64

namespace RetryPolicy

open Binary64

variable {p : RetryPolicy}

theorem capped_eq (p : RetryPolicy) (attempt : Nat) :
    p.capped attempt = cutTo (ofNat p.maxDelay.millis) (p.growth attempt) := rfl

/-- The next power is no less, the cut of the exponent included. -/
theorem power_climbs (growing : Reaches oneUnits p.multiplier) (attempt : Nat) :
    Climbs (p.multiplier.pow (Nat.min attempt maxInt32))
      (p.multiplier.pow (Nat.min (attempt + 1) maxInt32)) := by
  rcases Nat.lt_or_ge attempt maxInt32 with below | past
  · rw [show Nat.min attempt maxInt32 = attempt from Nat.min_eq_left (Nat.le_of_lt below),
      show Nat.min (attempt + 1) maxInt32 = attempt + 1 from Nat.min_eq_left below]
    exact pow_climbs growing attempt
  · rw [show Nat.min attempt maxInt32 = maxInt32 from Nat.min_eq_right past,
      show Nat.min (attempt + 1) maxInt32 = maxInt32 from
        Nat.min_eq_right (Nat.le_succ_of_le past)]
    exact .refl (pow_reaches growing maxInt32)

/-- What is capped never goes down. -/
theorem capped_climbs (growing : Reaches oneUnits p.multiplier) (attempt : Nat) :
    Climbs (p.capped attempt) (p.capped (attempt + 1)) := by
  rw [capped_eq, capped_eq]
  exact (power_climbs growing attempt).cutTo_mul _ (ofNat_reaches_zero _)
    (pow_reaches growing _).some

theorem capped_climbs_cap (growing : Reaches oneUnits p.multiplier) (attempt : Nat) :
    Climbs (p.capped attempt) (ofNat p.maxDelay.millis) := by
  rw [capped_eq]
  exact cutTo_mul_climbs_cap _ (ofNat_reaches_zero _) (pow_reaches growing _).some

/-- Without jitter the delay is what is capped, in whole milliseconds. -/
theorem delayMillis_plain (plain : p.jitter = false) (growing : Reaches oneUnits p.multiplier)
    (attempt : Nat) (draw : Binary64) :
    p.delayMillis attempt draw = (p.capped attempt).truncate maxUInt64 := by
  have number := (capped_climbs growing attempt).reaches_zero
  simp only [delayMillis, plain, Bool.false_eq_true, if_false]
  rw [number.max_zero]

/-- Delays never decrease and respect the cap. The multiplier is at least one, whole or not, and the
cap, in milliseconds, is a number that binary64 holds together with all whole numbers below it. -/
theorem delays_never_decrease (p : RetryPolicy) (attempt : Nat) (draw : Binary64)
    (plain : p.jitter = false) (growing : Binary64.one.atMost p.multiplier = true)
    (bound : p.maxDelay.millis ≤ 2 ^ 53) :
    (p.delay attempt draw).nanos ≤ (p.delay (attempt + 1) draw).nanos ∧
      (p.delay (attempt + 1) draw).nanos ≤ p.maxDelay.nanos := by
  have growing := reaches_of_atMost growing
  have fits : p.maxDelay.millis ≤ maxUInt64 := Nat.le_trans bound (by decide)
  have step : p.delayMillis attempt draw ≤ p.delayMillis (attempt + 1) draw := by
    rw [delayMillis_plain plain growing, delayMillis_plain plain growing]
    exact (capped_climbs growing attempt).truncate_le maxUInt64
  have cap : p.delayMillis (attempt + 1) draw ≤ p.maxDelay.millis := by
    have whole := truncate_whole fits
    rw [← ofNat_finite bound, (ofNat_reaches_zero _).max_zero] at whole
    rw [delayMillis_plain plain growing]
    exact whole ▸ (capped_climbs_cap growing (attempt + 1)).truncate_le maxUInt64
  simp only [delay, Span.ofMillis]
  constructor
  · exact Nat.mul_le_mul_right _ step
  · exact Nat.le_trans (Nat.mul_le_mul_right _ cap) (Nat.div_mul_le_self _ _)

/-- Immediate retries with a factor of three: the power overflows between the attempts 646 and
647. -/
def tripling : RetryPolicy :=
  { standard with initialDelay := .ofMillis 0, multiplier := .ofNat 3 }

theorem delays_never_decrease_tripling :
    (tripling.delay 646 .one).nanos ≤ (tripling.delay 647 .one).nanos ∧
      (tripling.delay 647 .one).nanos ≤ tripling.maxDelay.nanos :=
  delays_never_decrease tripling 646 .one rfl (by decide +kernel) (by decide +kernel)

end RetryPolicy
end CouponSale

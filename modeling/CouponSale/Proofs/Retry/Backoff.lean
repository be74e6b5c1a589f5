import CouponSale.Proofs.Number.Rounding
import CouponSale.Settings

/-!
Delays that double. Computed in binary64, they are the initial delay times a power of two up to the
cap, as if they were computed on whole numbers: what is below the cap is exact, and what is above it
stays above, infinity included. Just a delay of nothing is different, which is not a number any more
once the power is infinite; the cap stands in for it.
-/
namespace CouponSale

namespace Binary64

theorem units_lt_overflow {n : Nat} (bound : n ≤ twoTo 53) : n * oneUnits < overflowUnits := by
  calc n * oneUnits
      ≤ twoTo 53 * oneUnits := Nat.mul_le_mul_right oneUnits bound
    _ = twoTo (53 + 1074) := by rw [twoTo_add, oneUnits]
    _ < overflowUnits := by
      rw [overflowUnits]
      exact twoTo_lt (by omega)

theorem ofNat_finite {n : Nat} (bound : n ≤ twoTo 53) :
    ofNat n = .finite false (n * oneUnits) := by
  rw [ofNat_of_le bound, ofMagnitude_of_lt (units_lt_overflow bound)]

theorem ofNat_zero : ofNat 0 = .finite false 0 := by
  have exact := @ofNat_finite 0 (Nat.zero_le _)
  rwa [Nat.zero_mul] at exact

theorem powerOfTwo_finite {n : Nat} (bound : n < 1024) :
    powerOfTwo n = .finite false (twoTo (1074 + n)) := by
  refine ofMagnitude_of_lt ?_
  rw [overflowUnits]
  exact twoTo_lt (by omega)

theorem powerOfTwo_infinite {n : Nat} (bound : 1024 ≤ n) : powerOfTwo n = .infinite false := by
  refine ofMagnitude_of_le ?_
  rw [overflowUnits]
  exact twoTo_le (by omega)

/-- A whole number comes through the final cut unharmed. -/
theorem truncate_whole {n top : Nat} (bound : n ≤ top) :
    ((finite false (n * oneUnits)).max (.finite false 0)).truncate top = n := by
  have positive : (finite false (n * oneUnits)).max (.finite false 0) =
      .finite false (n * oneUnits) := by
    have above : ¬ signed false (n * oneUnits) < signed false 0 :=
      Int.not_lt.mpr (Int.natCast_nonneg _)
    simp only [Binary64.max, below, above, decide_false, Bool.false_eq_true, if_false]
  rw [positive]
  simp only [truncate, Bool.false_eq_true, if_false]
  rw [Nat.mul_div_cancel n oneUnits_pos]
  exact Nat.min_eq_right bound

end Binary64

namespace RetryPolicy

open Binary64

variable {p : RetryPolicy} {attempt : Nat}

theorem growth_of_two (double : p.multiplier = .ofNat 2) :
    p.growth attempt =
      .ofNat p.initialDelay.millis * powerOfTwo (Nat.min attempt maxInt32) := by
  rw [growth, double, pow_two]

/-- What stays small is exact. -/
theorem growth_exact (double : p.multiplier = .ofNat 2) (few : attempt < 1024)
    (small : p.initialDelay.millis * 2 ^ attempt < twoTo 53) :
    p.growth attempt = .finite false (p.initialDelay.millis * 2 ^ attempt * oneUnits) := by
  have start : p.initialDelay.millis < twoTo 53 :=
    Nat.lt_of_le_of_lt (Nat.le_mul_of_pos_right _ (twoTo_pos attempt)) small
  have same : Nat.min attempt maxInt32 = attempt :=
    Nat.min_eq_left (by unfold maxInt32; omega)
  have fits : Representable (p.initialDelay.millis * 2 ^ attempt * oneUnits) :=
    representable_mul_twoTo (representable_of_lt small) 1074
  have product : p.initialDelay.millis * oneUnits * twoTo (1074 + attempt) =
      p.initialDelay.millis * 2 ^ attempt * oneUnits * oneUnits := by
    rw [twoTo_add, oneUnits, show twoTo attempt = 2 ^ attempt from rfl]
    ring
  rw [growth_of_two double, same, ofNat_finite (Nat.le_of_lt start), powerOfTwo_finite few,
    finite_mul_finite, product, Bool.xor_false, ofUnits_false, fits.roundUnits oneUnits_pos,
    ofMagnitude_of_lt (units_lt_overflow (Nat.le_of_lt small))]

/-- What is past a cap stays past it. -/
theorem growth_reaches (double : p.multiplier = .ofNat 2) {cap : Nat} (bound : cap < twoTo 53)
    (some : p.initialDelay.millis ≠ 0) (large : cap ≤ p.initialDelay.millis * 2 ^ attempt) :
    Reaches (cap * oneUnits) (p.growth attempt) := by
  rw [growth_of_two double]
  generalize p.initialDelay.millis = start at some large ⊢
  generalize exponent : Nat.min attempt maxInt32 = n
  -- The cut of the exponent does not matter: the power is past the cap by itself there.
  have large : cap ≤ start * twoTo n := by
    rcases Nat.le_total attempt maxInt32 with le | ge
    · rw [← exponent, show Nat.min attempt maxInt32 = attempt from Nat.min_eq_left le]
      exact large
    · have far : 53 ≤ n := by
        rw [← exponent, show Nat.min attempt maxInt32 = maxInt32 from Nat.min_eq_right ge]
        decide
      calc cap
          ≤ twoTo 53 := Nat.le_of_lt bound
        _ ≤ twoTo n := twoTo_le far
        _ ≤ start * twoTo n := Nat.le_mul_of_pos_left _ (by omega)
  have factor : Nat.min start (Nat.max cap 1) < twoTo 53 :=
    Nat.lt_of_le_of_lt (Nat.min_le_right _ _) (Nat.max_lt.mpr ⟨bound, by decide⟩)
  have left := ofNat_reaches factor (Nat.min_le_left start _)
  have right : Reaches (twoTo (1074 + n)) (powerOfTwo n) := ofMagnitude_reaches (Nat.le_refl _)
  have positive : 0 < Nat.min start (Nat.max cap 1) :=
    Nat.lt_min.mpr ⟨by omega, Nat.lt_of_lt_of_le Nat.one_pos (Nat.le_max_right _ _)⟩
  have enough : cap ≤ Nat.min start (Nat.max cap 1) * twoTo n := by
    rcases Nat.le_total start (Nat.max cap 1) with le | ge
    · rw [show Nat.min start (Nat.max cap 1) = start from Nat.min_eq_left le]
      exact large
    · rw [show Nat.min start (Nat.max cap 1) = Nat.max cap 1 from Nat.min_eq_right ge]
      exact Nat.le_trans (Nat.le_max_left _ _) (Nat.le_mul_of_pos_right _ (twoTo_pos n))
  refine left.mul right (Nat.mul_pos positive oneUnits_pos) (twoTo_pos _)
    (representable_mul_twoTo (representable_of_lt bound) 1074) ?_
  calc cap * oneUnits * oneUnits
      ≤ Nat.min start (Nat.max cap 1) * twoTo n * oneUnits * oneUnits :=
        Nat.mul_le_mul_right _ (Nat.mul_le_mul_right _ enough)
    _ = Nat.min start (Nat.max cap 1) * oneUnits * twoTo (1074 + n) := by
      rw [twoTo_add, oneUnits]
      ring

/-- Nothing times an infinite power is not a number. -/
theorem growth_nan (double : p.multiplier = .ofNat 2) (nothing : p.initialDelay.millis = 0)
    (many : 1024 ≤ attempt) : p.growth attempt = .nan := by
  have exponent : 1024 ≤ Nat.min attempt maxInt32 := Nat.le_min.mpr ⟨many, by decide⟩
  rw [growth_of_two double, nothing, powerOfTwo_infinite exponent, ofNat_zero]
  rfl

/-- What is exact and within the cap is the delay. -/
theorem capped_within (double : p.multiplier = .ofNat 2) (bound : p.maxDelay.millis < twoTo 53)
    (few : attempt < 1024) (within : p.initialDelay.millis * 2 ^ attempt ≤ p.maxDelay.millis) :
    p.capped attempt = .finite false (p.initialDelay.millis * 2 ^ attempt * oneUnits) := by
  have order : ¬ signed false (p.maxDelay.millis * oneUnits) <
      signed false (p.initialDelay.millis * 2 ^ attempt * oneUnits) :=
    Int.not_lt.mpr (Int.ofNat_le.mpr (Nat.mul_le_mul_right oneUnits within))
  rw [capped, ofNat_finite (Nat.le_of_lt bound),
    growth_exact double few (Nat.lt_of_le_of_lt within bound)]
  simp only [isFinite, if_true, Binary64.min, below, order, decide_false, Bool.false_eq_true,
    if_false]

/-- The delay before any jitter of a policy that doubles, unless nothing has been doubled until it
overflows. -/
theorem capped_of_two (double : p.multiplier = .ofNat 2) (bound : p.maxDelay.millis < twoTo 53)
    (sound : p.initialDelay.millis ≠ 0 ∨ attempt < 1024) :
    p.capped attempt = .finite false
      (Nat.min (p.initialDelay.millis * 2 ^ attempt) p.maxDelay.millis * oneUnits) := by
  rcases Nat.lt_or_ge p.maxDelay.millis (p.initialDelay.millis * 2 ^ attempt) with past | within
  · have some : p.initialDelay.millis ≠ 0 := by
      intro nothing
      simp [nothing] at past
    have reaches := growth_reaches double bound some (Nat.le_of_lt past)
    rw [capped, ofNat_finite (Nat.le_of_lt bound), reaches.min,
      show Nat.min _ p.maxDelay.millis = _ from Nat.min_eq_right (Nat.le_of_lt past)]
  · have few : attempt < 1024 := by
      rcases sound with some | few
      · have power : twoTo attempt < twoTo 53 :=
          calc twoTo attempt
              ≤ p.initialDelay.millis * 2 ^ attempt := Nat.le_mul_of_pos_left _ (by omega)
            _ < twoTo 53 := Nat.lt_of_le_of_lt within bound
        have exponent : attempt < 53 := (Nat.pow_lt_pow_iff_right (by omega)).mp power
        omega
      · exact few
    rw [capped_within double bound few within,
      show Nat.min (_ * _) p.maxDelay.millis = _ from Nat.min_eq_left within]

/-- Without jitter the delay is a whole number of milliseconds, whatever is drawn. -/
theorem delayMillis_of_capped (plain : p.jitter = false) {ms : Nat}
    (exact : p.capped attempt = .finite false (ms * oneUnits)) (top : ms ≤ maxUInt64)
    (draw : Binary64) : p.delayMillis attempt draw = ms := by
  simp only [delayMillis, plain, Bool.false_eq_true, if_false]
  rw [exact]
  exact truncate_whole top

theorem maxDelay_le (bound : p.maxDelay.millis < twoTo 53) : p.maxDelay.millis ≤ maxUInt64 := by
  have top : twoTo 53 ≤ maxUInt64 := by decide
  omega

theorem delayMillis_of_two (double : p.multiplier = .ofNat 2) (plain : p.jitter = false)
    (bound : p.maxDelay.millis < twoTo 53) (sound : p.initialDelay.millis ≠ 0 ∨ attempt < 1024)
    (draw : Binary64) : p.delayMillis attempt draw =
      Nat.min (p.initialDelay.millis * 2 ^ attempt) p.maxDelay.millis :=
  delayMillis_of_capped plain (capped_of_two double bound sound)
    (Nat.le_trans (Nat.min_le_right _ _) (maxDelay_le bound)) draw

/-- A delay of nothing becomes the cap where the power of two is infinite. -/
theorem delayMillis_lost (double : p.multiplier = .ofNat 2) (plain : p.jitter = false)
    (bound : p.maxDelay.millis < twoTo 53) (nothing : p.initialDelay.millis = 0)
    (many : 1024 ≤ attempt) (draw : Binary64) :
    p.delayMillis attempt draw = p.maxDelay.millis := by
  refine delayMillis_of_capped plain ?_ (maxDelay_le bound) draw
  rw [capped, growth_nan double nothing many, ofNat_finite (Nat.le_of_lt bound)]
  rfl

end RetryPolicy

namespace Settings

/-- The delays of the pool that some settings ask for: in milliseconds, the base delay times a power
of two, and no more than 30 s, exactly. But a base delay of nothing gives 30 s from the retry on
where the power of two is not finite. -/
theorem backoff_exact (s : Settings) (attempt : Nat) (draw : Binary64) :
    (s.pool.baseDelayMs ≠ 0 ∨ attempt < 1024 → s.poolConfig.retry.delay attempt draw =
      .ofMillis (min (s.pool.baseDelayMs.toNat * 2 ^ attempt) 30000)) ∧
    (s.pool.baseDelayMs = 0 → 1024 ≤ attempt →
      s.poolConfig.retry.delay attempt draw = .ofMillis 30000) := by
  have start : s.poolConfig.retry.initialDelay.millis = s.pool.baseDelayMs.toNat :=
    Span.millis_ofMillis _
  have cap : s.poolConfig.retry.maxDelay.millis = 30000 := by
    show (Span.ofSeconds 30).millis = 30000
    decide
  have double : s.poolConfig.retry.multiplier = .ofNat 2 := by
    simp only [poolConfig, RetryPolicy.standard]
  have plain : s.poolConfig.retry.jitter = false := rfl
  have bound : s.poolConfig.retry.maxDelay.millis < Binary64.twoTo 53 := by
    rw [cap]
    decide
  constructor
  · intro sound
    have sound : s.poolConfig.retry.initialDelay.millis ≠ 0 ∨ attempt < 1024 := by
      rw [start]
      exact sound.imp_left fun some nothing => some (UInt64.toNat_inj.mp nothing)
    rw [RetryPolicy.delay, RetryPolicy.delayMillis_of_two double plain bound sound, start, cap]
  · intro nothing many
    have nothing : s.poolConfig.retry.initialDelay.millis = 0 := by
      rw [start, nothing]
      rfl
    rw [RetryPolicy.delay, RetryPolicy.delayMillis_lost double plain bound nothing many, cap]

/-- Settings under which failed writes are tried again at once, more than a thousand times. -/
def immediate : Settings :=
  ofLookup (lookupIn [("POOL_BASE_DELAY_MS", "0"), ("POOL_MAX_RETRIES", "1025")])

/-- Not so at the last retry, although no multiple of nothing is more than nothing. -/
theorem immediate_waits : immediate.pool.baseDelayMs.toNat = 0 ∧
    immediate.poolConfig.retry.delay 1024 .one = .ofMillis 30000 ∧
    immediate.poolConfig.retry.delay 1024 .one ≠
      .ofMillis (min (immediate.pool.baseDelayMs.toNat * 2 ^ 1024) 30000) := by decide +kernel

theorem backoff_exact_immediate :
    immediate.poolConfig.retry.delay 1023 .one = .ofMillis 0 ∧
      immediate.poolConfig.retry.delay 1024 .one = .ofMillis 30000 := by
  have nothing : immediate.pool.baseDelayMs = 0 := by decide +kernel
  obtain ⟨exact, _⟩ := backoff_exact immediate 1023 .one
  obtain ⟨_, lost⟩ := backoff_exact immediate 1024 .one
  refine ⟨?_, lost nothing (by decide)⟩
  rw [exact (.inr (by decide)), nothing, UInt64.toNat_zero, Nat.zero_mul]
  rfl

end Settings
end CouponSale

import CouponSale.Number.Binary64
import CouponSale.Time.Span

/-!
Exponential backoff. The delay before retry `n`, counted from zero, is the initial delay times
the `n`-th power of the multiplier, capped; computed in binary64 and in milliseconds, the power by
repeated squaring with each product rounded. An exponent above 2147483647 counts as that number.
With jitter the delay is scaled by a factor between one half and one, which the caller draws.
-/
namespace CouponSale

/-- How often a failed operation is tried again, and how long to wait before that. -/
structure RetryPolicy where
  maxRetries : Nat
  initialDelay : Span
  maxDelay : Span
  multiplier : Binary64
  jitter : Bool
  deriving DecidableEq, Repr, Inhabited

namespace RetryPolicy

/-- Three retries, from 100 ms, doubling, to at most 30 s. -/
def standard : RetryPolicy where
  maxRetries := 3
  initialDelay := .ofMillis 100
  maxDelay := .ofSeconds 30
  multiplier := .ofNat 2
  jitter := false

/-- The same policy, multipliers being compared as numbers: one that is not a number differs
from itself. -/
def same (p q : RetryPolicy) : Bool :=
  p.maxRetries = q.maxRetries ∧ p.initialDelay = q.initialDelay ∧ p.maxDelay = q.maxDelay
    ∧ p.multiplier.same q.multiplier ∧ p.jitter = q.jitter

/-- The delay before the cap, in milliseconds. -/
def growth (p : RetryPolicy) (attempt : Nat) : Binary64 :=
  Binary64.ofNat p.initialDelay.millis * p.multiplier.pow (Nat.min attempt maxInt32)

/-- The delay in milliseconds before any jitter. A growth that is not finite is cut to the cap. -/
def capped (p : RetryPolicy) (attempt : Nat) : Binary64 :=
  let cap := Binary64.ofNat p.maxDelay.millis
  let grown := p.growth attempt
  if grown.isFinite then grown.min cap else cap

/-- The delay before retry `attempt`, in whole milliseconds; `draw` matters only with jitter. -/
def delayMillis (p : RetryPolicy) (attempt : Nat) (draw : Binary64) : Nat :=
  let ms := if p.jitter then p.capped attempt * draw else p.capped attempt
  (ms.max (.finite false 0)).truncate maxUInt64

def delay (p : RetryPolicy) (attempt : Nat) (draw : Binary64) : Span :=
  .ofMillis (p.delayMillis attempt draw)

/-- The draws that jitter can make. -/
def Draw (draw : Binary64) : Prop := draw.below .half = false ∧ Binary64.one.below draw = false

instance (draw : Binary64) : Decidable (Draw draw) := inferInstanceAs (Decidable (_ ∧ _))

/-- A delay of this policy under some jitter: at most the delay without jitter, and below half of
it by no more than the part of a millisecond that is cut off. -/
def jittered (p : RetryPolicy) (attempt ms : Nat) : Bool :=
  let base := { p with jitter := false }.delayMillis attempt .one
  base / 2 ≤ ms + 1 ∧ ms ≤ base

end RetryPolicy
end CouponSale

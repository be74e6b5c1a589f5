import CouponSale.Log
import CouponSale.Retry.Policy

/-!
Running an operation again until it succeeds or its retries are used up. The operation is given
by the results of its calls; the clock is virtual and moves only during the delays. A delay takes no
longer than the longest pause of the timer.
-/
namespace CouponSale.Retry

/-- What running an operation comes to. -/
structure Run (ε α : Type) where
  result : Except ε α
  /-- The time of each call, in milliseconds after the first. -/
  times : List Nat
  log : List LogRecord

def succeeded (attempt : Nat) : List LogRecord :=
  if attempt = 0 then []
  else [.info "Operation succeeded after retry" [.ofNat "attempt" attempt]]

def gaveUp (attempt : Nat) (error : String) : LogRecord :=
  .error "Operation failed after max retries" [.ofNat "attempt" attempt, .ofText "error" error]

def retrying (attempt delay : Nat) (error : String) : LogRecord :=
  .warn "Operation failed, retrying..."
    [.ofNat "attempt" attempt, .ofNat "delay_ms" delay, .ofText "error" error]

/-- The run from call `attempt` on, a number of retries being left. -/
def runFrom {ε α : Type} (longest : Nat) (policy : RetryPolicy) (describe : ε → String)
    (draw : Binary64) (results : Nat → Except ε α) : Nat → Nat → Nat → Run ε α
  | 0, attempt, now =>
    match results attempt with
    | .ok a => ⟨.ok a, [now], succeeded attempt⟩
    | .error e => ⟨.error e, [now], [gaveUp attempt (describe e)]⟩
  | left + 1, attempt, now =>
    match results attempt with
    | .ok a => ⟨.ok a, [now], succeeded attempt⟩
    | .error e =>
      let ms := policy.delayMillis attempt draw
      let rest := runFrom longest policy describe draw results left (attempt + 1)
        (now + (Span.ofMillis ms).pauseWithin longest)
      { rest with
        times := now :: rest.times
        log := retrying attempt ms (describe e) :: rest.log }

/-- Calls the operation until a call succeeds, at most `maxRetries` times after the first. Call
`n` answers `results n`, and `longest` is the longest pause of the timer. -/
def runWithin {ε α : Type} (longest : Nat) (policy : RetryPolicy) (describe : ε → String)
    (draw : Binary64) (results : Nat → Except ε α) : Run ε α :=
  runFrom longest policy describe draw results policy.maxRetries 0 0

/-- The run under the timer of the program. -/
def run {ε α : Type} (policy : RetryPolicy) (describe : ε → String) (draw : Binary64)
    (results : Nat → Except ε α) : Run ε α :=
  runWithin Span.longestPause policy describe draw results

end CouponSale.Retry

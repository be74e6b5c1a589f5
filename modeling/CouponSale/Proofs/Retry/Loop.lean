import CouponSale.Retry.Loop
import Mathlib.Algebra.BigOperators.Group.Finset.Basic
import Mathlib.Data.ENat.Lattice

/-!
What it costs to run an operation again. The operation may go on for ever, each of its calls having
a result. The run ends with the first success or with the last call that is allowed, returns the
result of that call, and makes each call after all the pauses before it, whatever the longest pause
of the timer is. It goes the same way when calls are counted in a word of 32 bits.
-/
namespace CouponSale.Retry

open Finset (sum_range_succ')

variable {ε α : Type} {longest : Nat} {policy : RetryPolicy} {describe : ε → String}
  {draw : Binary64} {results : Nat → Except ε α}

/-- The number of the first call that succeeds; infinite when none does. -/
noncomputable def firstSuccess (results : Nat → Except ε α) : ℕ∞ :=
  ⨅ n ∈ {n | (results n).isOk}, (n : ℕ∞)

theorem firstSuccess_le {n : Nat} (succeeds : (results n).isOk) : firstSuccess results ≤ n :=
  iInf₂_le n succeeds

theorem le_firstSuccess {n : Nat} (fails : ∀ m < n, (results m).isOk = false) :
    n ≤ firstSuccess results := by
  refine le_iInf₂ fun m succeeds => ?_
  by_contra earlier
  have earlier : m < n := by exact_mod_cast not_le.mp earlier
  have failed := fails m earlier
  simp_all

theorem fails_before {n : Nat} (earlier : n < firstSuccess results) :
    (results n).isOk = false := by
  by_contra succeeds
  exact absurd (firstSuccess_le (by simpa using succeeds)) (not_le.mpr earlier)

theorem succeeds_at {n : Nat} (first : firstSuccess results = n) : (results n).isOk := by
  by_contra fails
  have after : ((n + 1 : Nat) : ℕ∞) ≤ firstSuccess results := by
    refine le_firstSuccess fun m earlier => ?_
    rcases Nat.lt_succ_iff_lt_or_eq.mp earlier with before | rfl
    · exact fails_before (first ▸ by exact_mod_cast before)
    · simpa using fails
  rw [first] at after
  exact absurd (by exact_mod_cast after) (Nat.not_succ_le_self n)

/-- The pause before call `n + 1`, in milliseconds. -/
def pauseAfter (longest : Nat) (policy : RetryPolicy) (draw : Binary64) (n : Nat) : Nat :=
  (policy.delay n draw).pauseWithin longest

/-- A delay of whole milliseconds is waited out, unless it is longer than the longest pause. -/
theorem pauseAfter_of_plain (plain : policy.jitter = false) (n : Nat) :
    pauseAfter longest policy draw n = min (policy.delay n .one).millis longest := by
  have same : policy.delay n draw = policy.delay n .one := by
    simp [RetryPolicy.delay, RetryPolicy.delayMillis, plain]
  rw [pauseAfter, same, RetryPolicy.delay, Span.pauseWithin, Span.millis_ofMillis,
    Span.ticks_ofMillis]

/-- What becomes of a run from one call on: it makes so many calls more. -/
structure Goes (longest : Nat) (policy : RetryPolicy) (draw : Binary64) (results : Nat → Except ε α)
    (left attempt now : Nat) (run : Run ε α) (more : Nat) : Prop where
  few : more ≤ left
  failed : ∀ n < more, (results (attempt + n)).isOk = false
  ended : more = left ∨ (results (attempt + more)).isOk
  result : run.result = results (attempt + more)
  times : run.times = (List.range (more + 1)).map fun n =>
    now + ∑ m ∈ Finset.range n, pauseAfter longest policy draw (attempt + m)

theorem Goes.last {left attempt now : Nat} {run : Run ε α}
    (ended : left = 0 ∨ (results attempt).isOk) (result : run.result = results attempt)
    (times : run.times = [now]) : Goes longest policy draw results left attempt now run 0 where
  few := Nat.zero_le _
  failed _ none := absurd none (Nat.not_lt_zero _)
  ended := ended.imp_left Eq.symm
  result := result
  times := by simp [times]

/-- One failed call more in front. -/
theorem Goes.again {left attempt now more : Nat} {rest run : Run ε α}
    (fails : (results attempt).isOk = false)
    (goes : Goes longest policy draw results left (attempt + 1)
      (now + pauseAfter longest policy draw attempt) rest more)
    (result : run.result = rest.result) (times : run.times = now :: rest.times) :
    Goes longest policy draw results (left + 1) attempt now run (more + 1) := by
  have next : ∀ n, attempt + 1 + n = attempt + (n + 1) := fun n => by omega
  obtain ⟨few, failed, ended, last, later⟩ := goes
  refine ⟨Nat.succ_le_succ few, ?_, ?_, ?_, ?_⟩
  · intro n earlier
    cases n with
    | zero => exact fails
    | succ n =>
      rw [← next]
      exact failed n (Nat.lt_of_succ_lt_succ earlier)
  · rw [← next]
    exact ended.imp_left (congrArg (· + 1))
  · rw [result, last, next]
  · rw [times, later]
    conv_rhs => rw [List.range_succ_eq_map, List.map_cons, List.map_map]
    congr 1
    apply List.map_congr_left
    intro n _
    simp only [Function.comp_apply, sum_range_succ', next, Nat.add_zero]
    omega

theorem runFrom_goes (left attempt now : Nat) :
    ∃ more, Goes longest policy draw results left attempt now
      (runFrom longest policy describe draw results left attempt now) more := by
  induction left generalizing attempt now with
  | zero =>
    refine ⟨0, .last (.inl rfl) ?_ ?_⟩ <;> cases called : results attempt <;>
      simp [runFrom, called]
  | succ left ih =>
    cases called : results attempt with
    | ok a =>
      refine ⟨0, .last (.inr (by rw [called]; rfl)) ?_ ?_⟩ <;> simp [runFrom, called]
    | error e =>
      obtain ⟨more, goes⟩ := ih (attempt + 1) (now + pauseAfter longest policy draw attempt)
      have fails : (results attempt).isOk = false := by
        rw [called]
        rfl
      refine ⟨more + 1, goes.again fails ?_ ?_⟩ <;>
        simp [runFrom, called, pauseAfter, RetryPolicy.delay]

/-- Where the run ends is where the operation first succeeds or the calls are used up. -/
theorem Goes.length {run : Run ε α} {now more left : Nat}
    (goes : Goes longest policy draw results left 0 now run more) :
    (more : ℕ∞) = min (firstSuccess results) left := by
  refine le_antisymm (le_min ?_ (by exact_mod_cast goes.few)) ?_
  · exact le_firstSuccess fun m earlier => by simpa using goes.failed m earlier
  · rcases goes.ended with used | succeeds
    · exact used ▸ min_le_right _ _
    · rw [Nat.zero_add] at succeeds
      exact min_le_of_left_le (firstSuccess_le succeeds)

theorem toNat_next {attempt top : UInt32} (below : ¬ top ≤ attempt) :
    (attempt + 1).toNat = attempt.toNat + 1 := by
  have bound := top.toNat_lt
  rw [UInt32.le_iff_toNat_le] at below
  rw [UInt32.toNat_add, UInt32.toNat_one, Nat.mod_eq_of_lt (by omega)]

/-- The run as it is made when calls are counted in a word of 32 bits: there is none when the count
overflows. -/
def runInWords (longest : Nat) (policy : RetryPolicy) (describe : ε → String) (draw : Binary64)
    (results : Nat → Except ε α) (top attempt : UInt32) (now : Nat) : Option (Run ε α) :=
  match results attempt.toNat with
  | .ok a => some ⟨.ok a, [now], succeeded attempt.toNat⟩
  | .error e =>
    if top ≤ attempt then some ⟨.error e, [now], [gaveUp attempt.toNat (describe e)]⟩
    else if attempt.toNat + 1 < UInt32.size then
      let ms := policy.delayMillis attempt.toNat draw
      (runInWords longest policy describe draw results top (attempt + 1)
        (now + (Span.ofMillis ms).pauseWithin longest)).map fun rest =>
          { rest with
            times := now :: rest.times
            log := retrying attempt.toNat ms (describe e) :: rest.log }
    else none
termination_by top.toNat - attempt.toNat
decreasing_by
  rename_i below _
  rw [toNat_next below]
  rw [UInt32.le_iff_toNat_le] at below
  omega

/-- The count stays within the number of retries, and so within the word. -/
theorem runInWords_eq (left : Nat) (top attempt : UInt32) (now : Nat)
    (rest : top.toNat = attempt.toNat + left) :
    runInWords longest policy describe draw results top attempt now =
      some (runFrom longest policy describe draw results left attempt.toNat now) := by
  induction left generalizing attempt now with
  | zero =>
    have spent : top ≤ attempt := UInt32.le_iff_toNat_le.mpr (by omega)
    rw [runInWords, runFrom]
    cases results attempt.toNat <;> simp [spent]
  | succ left ih =>
    have bound := top.toNat_lt
    have below : ¬ top ≤ attempt := by
      rw [UInt32.le_iff_toNat_le]
      omega
    have next := toNat_next below
    have fits : attempt.toNat + 1 < UInt32.size := by
      simp only [UInt32.size]
      omega
    rw [runInWords, runFrom]
    cases results attempt.toNat with
    | ok a => rfl
    | error e =>
      dsimp only
      rw [if_neg below, if_pos fits, ih _ _ (by omega), next]
      rfl

/-- A run without jitter under any timer: its calls, its result, their times, and that counting them
in a word does no harm. A pause takes no longer than the longest one of the timer, so that the calls
come after their full delays if none of these is longer. -/
theorem run_contract (longest : Nat) (policy : RetryPolicy) (describe : ε → String)
    (draw : Binary64) (results : Nat → Except ε α) (top : UInt32) (plain : policy.jitter = false)
    (retries : policy.maxRetries = top.toNat) :
    let made := runWithin longest policy describe draw results
    (made.times.length : ℕ∞) = min (firstSuccess results) policy.maxRetries + 1 ∧
    made.result = results (made.times.length - 1) ∧
    (∀ i : Nat, firstSuccess results = i → i ≤ policy.maxRetries →
      made.result = results i ∧ (results i).isOk) ∧
    (policy.maxRetries < firstSuccess results →
      made.result = results policy.maxRetries ∧ (results policy.maxRetries).isOk = false) ∧
    (∀ k < made.times.length, made.times[k]? =
      some (∑ j ∈ Finset.range k, min (policy.delay j .one).millis longest)) ∧
    ((∀ j, (policy.delay j .one).millis ≤ longest) → ∀ k < made.times.length,
      made.times[k]? = some (∑ j ∈ Finset.range k, (policy.delay j .one).millis)) ∧
    runInWords longest policy describe draw results top 0 0 = some made := by
  intro made
  obtain ⟨more, goes⟩ : ∃ more, Goes longest policy draw results policy.maxRetries 0 0 made more :=
    runFrom_goes policy.maxRetries 0 0
  have calls : made.times.length = more + 1 := by simp [goes.times]
  have result : made.result = results more := by simpa using goes.result
  have length := goes.length
  have times : ∀ k < made.times.length, made.times[k]? =
      some (∑ j ∈ Finset.range k, min (policy.delay j .one).millis longest) := by
    intro k made
    rw [calls] at made
    rw [goes.times, List.getElem?_map, List.getElem?_range made, Option.map_some, Nat.zero_add]
    simp only [Nat.zero_add, pauseAfter_of_plain plain]
  refine ⟨?_, ?_, ?_, ?_, times, ?_, ?_⟩
  · rw [calls, ← length, Nat.cast_add, Nat.cast_one]
  · rw [calls, result, Nat.add_sub_cancel]
  · intro i first enough
    have same : more = i := by
      rw [first, min_eq_left (by exact_mod_cast enough)] at length
      exact_mod_cast length
    exact ⟨same ▸ result, succeeds_at first⟩
  · intro late
    have same : more = policy.maxRetries := by
      rw [min_eq_right late.le] at length
      exact_mod_cast length
    exact ⟨same ▸ result, fails_before late⟩
  · intro short k made
    rw [times k made]
    simp only [min_eq_left (short _)]
  · exact (runInWords_eq policy.maxRetries top 0 0 (by simp [retries])).trans rfl

/-- An operation that fails as often as it is told to. -/
def failing (times n : Nat) : Except String Nat := if n < times then .error "busy" else .ok n

theorem firstSuccess_failing (times : Nat) : firstSuccess (failing times) = times := by
  refine le_antisymm (firstSuccess_le ?_) (le_firstSuccess fun m earlier => ?_)
  · simp [failing, Except.isOk, Except.toBool]
  · simp [failing, earlier, Except.isOk, Except.toBool]

theorem run_contract_failing : firstSuccess (failing 2) = (2 : Nat) ∧
    (run .standard id .one (failing 2)).result = .ok 2 ∧
    (run .standard id .one (failing 2)).times[2]? = some (100 + 200) ∧
    (run .standard id .one (failing 9)).result = .error "busy" := by
  obtain ⟨-, -, won, -, times, -⟩ :=
    run_contract Span.longestPause .standard id .one (failing 2) 3 rfl rfl
  obtain ⟨-, -, -, lost, -⟩ :=
    run_contract Span.longestPause .standard id .one (failing 9) 3 rfl rfl
  refine ⟨firstSuccess_failing 2, (won 2 (firstSuccess_failing 2) (by decide)).1, ?_, ?_⟩
  · refine (times 2 (by decide +kernel)).trans ?_
    decide +kernel
  · refine (lost ?_).1
    rw [firstSuccess_failing]
    decide

/-- A policy with a delay that no timer takes. -/
def boundless : RetryPolicy :=
  { RetryPolicy.standard with
    maxRetries := 1, initialDelay := .ofMillis maxUInt64, maxDelay := .ofSeconds maxUInt64 }

/-- The second call comes after the longest pause, long before the delay is over. -/
theorem boundless_early :
    boundless.jitter = false ∧ (boundless.delay 0 .one).millis = maxUInt64 ∧
    (run boundless id .one (failing 1)).times = [0, Span.longestPause] ∧
    (run boundless id .one (failing 1)).times[1]? ≠
      some (∑ j ∈ Finset.range 1, (boundless.delay j .one).millis) := by
  decide +kernel

end CouponSale.Retry

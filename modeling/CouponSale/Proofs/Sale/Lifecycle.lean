import CouponSale.Proofs.Pool.Backpressure
import CouponSale.Proofs.Sale.Stop

/-!
The life of the pool of a sale, over whatever stores. Each move of a sale leaves the pool alone or
makes one move of it. So the crew that a start hired is the crew for good, and a pool that has
stopped stays as the stop left it: later moves refuse tasks and let time pass, and nothing reaches
the stores through the pool.
-/
namespace CouponSale.Sale

variable {σ : Type} [Backend σ] {s t : Sale σ} {notes : List Note} {label : Label}

theorem openCoupon_pool (s : Sale σ) (c : NewCoupon) (now : Moment) :
    (s.openCoupon c now).1.pool = s.pool := by
  unfold openCoupon writeCoupon
  cases c.validate now with
  | error e => rfl
  | ok =>
    obtain ⟨answer, stores, told⟩ := Backend.create s.stores c
    cases answer <;> rfl

theorem seedCoupon_pool (s : Sale σ) (c : Coupon) : (s.seedCoupon c).2.1.pool = s.pool := by
  unfold seedCoupon
  split <;> rfl

theorem reseed_pool (s : Sale σ) (coupon : CouponId) : (s.reseed coupon).2.1.pool = s.pool := by
  unfold reseed
  split
  · rfl
  · split <;> rfl

theorem Move.pool_move (move : Move s label t notes) :
    t.pool = s.pool ∨ ∃ part told, s.pool.step? part = some (t.pool, told) := by
  cases move with
  | @decide call verdict found told =>
    cases verdict with
    | claimed => exact .inr ⟨.submit (.fresh call.user call.coupon), _, rfl⟩
    | _ => exact .inl rfl
  | beginWrite holds step => exact .inr ⟨_, _, step⟩
  | endWrite writes step => exact .inr ⟨_, _, step⟩
  | work apart step => exact .inr ⟨_, _, step⟩
  | manage same step => exact .inr ⟨_, _, step⟩
  | create => exact .inl (openCoupon_pool s _ _)
  | seed found => exact .inl (seedCoupon_pool _ _)
  | reseed => exact .inl (reseed_pool s _)
  | @wait ms => exact .inr ⟨.wait ms, [], rfl⟩
  | _ => exact .inl rfl

theorem leads_pool (run : Leads step? s notes t) : ∃ told, Leads Pool.step? s.pool told t.pool := by
  apply run.keeps (P := fun t _ => ∃ told, Leads Pool.step? s.pool told t.pool)
  · exact ⟨[], .refl _⟩
  · rintro t told label u more ⟨early, sofar⟩ step
    rcases (step?_move step).pool_move with same | ⟨part, later, moves⟩
    · exact ⟨early, same ▸ sofar⟩
    · exact ⟨early ++ later, sofar.trans (.next moves)⟩

/-- What a stopped pool does reaches no store. -/
theorem absorb_stopped {part : Pool.Label} {moved : Pool.Moved} (phased : s.pool.Phased)
    (stopped : s.pool.life = .stopped) (step : s.pool.step? part = some moved) :
    Pool.Frozen s.pool (s.absorb moved).1.pool ∧ (s.absorb moved).1.stores = s.stores := by
  have freezes : Pool.Frozen s.pool moved.1 ∧
      (moved.2 = [] ∨ ∃ task, moved.2 = [.dropped task true]) := phased.freezes stopped step
  obtain ⟨frozen, silent⟩ := freezes
  refine ⟨frozen, ?_⟩
  rcases silent with none | ⟨task, refusal⟩
  · simp [absorb, none, fileLetters]
  · simp [absorb, refusal, fileLetters]

/-- A move of a sale whose pool has stopped leaves the pool as it is but for the time and the
refusals, and the stores as well if it is a move of the pool. -/
theorem Move.stopped (phased : s.pool.Phased) (stopped : s.pool.life = .stopped)
    (move : Move s label t notes) :
    Pool.Frozen s.pool t.pool ∧ (label.pool?.isSome ∨ t.pool ≠ s.pool → t.stores = s.stores) := by
  have aside : t.pool = s.pool → label.pool? = none →
      Pool.Frozen s.pool t.pool ∧
        (label.pool?.isSome ∨ t.pool ≠ s.pool → t.stores = s.stores) := by
    intro same none
    refine ⟨same ▸ .refl _, ?_⟩
    rintro (part | changed)
    · simp [none] at part
    · exact absurd same changed
  cases move with
  | @decide call verdict found told =>
    cases verdict with
    | claimed =>
      have submits : s.pool.step? (.submit (.fresh call.user call.coupon)) =
          some (s.pool.submit (.fresh call.user call.coupon)).2 := rfl
      obtain ⟨frozen, kept⟩ := absorb_stopped phased stopped submits
      exact ⟨frozen, fun _ => kept⟩
    | _ => exact aside rfl rfl
  | beginWrite holds step =>
    rw [Pool.step?, phased.worker_rests stopped] at step
    contradiction
  | endWrite writes step =>
    rw [Pool.step?, phased.worker_rests stopped] at step
    contradiction
  | work apart step =>
    rw [Pool.step?, phased.worker_rests stopped] at step
    contradiction
  | manage same step =>
    obtain ⟨frozen, kept⟩ := absorb_stopped phased stopped step
    exact ⟨frozen, fun _ => kept⟩
  | create => exact aside (openCoupon_pool s _ _) rfl
  | seed found => exact aside (seedCoupon_pool _ _) rfl
  | reseed => exact aside (reseed_pool s _) rfl
  | @wait ms => exact ⟨⟨ms, 0, rfl⟩, fun _ => rfl⟩
  | _ => exact aside rfl rfl

/-- A run of a sale whose pool has stopped leaves the pool as the stop left it. -/
theorem frozen_of_leads (phased : s.pool.Phased) (stopped : s.pool.life = .stopped)
    (run : Leads step? s notes t) : t.pool.Phased ∧ Pool.Frozen s.pool t.pool := by
  apply run.keeps (P := fun t _ => t.pool.Phased ∧ Pool.Frozen s.pool t.pool)
  · exact ⟨phased, .refl _⟩
  · rintro t told label u more ⟨phased, frozen⟩ step
    have move := step?_move step
    refine ⟨?_, frozen.trans (move.stopped phased (frozen.life.trans stopped)).1⟩
    rcases move.pool_move with same | ⟨part, later, moves⟩
    · exact same ▸ phased
    · exact phased.move (Pool.step?_move moves)

/-- The workers of a stopped pool do not move, whatever the stores would answer. -/
theorem workerStep?_stopped (phased : s.pool.Phased) (stopped : s.pool.life = .stopped) (w : Nat)
    (draw : Binary64) : s.workerStep? w draw = none := by
  unfold workerStep?
  split
  · simp [phased.worker_rests stopped]
  · split
    · simp [phased.worker_rests stopped]
    · rfl
  · simp [phased.worker_rests stopped]

/-- The pool of a sale is over: a start is refused, a stop returns the counters as they are, a
submission is refused and only counted; no worker, no scheduler and no stop moves any more, and no
move that the pool has a part in changes the stores. -/
structure Over (s : Sale σ) : Prop where
  start : s.pool.start = (.error .poolStopped, s.pool, []) ∧ s.step? .start = some (s, [])
  stop : s.pool.stop = (s.pool, []) ∧ s.step? .stop = some (s, []) ∧
    s.pool.stopReturns? = some s.pool.stats
  submit : ∀ task, s.pool.submit task = (.error .poolStopped, s.pool.drop task true) ∧
    s.step? (.submit task) =
      some ({ s with pool := (s.pool.drop task true).1 }, [.dropped task true])
  worker : ∀ w draw, s.step? (.worker w draw) = none
  scheduler : s.step? .scheduler = none
  stopper : s.step? .stopper = none
  stores : ∀ label t told, s.step? label = some (t, told) →
    label.pool?.isSome ∨ t.pool ≠ s.pool → t.stores = s.stores

theorem over_of_stopped (phased : s.pool.Phased) (stopped : s.pool.life = .stopped) : s.Over := by
  have quiet : s.pool.stopping = .no := (phased.stopped stopped).2.2
  have starts := Pool.start_stopped stopped
  have stops := Pool.stop_stopped stopped
  constructor
  · refine ⟨starts, ?_⟩
    simp [step?, Pool.step?, quiet, starts, absorb, fileLetters]
  · refine ⟨stops, ?_, by simp [Pool.stopReturns?, stopped]⟩
    simp [step?, Pool.step?, quiet, stops, absorb, fileLetters]
  · intro task
    have refuses := phased.submit_stopped stopped task
    refine ⟨refuses, ?_⟩
    rw [step?, Pool.step?, refuses]
    rfl
  · exact workerStep?_stopped phased stopped
  · simp [step?, Pool.step?, phased.scheduler_rests stopped]
  · simp [step?, Pool.step?, phased.stopper_rests stopped]
  · intro label t told step
    exact ((step?_move step).stopped phased stopped).2

variable {config : Pool.Config} {reserveTimeout : Span} {stores : σ}

/-- Who was hired at a start stays hired. -/
theorem Reachable.manned (run : Reachable config reserveTimeout stores notes s)
    (running : s.pool.life = .running) {more : List Note} (later : Leads step? s more t) :
    t.pool.workers.length = config.crew ∧ t.pool.scheduler.watch ≠ .absent := by
  obtain ⟨told, sofar⟩ := leads_pool run
  obtain ⟨more, rest⟩ := leads_pool later
  have sofar : Pool.Reachable config told s.pool := sofar
  have manned : t.pool.scheduler.watch ≠ .absent := by
    refine (rest.keeps (P := fun p _ => p.Phased ∧ p.scheduler.watch ≠ .absent)
      ⟨sofar.phased, sofar.hired.running running⟩ ?_).2
    rintro p told label q more ⟨phased, manned⟩ step
    exact ⟨phased.move (Pool.step?_move step), (Pool.step?_move step).manned phased manned⟩
  have whole : Pool.Reachable config (told ++ more) t.pool := Leads.trans sofar rest
  exact ⟨whole.config ▸ whole.hired.crew manned, manned⟩

/-- Lifecycle of the pool of a sale. A running pool takes another start without a change, and keeps
the workers and the scheduler that it was started with, whatever comes. A pool that has stopped
stays for ever as the stop left it, however it was stopped: whatever comes, it is later and more
tasks were refused, and the pool is over. -/
theorem Reachable.started_once_stopped_for_good
    (run : Reachable config reserveTimeout stores notes s) :
    (s.pool.life = .running →
      s.pool.start = (.ok (), s.pool, [.poolRunning]) ∧
        (s.pool.stopping = .no → s.step? .start = some (s, [.poolRunning])) ∧
        ∀ more t, Leads step? s more t →
          t.pool.workers.length = config.crew ∧ t.pool.scheduler.watch ≠ .absent) ∧
    (s.pool.life = .stopped →
      ∀ more t, Leads step? s more t → Pool.Frozen s.pool t.pool ∧ t.Over) := by
  constructor
  · intro running
    have starts := Pool.start_running running
    refine ⟨starts, ?_, fun more t later => run.manned running later⟩
    intro quiet
    simp [step?, Pool.step?, quiet, starts, absorb, fileLetters]
  · intro stopped more t later
    obtain ⟨told, sofar⟩ := leads_pool run
    obtain ⟨phased, frozen⟩ := frozen_of_leads (Pool.Reachable.phased sofar) stopped later
    exact ⟨frozen, over_of_stopped phased (frozen.life.trans stopped)⟩

/-- Stores that answer a write after five milliseconds, the first with a failure. -/
def slowStores : Memory := { Memory.new .recording with writing := ⟨0, 1, some (.ofMillis 5)⟩ }

/-- One task waits for its retry and another is being written; a stop cuts off the worker and the
scheduler, and is over. -/
def abandonedRun : List Label :=
  let works (moves : Nat) : List Label := .replicate moves (.worker 0 .one)
  [.submit (.fresh ⟨1⟩ ⟨1⟩), .submit (.fresh ⟨2⟩ ⟨1⟩), .start] ++ works 4 ++ [.wait 5] ++ works 7 ++
    .stop :: .replicate 4 .stopper

/-- More is asked of the pool, and time passes. -/
def calledAgain : List Label := [.submit (.fresh ⟨3⟩ ⟨1⟩), .start, .stop, .wait 100]

/-- After that stop the write that was cut off and the retry that waited stay where they were. -/
theorem stopped_for_good_abandonedRun : ∃ notes s more t,
    Reachable MemorySale.impatient standardTimeout slowStores notes s ∧ s.pool.life = .stopped ∧
      s.pool.writers = 1 ∧ s.pool.retrySide.length = 1 ∧
      run? step? s calledAgain = some (t, more) ∧ t.pool.stats.dropped = 1 ∧
      Pool.Frozen s.pool t.pool ∧ t.Over := by
  have run : ∃ notes s more t, Reachable MemorySale.impatient standardTimeout slowStores notes s ∧
      s.pool.life = .stopped ∧ s.pool.writers = 1 ∧ s.pool.retrySide.length = 1 ∧
      run? step? s calledAgain = some (t, more) ∧ t.pool.stats.dropped = 1 :=
    ⟨_, _, _, _, ⟨abandonedRun, rfl⟩, rfl, rfl, rfl, rfl, rfl⟩
  obtain ⟨notes, s, more, t, run, stopped, writing, waiting, later, refused⟩ := run
  obtain ⟨frozen, done⟩ := run.started_once_stopped_for_good.2 stopped more t ⟨_, later⟩
  exact ⟨notes, s, more, t, run, stopped, writing, waiting, later, refused, frozen, done⟩

end CouponSale.Sale

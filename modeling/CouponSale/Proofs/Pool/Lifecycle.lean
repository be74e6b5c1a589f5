import CouponSale.Proofs.Pool.Phases

/-!
The life of a pool. A crew is hired once: from the first start on, a pool has the workers that it
was built for and one scheduler, whatever is called for later. Once a stop is over nobody of the
crew can move any more, and nothing can happen to the pool but that tasks are refused and that time
passes.
-/
namespace CouponSale.Pool

/-- The same number of workers and the same scheduler, and no start in between. -/
structure SameStaff (p q : Pool) : Prop where
  workers : q.workers.length = p.workers.length
  config : q.config = p.config
  scheduler : q.scheduler.watch = .absent ↔ p.scheduler.watch = .absent
  life : q.life = .running → p.life = .running

/-- The crew is complete once there is a scheduler, and there is one while the pool runs. -/
structure Hired (p : Pool) : Prop where
  crew : p.scheduler.watch ≠ .absent → p.workers.length = p.config.crew
  running : p.life = .running → p.scheduler.watch ≠ .absent

/-- Later, and with more refusals. -/
def Frozen (p q : Pool) : Prop :=
  ∃ ms refused, q = { p with
    now := p.now + ms
    stats := { p.stats with dropped := p.stats.dropped + refused } }

/-- What a stop returns, once it is over: the counters as they are then. -/
def stopReturns? (p : Pool) : Option Stats := if p.life = .stopped then some p.stats else none

variable {config : Config} {p q r : Pool} {notes : List Note} {label : Label}

theorem WorkerMove.staff {w : Nat} {s : Supply} {draining : Bool} {stage : Stage}
    {before after : List Worker}
    (crew : p.workers = before ++ ⟨stage, draining, false⟩ :: after) (place : before.length = w)
    (move : WorkerMove p w s draining stage q notes) : SameStaff p q := by
  have frame := move.frame
  obtain ⟨stage', draining', crew'⟩ := move.crew crew place
  refine ⟨by simp [crew, crew'], frame.config, ?_, fun running => frame.life ▸ running⟩
  rcases frame.scheduler with same | granted
  · rw [same]
  · rw [granted]
    exact (watch_grantPlace p.scheduler).2.2.2 .absent rfl

theorem SchedulerMove.staff {watch : Watch} {waiting : List Entry}
    (keeps : p.scheduler = ⟨watch, waiting, false⟩)
    (move : SchedulerMove p watch waiting q notes) : SameStaff p q := by
  have frame := move.frame
  have there : p.scheduler.watch ≠ .absent := by
    rw [keeps]
    exact move.stays.1
  refine ⟨by rw [frame.workers], frame.config, ?_, fun running => frame.life ▸ running⟩
  refine iff_of_false ?_ there
  cases move with
  | @handOver _ _ batch _ => cases batch <;> simp [Pool.handOver]
  | _ => simp [Pool.schedulerHearStop, Pool.ask, Pool.giveUp]

theorem StopperMove.staff {stopping : Stopping} (move : StopperMove p stopping q notes) :
    SameStaff p q := by
  cases move with
  | cut here stays late => exact ⟨List.length_modify _ _ _, rfl, .rfl, id⟩
  | close => exact ⟨rfl, rfl, .rfl, fun running => by simp at running⟩
  | _ => exact ⟨rfl, rfl, .rfl, id⟩

/-- A move either is the first start or leaves the staff alone. -/
theorem Move.staff (move : Move p label q notes) :
    (p.life = .idle ∧ q.workers.length = q.config.crew ∧ q.scheduler.watch = .fresh) ∨
      SameStaff p q := by
  cases move with
  | start idle quiet => exact .inl ⟨idle, List.length_replicate, rfl⟩
  | worker crew place move => exact .inr (move.staff crew place)
  | scheduler keeps move => exact .inr (move.staff keeps)
  | stopper phase move => exact .inr move.staff
  | _ => exact .inr ⟨rfl, rfl, .rfl, id⟩

theorem Hired.move (hired : p.Hired) (move : Move p label q notes) : q.Hired := by
  rcases move.staff with ⟨_, crew, fresh⟩ | same
  · exact ⟨fun _ => crew, fun _ => by simp [fresh]⟩
  · constructor
    · intro there
      rw [same.workers, same.config]
      exact hired.crew (fun absent => there (same.scheduler.mpr absent))
    · intro running absent
      exact hired.running (same.life running) (same.scheduler.mp absent)

theorem new_hired (config : Config) : (new config).Hired := by
  constructor <;> simp [new]

theorem Reachable.hired (run : Reachable config notes p) : p.Hired := by
  refine (run.keeps (P := fun p _ => p.Hired) (new_hired config) ?_).2
  intro p notes label q more _ hired move
  exact hired.move move

/-- A pool never has more workers than it was built for. -/
theorem Hired.within (hired : p.Hired) (phased : p.Phased) :
    p.workers.length ≤ p.config.crew := by
  by_cases absent : p.scheduler.watch = .absent
  · simp [(phased.absent absent).1]
  · exact Nat.le_of_eq (hired.crew absent)

/-- Who was hired stays hired. -/
theorem Move.manned (phased : p.Phased) (move : Move p label q notes)
    (manned : p.scheduler.watch ≠ .absent) : q.scheduler.watch ≠ .absent := by
  rcases move.staff with ⟨idle, _⟩ | same
  · exact absurd (phased.idle idle).2 manned
  · exact fun absent => manned (same.scheduler.mp absent)

theorem start_running (running : p.life = .running) : p.start = (.ok (), p, [.poolRunning]) := by
  simp [start, running]

theorem start_stopped (stopped : p.life = .stopped) : p.start = (.error .poolStopped, p, []) := by
  simp [start, stopped]

theorem stop_stopped (stopped : p.life = .stopped) : p.stop = (p, []) := by
  simp [stop, stopped]

theorem Phased.submit_stopped (phased : p.Phased) (stopped : p.life = .stopped) (task : Task) :
    p.submit task = (.error .poolStopped, p.drop task true) := by
  simp [submit, (phased.stopped stopped).2.1]

/-- No worker moves once the pool has stopped, whether it has left or was cut off. -/
theorem Phased.worker_rests (phased : p.Phased) (stopped : p.life = .stopped) (w : Nat)
    (s : Supply) : p.workerStep? w s = none := by
  have gone := phased.gone (phased.told (.inr (.inr stopped)))
  unfold workerStep?
  cases here : p.workers[w]? with
  | none => rfl
  | some worker =>
    rcases gone worker (List.mem_of_getElem? here) with left | cut
    · simp [moveWorker?, left]
    · simp [cut]

theorem Phased.scheduler_rests (phased : p.Phased) (stopped : p.life = .stopped) :
    p.schedulerStep? = none := by
  unfold schedulerStep?
  rcases phased.alone (.inr stopped) with absent | left | cut
  · simp [moveScheduler?, absent]
  · simp [moveScheduler?, left]
  · simp [cut]

theorem Phased.stopper_rests (phased : p.Phased) (stopped : p.life = .stopped) :
    p.stopStep? = none := by
  simp [stopStep?, (phased.stopped stopped).2.2]

theorem Frozen.refl (p : Pool) : Frozen p p := ⟨0, 0, rfl⟩

theorem Frozen.trans (first : Frozen p q) (second : Frozen q r) : Frozen p r := by
  obtain ⟨early, some, rfl⟩ := first
  obtain ⟨later, more, rfl⟩ := second
  exact ⟨early + later, some + more, by simp [Nat.add_assoc]⟩

theorem Frozen.life (frozen : Frozen p q) : q.life = p.life := by
  obtain ⟨_, _, rfl⟩ := frozen
  rfl

/-- Whatever is done to a pool that has stopped, it stays as it is, but for the time and the
refusals; and nothing is reported but refusals. -/
theorem Phased.freezes (phased : p.Phased) (stopped : p.life = .stopped)
    (step : p.step? label = some (q, notes)) :
    Frozen p q ∧ (notes = [] ∨ ∃ task, notes = [.dropped task true]) := by
  cases label with
  | submit task =>
    rw [step?, phased.submit_stopped stopped] at step
    cases step
    exact ⟨⟨0, 1, rfl⟩, .inr ⟨task, rfl⟩⟩
  | start =>
    rw [step?, if_pos (phased.stopped stopped).2.2, start_stopped stopped] at step
    cases step
    exact ⟨.refl p, .inl rfl⟩
  | stop =>
    rw [step?, if_pos (phased.stopped stopped).2.2, stop_stopped stopped] at step
    cases step
    exact ⟨.refl p, .inl rfl⟩
  | worker w supply =>
    rw [step?, phased.worker_rests stopped] at step
    contradiction
  | scheduler =>
    rw [step?, phased.scheduler_rests stopped] at step
    contradiction
  | stopper =>
    rw [step?, phased.stopper_rests stopped] at step
    contradiction
  | wait ms =>
    cases step
    exact ⟨⟨ms, 0, rfl⟩, .inl rfl⟩

end CouponSale.Pool

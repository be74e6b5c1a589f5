import CouponSale.Proofs.Pool.Moves

/-!
Who is gone when. A stop passes its phases in order: behind the worker it waits for, every worker
has left or was cut off; once the scheduler is told, all workers are gone; once the stop closes
the queues, the scheduler is gone too. What nobody tends any more is empty, unless the scheduler
was cut off over it.
-/
namespace CouponSale.Pool

/-- Has left by itself or was cut off, and never moves again. -/
def Worker.Gone (worker : Worker) : Prop := worker.stage = .left ∨ worker.cut = true

/-- Never started, has left by itself or was cut off, and never moves again. -/
def Scheduler.Gone (s : Scheduler) : Prop := s.watch = .absent ∨ s.watch = .left ∨ s.cut = true

/-- What the phases of a pool's life and of a stop say about the rest of the pool. -/
structure Phased (p : Pool) : Prop where
  idle : p.life = .idle → p.workers = [] ∧ p.scheduler.watch = .absent
  absent : p.scheduler.watch = .absent → p.workers = [] ∧ p.channel = [] ∧ p.scheduler.waiting = []
  shut : p.scheduler.watch = .closing ∨ p.scheduler.watch = .left →
    p.channel = [] ∧ p.channelOpen = false
  left : p.scheduler.watch = .left → p.scheduler.waiting = []
  behind : ∀ w deadline, p.stopping = .awaiting w deadline →
    p.schedulerTold = false ∧ ∀ n worker, n < w → p.workers[n]? = some worker → worker.Gone
  quiet : p.stopping = .no → p.life ≠ .stopped → p.schedulerTold = false
  told : (∃ deadline, p.stopping = .dismissing deadline) ∨ p.stopping = .closing ∨
    p.life = .stopped → p.schedulerTold = true
  gone : p.schedulerTold = true → ∀ worker ∈ p.workers, worker.Gone
  alone : p.stopping = .closing ∨ p.life = .stopped → p.scheduler.Gone
  stopped : p.life = .stopped → p.queue = [] ∧ p.closed = true ∧ p.stopping = .no

variable {p q : Pool} {w : Nat} {s : Supply} {draining : Bool} {stage : Stage} {notes : List Note}

theorem new_phased (config : Config) : (new config).Phased := by
  constructor <;> simp [new]

/-- What a worker leaves alone. -/
structure WorkerFrame (p q : Pool) : Prop where
  config : q.config = p.config
  life : q.life = p.life
  now : q.now = p.now
  closed : q.closed = p.closed
  channelOpen : q.channelOpen = p.channelOpen
  workersTold : q.workersTold = p.workersTold
  schedulerTold : q.schedulerTold = p.schedulerTold
  stopping : q.stopping = p.stopping
  queue : p.queue = [] → q.queue = []
  scheduler : q.scheduler = p.scheduler ∨ q.scheduler = grantPlace p.scheduler
  channel : p.channelOpen = false → q.channel = p.channel

theorem WorkerMove.frame (move : WorkerMove p w s draining stage q notes) : WorkerFrame p q := by
  cases move <;> constructor <;>
    simp_all [Pool.place, Pool.hearStop, Pool.leaveLine, Pool.take, Pool.beginWrite,
      Pool.endWrite, Pool.clear, Pool.giveUp]

theorem modify_append {α : Type} (before after : List α) (a : α) (f : α → α) :
    (before ++ a :: after).modify before.length f = before ++ f a :: after := by
  induction before with
  | nil => rfl
  | cons b before ih => simpa using ih

theorem WorkerMove.stays (move : WorkerMove p w s draining stage q notes) : stage ≠ .left := by
  cases move <;> simp

/-- Only the stage of a worker that moves and what it has heard change in the crew. -/
theorem WorkerMove.crew {before after : List Worker}
    (crew : p.workers = before ++ ⟨stage, draining, false⟩ :: after) (place : before.length = w)
    (move : WorkerMove p w s draining stage q notes) :
    ∃ stage' draining', q.workers = before ++ ⟨stage', draining', false⟩ :: after := by
  subst place
  cases move <;>
    simp_all [Pool.place, Pool.hearStop, Pool.leaveLine, Pool.take, Pool.beginWrite,
      Pool.endWrite, Pool.clear, Pool.giveUp, modify_append]

theorem watch_grantPlace (s : Scheduler) :
    (grantPlace s).cut = s.cut ∧ (grantPlace s).waiting = s.waiting ∧
      (grantPlace s).watch.due = s.watch.due ∧
      ∀ watch, watch.due = [] → ((grantPlace s).watch = watch ↔ s.watch = watch) := by
  unfold grantPlace
  split
  · rename_i entry batch held
    simp only [held, Watch.due, true_and]
    intro watch bare
    cases watch <;> simp_all
  · simp

/-- While a worker moves, the scheduler has not been told: the mover is not gone. -/
theorem Phased.untold {before after : List Worker} (phased : p.Phased)
    (crew : p.workers = before ++ ⟨stage, draining, false⟩ :: after)
    (move : WorkerMove p w s draining stage q notes) : p.schedulerTold = false := by
  cases told : p.schedulerTold with
  | false => rfl
  | true =>
    have gone := phased.gone told ⟨stage, draining, false⟩ (by simp [crew])
    simp [Worker.Gone, move.stays] at gone

theorem Phased.worker {before after : List Worker} (phased : p.Phased)
    (crew : p.workers = before ++ ⟨stage, draining, false⟩ :: after) (place : before.length = w)
    (move : WorkerMove p w s draining stage q notes) : q.Phased := by
  have frame := move.frame
  obtain ⟨stage', draining', crew'⟩ := move.crew crew place
  have stays := move.stays
  have untold := phased.untold crew move
  have manned : p.workers ≠ [] := by simp [crew]
  have watch : ∀ watch : Watch, watch.due = [] →
      (q.scheduler.watch = watch ↔ p.scheduler.watch = watch) := by
    rcases frame.scheduler with same | granted
    · simp [same]
    · rw [granted]
      exact (watch_grantPlace p.scheduler).2.2.2
  have waiting : q.scheduler.waiting = p.scheduler.waiting ∧ q.scheduler.cut = p.scheduler.cut := by
    rcases frame.scheduler with same | granted
    · simp [same]
    · rw [granted]
      exact ⟨(watch_grantPlace p.scheduler).2.1, (watch_grantPlace p.scheduler).1⟩
  have absent := watch .absent rfl
  have closing := watch .closing rfl
  have left := watch .left rfl
  constructor
  · intro idle
    exact absurd (phased.idle (frame.life ▸ idle)).1 manned
  · intro none
    exact absurd (phased.absent (absent.mp none)).1 manned
  · intro shut
    rw [closing, left] at shut
    obtain ⟨empty, closed⟩ := phased.shut shut
    exact ⟨(frame.channel closed).trans empty, frame.channelOpen.trans closed⟩
  · intro gone
    exact waiting.1.trans (phased.left (left.mp gone))
  · intro n deadline awaiting
    obtain ⟨same, behind⟩ := phased.behind n deadline (frame.stopping ▸ awaiting)
    refine ⟨frame.schedulerTold.trans same, ?_⟩
    intro m worker below here
    -- The mover is not among the workers that the stop has passed.
    have beyond : n ≤ before.length := by
      apply Nat.le_of_not_lt
      intro passed
      have gone := behind before.length ⟨stage, draining, false⟩ passed (by simp [crew])
      simp [Worker.Gone, stays] at gone
    apply behind m worker below
    rw [crew', List.getElem?_append_left (by omega)] at here
    rw [crew, List.getElem?_append_left (by omega)]
    exact here
  · intro quiet alive
    exact frame.schedulerTold.trans (phased.quiet (frame.stopping ▸ quiet) (frame.life ▸ alive))
  · rw [frame.stopping, frame.life, frame.schedulerTold]
    exact phased.told
  · intro told
    rw [frame.schedulerTold, untold] at told
    contradiction
  · rw [frame.stopping, frame.life]
    intro phase
    have gone := phased.alone phase
    simpa only [Scheduler.Gone, absent, left, waiting.2] using gone
  · rw [frame.life, frame.closed, frame.stopping]
    intro stopped
    obtain ⟨empty, rest⟩ := phased.stopped stopped
    exact ⟨frame.queue empty, rest⟩

/-- What the scheduler leaves alone. -/
structure SchedulerFrame (p q : Pool) : Prop where
  config : q.config = p.config
  life : q.life = p.life
  now : q.now = p.now
  closed : q.closed = p.closed
  workers : q.workers = p.workers
  workersTold : q.workersTold = p.workersTold
  schedulerTold : q.schedulerTold = p.schedulerTold
  stopping : q.stopping = p.stopping
  inFlight : q.inFlight = p.inFlight

variable {watch : Watch} {waiting : List Entry}

theorem SchedulerMove.frame (move : SchedulerMove p watch waiting q notes) :
    SchedulerFrame p q := by
  cases move <;> constructor <;> rfl

theorem SchedulerMove.stays (move : SchedulerMove p watch waiting q notes) :
    watch ≠ .absent ∧ watch ≠ .left := by
  cases move with
  | hear listens _ => rcases listens with rfl | ⟨_, _, _, rfl⟩ <;> simp
  | _ => simp

theorem Phased.scheduler (phased : p.Phased) (keeps : p.scheduler = ⟨watch, waiting, false⟩)
    (move : SchedulerMove p watch waiting q notes) : q.Phased := by
  have frame := move.frame
  have stays := move.stays
  have running : ¬ (p.stopping = .closing ∨ p.life = .stopped) := by
    intro phase
    have gone := phased.alone phase
    simp [Scheduler.Gone, keeps, stays] at gone
  obtain ⟨idle, absent, shut, left, behind, quiet, told, gone, alone, stopped⟩ := phased
  -- It closes only a queue that is empty and shut, and leaves only when nothing waits.
  have watched : q.scheduler.watch ≠ .absent ∧
      (q.scheduler.watch = .closing ∨ q.scheduler.watch = .left →
        q.channel = [] ∧ q.channelOpen = false) ∧
      (q.scheduler.watch = .left → q.scheduler.waiting = []) := by
    cases move <;> simp_all [Pool.schedulerHearStop, Pool.ask, Pool.handOver, Pool.giveUp]
    split <;> simp
  constructor
  · intro resting
    exact absurd (idle (frame.life ▸ resting)).2 (by simp [keeps, stays])
  · exact fun none => absurd none watched.1
  · exact watched.2.1
  · exact watched.2.2
  · rw [frame.stopping, frame.schedulerTold, frame.workers]
    exact behind
  · rw [frame.stopping, frame.life, frame.schedulerTold]
    exact quiet
  · rw [frame.stopping, frame.life, frame.schedulerTold]
    exact told
  · rw [frame.schedulerTold, frame.workers]
    exact gone
  · rw [frame.stopping, frame.life]
    exact fun phase => absurd phase running
  · rw [frame.life]
    exact fun stopped => absurd (.inr stopped) running

/-- Once the stop has passed the whole crew, everyone is gone. -/
theorem Phased.dismissed {n deadline : Nat} (phased : p.Phased)
    (phase : p.stopping = .awaiting n deadline) (all : p.workers.length ≤ n) :
    ∀ worker ∈ p.workers, worker.Gone := by
  intro worker member
  obtain ⟨m, bound, here⟩ := List.mem_iff_getElem.mp member
  exact (phased.behind n deadline phase).2 m worker (by omega)
    (List.getElem?_eq_some_iff.mpr ⟨bound, here⟩)

/-- The stop goes on to the next worker when the present one is gone. -/
theorem Phased.passed {n deadline : Nat} {crew : List Worker} (phased : p.Phased)
    (phase : p.stopping = .awaiting n deadline) (same : ∀ m < n, crew[m]? = p.workers[m]?)
    (gone : ∀ worker, crew[n]? = some worker → worker.Gone) :
    ∀ m worker, m < n + 1 → crew[m]? = some worker → worker.Gone := by
  intro m worker below here
  rcases Nat.lt_succ_iff_lt_or_eq.mp below with earlier | rfl
  · exact (phased.behind n deadline phase).2 m worker earlier (same m earlier ▸ here)
  · exact gone worker here

theorem Phased.stopper {stopping : Stopping} (phased : p.Phased) (phase : p.stopping = stopping)
    (move : StopperMove p stopping q notes) : q.Phased := by
  have alive : stopping ≠ .no → p.life ≠ .stopped := by
    intro busy stopped
    exact busy (phase.symm.trans (phased.stopped stopped).2.2)
  cases move with
  | @next n deadline worker here left =>
    have untold := (phased.behind _ _ phase).1
    have alive := alive (by simp)
    have behind := @Phased.passed p n deadline p.workers phased phase (fun _ _ => rfl)
      (fun worker at_ => .inl (by simp_all))
    obtain ⟨idle, absent, shut, waits, _, _, _, gone, _, _⟩ := phased
    constructor <;> simp_all
    exact behind
  | @cut n deadline worker here stays late =>
    have untold := (phased.behind _ _ phase).1
    have alive := alive (by simp)
    have behind := @Phased.passed p n deadline (p.workers.modify n ({ · with cut := true })) phased
      phase
      (fun m below => by simp [Nat.ne_of_gt below])
      (fun worker at_ => .inr (by
        rw [List.getElem?_modify_eq, here] at at_
        cases at_
        rfl))
    obtain ⟨idle, absent, shut, waits, _, _, _, gone, _, _⟩ := phased
    constructor <;> simp_all
    exact behind
  | dismiss all =>
    have alive := alive (by simp)
    have gone := phased.dismissed phase all
    obtain ⟨idle, absent, shut, waits, _, _, _, _, _, _⟩ := phased
    constructor <;> simp_all [bury]
  | noScheduler absent =>
    have alive := alive (by simp)
    have told := phased.told (.inl ⟨_, phase⟩)
    obtain ⟨idle, absent, shut, waits, _, _, _, gone, _, _⟩ := phased
    constructor <;> simp_all [Scheduler.Gone]
  | schedulerLeft left =>
    have alive := alive (by simp)
    have told := phased.told (.inl ⟨_, phase⟩)
    obtain ⟨idle, absent, shut, waits, _, _, _, gone, _, _⟩ := phased
    constructor <;> simp_all [Scheduler.Gone]
  | cutScheduler started stays late =>
    have alive := alive (by simp)
    have told := phased.told (.inl ⟨_, phase⟩)
    obtain ⟨idle, absent, shut, waits, _, _, _, gone, _, _⟩ := phased
    constructor <;> simp_all [Scheduler.Gone]
  | close =>
    have told := phased.told (.inr (.inl phase))
    have alone := phased.alone (.inl phase)
    obtain ⟨idle, absent, shut, waits, _, _, _, gone, _, _⟩ := phased
    constructor <;> simp_all [bury]

theorem Phased.move {label : Label} (phased : p.Phased) (move : Move p label q notes) :
    q.Phased := by
  cases move with
  | accept isOpen room =>
    have alive : p.life ≠ .stopped := fun stopped => by
      simp [phased.stopped stopped] at isOpen
    obtain ⟨idle, absent, shut, left, behind, quiet, told, gone, alone, stopped⟩ := phased
    exact ⟨idle, absent, shut, left, behind, quiet, told, gone, alone,
      fun stopped => absurd stopped alive⟩
  | drop closed full =>
    obtain ⟨idle, absent, shut, left, behind, quiet, told, gone, alone, stopped⟩ := phased
    exact ⟨idle, absent, shut, left, behind, quiet, told, gone, alone, stopped⟩
  | start idle quiet =>
    have untold := phased.quiet quiet (by simp [idle])
    constructor <;> simp_all
  | startAgain begun told => exact phased
  | stop alive quiet =>
    have untold := phased.quiet quiet alive
    obtain ⟨idle, absent, shut, left, _, _, _, gone, _, _⟩ := phased
    constructor <;> simp_all
  | stopAgain stopped => exact phased
  | worker crew place move => exact phased.worker crew place move
  | scheduler keeps move => exact phased.scheduler keeps move
  | stopper phase move => exact phased.stopper phase move
  | wait =>
    obtain ⟨idle, absent, shut, left, behind, quiet, told, gone, alone, stopped⟩ := phased
    exact ⟨idle, absent, shut, left, behind, quiet, told, gone, alone, stopped⟩

/-- Whatever every move keeps under the order of phases holds of every reachable pool. -/
theorem Reachable.keeps {config : Config} {P : Pool → List Note → Prop}
    (run : Reachable config notes p) (start : P (new config) [])
    (move : ∀ {p notes label q more}, p.Phased → P p notes → Move p label q more →
      P q (notes ++ more)) : p.Phased ∧ P p notes := by
  apply Leads.keeps (P := fun p notes => p.Phased ∧ P p notes) run ⟨new_phased config, start⟩
  intro p notes label q more kept step
  exact ⟨kept.1.move (step?_move step), move kept.1 kept.2 (step?_move step)⟩

theorem Reachable.phased {config : Config} (run : Reachable config notes p) : p.Phased :=
  (run.keeps (P := fun _ _ => True) trivial fun _ _ _ => trivial).1

theorem Move.config {label : Label} (move : Move p label q notes) : q.config = p.config := by
  cases move with
  | worker crew place move => exact move.frame.config
  | scheduler keeps move => exact move.frame.config
  | stopper phase move => cases move <;> rfl
  | _ => rfl

theorem Move.now {label : Label} (move : Move p label q notes)
    (still : ∀ ms, label ≠ .wait ms) : q.now = p.now := by
  cases move with
  | worker crew place move => exact move.frame.now
  | scheduler keeps move => exact move.frame.now
  | stopper phase move => cases move <;> rfl
  | wait => exact absurd rfl (still _)
  | _ => rfl

theorem Reachable.config {config : Config} (run : Reachable config notes p) :
    p.config = config := by
  refine (run.keeps (P := fun p _ => p.config = config) rfl ?_).2
  intro p notes label q more _ same move
  exact move.config.trans same

end CouponSale.Pool

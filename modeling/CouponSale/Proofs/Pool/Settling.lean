import CouponSale.Proofs.Pool.Conservation
import CouponSale.Proofs.Pool.Effort

/-!
A running pool settles what it was given. Workers never wait for the retry side, and the scheduler
waits for the workers only at a full queue; so as long as a job is open, somebody can move or a
timer runs. As a pool left alone comes to rest, it rests with every accepted task settled.
-/
namespace CouponSale.Pool

/-- A worker can move whatever it is given, or the scheduler can, or a timer runs. -/
def CanMove (p : Pool) : Prop :=
  (∃ w, ∀ supply, (p.workerStep? w supply).isSome) ∨ p.schedulerStep?.isSome ∨
    ∃ time ∈ p.timers, p.now < time

variable {p q : Pool} {w : Nat} {worker : Worker} {notes : List Note} {config : Config}

/-- A worker that cannot move is in line behind another or at an empty queue, or waits for the
answer to a write. -/
theorem Tended.worker_waits (tended : p.Tended) (here : p.workers[w]? = some worker) {s : Supply}
    (waits : p.workerStep? w s = none) :
    (worker.stage = .lined ∧ (p.line.head? = some w → p.queue = [])) ∨
      ∃ job time, worker.stage = .writing job (some time) ∧ p.now < time := by
  obtain ⟨fresh, uncut, stays⟩ := tended.crew worker (List.mem_of_getElem? here)
  have silent : p.hasNews worker = false := by
    simp [hasNews, tended.workersTold]
  simp only [workerStep?, here, uncut, Bool.false_eq_true, if_false] at waits
  unfold moveWorker? at waits
  cases stage : worker.stage with
  | lined =>
    refine .inl ⟨rfl, ?_⟩
    intro first
    cases queued : p.queue with
    | nil => rfl
    | cons job rest => simp [stage, silent, first, queued] at waits
  | writing job due =>
    simp only [stage] at waits
    cases due with
    | none => simp at waits
    | some time =>
      refine .inr ⟨job, time, rfl, ?_⟩
      by_contra late
      simp [Nat.le_of_not_lt late] at waits
  | clearing job failure => cases failure <;> simp [stage] at waits
  | left => exact absurd stage stays
  | _ => simp [stage, silent] at waits

/-- A scheduler that cannot move waits for the clock with all it has, or for a place. -/
theorem Tended.scheduler_waits (tended : p.Tended) (started : p.scheduler.watch ≠ .absent)
    (waits : p.schedulerStep? = none) :
    (p.scheduler.watch = .idle ∧ p.channel = [] ∧
        ∀ entry ∈ p.scheduler.waiting, p.now < entry.readyAt) ∨
      ∃ entry batch, p.scheduler.watch = .handing entry batch .awaited := by
  simp only [schedulerStep?, tended.uncut, Bool.false_eq_true, if_false] at waits
  unfold moveScheduler? at waits
  cases watch : p.scheduler.watch with
  | absent => exact absurd watch started
  | fresh => simp [watch] at waits
  | idle =>
    simp only [watch, tended.schedulerTold, Bool.false_eq_true, if_false] at waits
    cases queued : p.channel with
    | cons entry rest => simp [queued] at waits
    | nil =>
      refine .inl ⟨rfl, rfl, ?_⟩
      simp only [queued, Option.map_eq_none_iff, collect] at waits
      split at waits
      · rename_i none
        intro entry member
        simpa using List.filter_eq_nil_iff.mp none entry member
      · contradiction
  | handing entry batch place =>
    simp only [watch, tended.schedulerTold, Bool.false_eq_true, if_false] at waits
    cases place with
    | awaited => exact .inr ⟨entry, batch, rfl⟩
    | _ => simp at waits
  | closing => exact absurd watch tended.watching.1
  | left => exact absurd watch tended.watching.2

/-- In a pool where nobody can move and no timer runs, all workers are in line. -/
theorem Tended.all_lined (tended : p.Tended) (stuck : ¬ p.CanMove) :
    ∀ w worker, p.workers[w]? = some worker →
      worker.stage = .lined ∧ (p.line.head? = some w → p.queue = []) := by
  intro w worker here
  obtain ⟨s, waits⟩ : ∃ s, p.workerStep? w s = none := by
    by_contra able
    refine stuck (.inl ⟨w, ?_⟩)
    intro s
    cases step : p.workerStep? w s with
    | none => exact absurd ⟨s, step⟩ able
    | some moved => rfl
  rcases tended.worker_waits here waits with lined | ⟨job, time, writes, runs⟩
  · exact lined
  · refine absurd (.inr (.inr ⟨time, ?_, runs⟩)) stuck
    refine List.mem_append_left _ (List.mem_filterMap.mpr ⟨worker, List.mem_of_getElem? here, ?_⟩)
    rw [writes]
    rfl

/-- Then the queue is empty: the head of the line would take its first job. -/
theorem Tended.queue_empty (tended : p.Tended) (running : p.life = .running)
    (stuck : ¬ p.CanMove) : p.queue = [] := by
  have lined := tended.all_lined stuck
  obtain ⟨worker, crew, first⟩ := List.exists_cons_of_ne_nil (tended.manned running).1
  have member : 0 ∈ p.line := by
    rw [tended.line]
    simp [first, (lined 0 worker (by simp [first])).1]
  obtain ⟨w, line, shape⟩ := List.exists_cons_of_ne_nil (List.ne_nil_of_mem member)
  have head : (p.workers[w]?).map Worker.stage = some .lined :=
    (tended.line w).mp (shape ▸ List.mem_cons_self)
  obtain ⟨next, here, _⟩ := Option.map_eq_some_iff.mp head
  exact (lined w next here).2 (by rw [shape]; rfl)

/-- A pool in which nobody can move and no timer runs has no open job. -/
theorem Tended.nothing_open (tended : p.Tended) (running : p.life = .running)
    (stuck : ¬ p.CanMove) : p.queue = [] ∧ inHands p.workers = [] ∧ p.retrySide = [] := by
  have queue := tended.queue_empty running stuck
  refine ⟨queue, ?_, ?_⟩
  · apply List.filterMap_eq_nil_iff.mpr
    intro worker member
    obtain ⟨w, here⟩ := List.mem_iff_getElem?.mp member
    rw [(tended.all_lined stuck w worker here).1]
    rfl
  · have waits : p.schedulerStep? = none := by
      by_contra able
      exact stuck (.inr (.inl (Option.isSome_iff_ne_none.mpr able)))
    rcases tended.scheduler_waits (tended.manned running).2 waits with
      ⟨watch, channel, later⟩ | ⟨entry, batch, watch⟩
    · have waiting : p.scheduler.waiting = [] := by
        apply List.eq_nil_iff_forall_not_mem.mpr
        intro entry member
        refine stuck (.inr (.inr ⟨entry.readyAt, ?_, later entry member⟩))
        apply List.mem_append_right
        simpa [Scheduler.alarms, watch] using ⟨entry, member, rfl⟩
      simp [retrySide, channel, waiting, watch, Watch.due]
    · -- It waits at a full queue, and the queue is empty.
      have full := tended.full entry batch watch
      simp [queue, Config.room] at full

theorem alone?_step {label : Label} (step : p.alone? label = some (q, notes)) :
    p.step? label = some (q, notes) := by
  cases label with
  | wait ms =>
    simp only [alone?] at step
    split at step
    · exact step
    · contradiction
  | worker | scheduler => exact step
  | _ => cases step

theorem CanMove.alone (able : p.CanMove) : ∃ label, (p.alone? label).isSome := by
  rcases able with ⟨w, moves⟩ | moves | ⟨time, runs⟩
  · exact ⟨.worker w default, moves default⟩
  · exact ⟨.scheduler, moves⟩
  · refine ⟨.wait 1, ?_⟩
    have later : ∃ time ∈ p.timers, p.now < time := ⟨time, runs⟩
    simp [alone?, later]

/-- Running, and nobody has called for a stop. -/
def Runs (p : Pool) : Prop := p.life = .running ∧ p.stopping = .no

theorem Runs.unstopped (runs : p.Runs) : p.Unstopped := ⟨by simp [runs.1], runs.2⟩

theorem Runs.alone {label : Label} (runs : p.Runs) (step : p.alone? label = some (q, notes)) :
    q.Runs ∧ acceptedJobs notes = [] := by
  have move := step?_move (alone?_step step)
  cases move with
  | worker crew place move =>
    have frame := move.frame
    exact ⟨⟨frame.life.trans runs.1, frame.stopping.trans runs.2⟩, by cases move <;> rfl⟩
  | scheduler keeps move =>
    have frame := move.frame
    exact ⟨⟨frame.life.trans runs.1, frame.stopping.trans runs.2⟩, by cases move <;> rfl⟩
  | wait => exact ⟨runs, rfl⟩
  | _ => cases step

theorem Runs.leads {more : List Note} (runs : p.Runs) (later : Leads alone? p more q) :
    q.Runs ∧ acceptedJobs more = [] := by
  refine later.keeps (P := fun q more => q.Runs ∧ acceptedJobs more = []) ⟨runs, rfl⟩ ?_
  rintro q more label r told ⟨runs, none⟩ step
  obtain ⟨runs, silent⟩ := runs.alone step
  refine ⟨runs, ?_⟩
  rw [acceptedJobs_append, none, silent]
  rfl

theorem leads_of_alone {more : List Note} (later : Leads alone? p more q) :
    Leads step? p more q :=
  later.part id id rfl (fun _ _ => rfl) fun step => .next (alone?_step step)

/-- A running pool that is left alone never gets stuck before everything is settled, tries no task
more often than once and its retries, and comes to rest after finitely many moves with everything
settled and both queues empty. -/
theorem Reachable.settles (run : Reachable config notes p) (running : p.life = .running)
    (quiet : p.stopping = .no) :
    (∀ more q, Leads alone? p more q →
      (q.stats.settled < q.stats.submitted → q.CanMove) ∧
        ((∀ label, q.alone? label = none) →
          q.stats.settled = q.stats.submitted ∧ q.stats.submitted = p.stats.submitted ∧
            q.queue = [] ∧ q.channel = [] ∧ q.openJobs = []) ∧
        ∀ ticket, (begunJobs (notes ++ more)).countP (fun job => job.ticket = ticket) ≤
          config.retry.maxRetries + 1) ∧
      ∀ pools : Nat → Pool, pools 0 = p →
        ∃ n, ∀ label told, (pools n).alone? label ≠ some (pools (n + 1), told) := by
  have begins : p.Runs := ⟨running, quiet⟩
  constructor
  · intro more q later
    have reached : Reachable config (notes ++ more) q := run.trans (leads_of_alone later)
    obtain ⟨runs, silent⟩ := begins.leads later
    have tended := reached.tended runs.unstopped
    have sum := reached.adds_up fun worker member => (tended.crew worker member).2.1
    have same : q.stats.submitted = p.stats.submitted := by
      have before := congrArg List.length run.tickets
      have after := congrArg List.length reached.tickets
      rw [acceptedJobs_append, silent, List.append_nil] at after
      simpa using after.symm.trans before
    refine ⟨?_, ?_, reached.attempts_le⟩
    · intro unsettled
      by_contra stuck
      obtain ⟨queue, hands, retry⟩ := tended.nothing_open runs.1 stuck
      simp only [queue, hands, retry, List.length_nil] at sum
      unfold Stats.settled at unsettled
      omega
    · intro ended
      have stuck : ¬ q.CanMove := by
        intro able
        obtain ⟨label, moves⟩ := able.alone
        simp [ended label] at moves
      obtain ⟨queue, hands, retry⟩ := tended.nothing_open runs.1 stuck
      simp only [queue, hands, retry, List.length_nil] at sum
      refine ⟨?_, same, queue, ?_, ?_⟩
      · unfold Stats.settled
        omega
      · unfold retrySide at retry
        exact (List.append_eq_nil_iff.mp (List.append_eq_nil_iff.mp retry).1).1
      · rw [openJobs, queue, hands, retry]
        rfl
  · intro pools start
    exact (run.tended begins.unstopped).rests pools start

/-- After `busyRun`, with three tasks open, somebody can move. -/
theorem settles_busyRun :
    ∃ notes p, Reachable .standard notes p ∧ p.life = .running ∧ p.stopping = .no ∧
      p.stats.settled = 1 ∧ p.stats.submitted = 4 ∧ p.CanMove := by
  have run : ∃ notes p, Reachable .standard notes p ∧ p.life = .running ∧ p.stopping = .no ∧
      p.stats.settled = 1 ∧ p.stats.submitted = 4 :=
    ⟨_, _, ⟨busyRun, rfl⟩, rfl, rfl, rfl, rfl⟩
  obtain ⟨notes, p, run, running, quiet, settled, submitted⟩ := run
  refine ⟨notes, p, run, running, quiet, settled, submitted, ?_⟩
  exact ((run.settles running quiet).1 [] p (.refl p)).1 (by omega)

end CouponSale.Pool

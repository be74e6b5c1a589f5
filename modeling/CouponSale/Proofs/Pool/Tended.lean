import CouponSale.Proofs.Pool.InFlight

/-!
A pool that nobody has called to stop. Everybody is at work: no worker has left or was cut off, and
the scheduler keeps watch. The line holds just the workers that are lined up, each once, and a
scheduler that waits for a place waits at a full queue.
-/
namespace CouponSale.Pool

/-- Everybody is at work. -/
structure Tended (p : Pool) : Prop where
  workersTold : p.workersTold = false
  schedulerTold : p.schedulerTold = false
  crew : ∀ worker ∈ p.workers,
    worker.draining = false ∧ worker.cut = false ∧ worker.stage ≠ .left
  manned : p.life = .running → p.workers ≠ [] ∧ p.scheduler.watch ≠ .absent
  uncut : p.scheduler.cut = false
  watching : p.scheduler.watch ≠ .closing ∧ p.scheduler.watch ≠ .left
  line : ∀ w, w ∈ p.line ↔ (p.workers[w]?).map Worker.stage = some .lined
  single : p.line.Nodup
  full : ∀ entry batch, p.scheduler.watch = .handing entry batch .awaited →
    p.config.room ≤ p.queue.length

/-- The scheduler has not been cut off, and waits for a place in the primary queue only while the
queue is full. -/
structure Attentive (p : Pool) : Prop where
  uncut : p.scheduler.cut = false
  full : ∀ entry batch, p.scheduler.watch = .handing entry batch .awaited →
    p.config.room ≤ p.queue.length

/-- Nobody has called for a stop. -/
def Unstopped (p : Pool) : Prop := p.life ≠ .stopped ∧ p.stopping = .no

variable {p q : Pool} {w : Nat} {s : Supply} {stage : Stage} {notes : List Note}
  {before after : List Worker}

theorem new_tended (config : Config) : (new config).Tended := by
  constructor <;> simp [new]

/-- What touches neither the crew nor the scheduler and takes nothing from the queue. -/
theorem Tended.aside (tended : p.Tended) (workersTold : q.workersTold = p.workersTold)
    (schedulerTold : q.schedulerTold = p.schedulerTold) (workers : q.workers = p.workers)
    (life : q.life = p.life) (scheduler : q.scheduler = p.scheduler) (line : q.line = p.line)
    (config : q.config = p.config) (queue : p.queue.length ≤ q.queue.length) : q.Tended := by
  constructor
  · rw [workersTold, tended.workersTold]
  · rw [schedulerTold, tended.schedulerTold]
  · rw [workers]
    exact tended.crew
  · rw [life, workers, scheduler]
    exact tended.manned
  · rw [scheduler, tended.uncut]
  · rw [scheduler]
    exact tended.watching
  · rw [line, workers]
    exact tended.line
  · rw [line]
    exact tended.single
  · rw [scheduler, config]
    intro entry batch waits
    exact Nat.le_trans (tended.full entry batch waits) queue

/-- How a worker that has heard of no stop changes its stage and the line. -/
inductive Lines (p q : Pool) (w : Nat) : Stage → Stage → Prop where
  | apart {stage stage' : Stage} (first : stage ≠ .lined) (second : stage' ≠ .lined)
      (same : q.line = p.line) : Lines p q w stage stage'
  | joins {stage : Stage} (first : stage ≠ .lined) (line : q.line = p.line ++ [w]) :
      Lines p q w stage .lined
  | leaves {stage' : Stage} (second : stage' ≠ .lined) (line : q.line = p.line.erase w) :
      Lines p q w .lined stage'

theorem WorkerMove.lines (untold : p.workersTold = false)
    (crew : p.workers = before ++ ⟨stage, false, false⟩ :: after) (place : before.length = w)
    (move : WorkerMove p w s false stage q notes) :
    ∃ stage', q.workers = before ++ ⟨stage', false, false⟩ :: after ∧ stage' ≠ .left ∧
      Lines p q w stage stage' := by
  subst place
  have placed : ∀ stage', p.workers.modify before.length ({ · with stage := stage' }) =
      before ++ ⟨stage', false, false⟩ :: after := by
    intro stage'
    rw [crew, modify_append]
  cases move with
  | hear told | hearInLine told => simp [untold] at told
  | leave empty told => contradiction
  | lineUp => exact ⟨_, placed _, by simp, .joins (by simp) rfl⟩
  | take next first => exact ⟨_, placed _, by simp, .leaves (by simp) rfl⟩
  | _ => exact ⟨_, placed _, by simp, .apart (by simp) (by simp) rfl⟩

theorem stage_other {a b : Worker} {n : Nat}
    (other : n ≠ before.length) (crew : p.workers = before ++ a :: after)
    (crew' : q.workers = before ++ b :: after) :
    (q.workers[n]?).map Worker.stage = (p.workers[n]?).map Worker.stage := by
  rw [crew, crew', getElem?_other other]

/-- The line goes on to hold just the workers that are lined up. -/
theorem Lines.keeps {stage' : Stage} (lines : Lines p q before.length stage stage')
    (crew : p.workers = before ++ ⟨stage, false, false⟩ :: after)
    (crew' : q.workers = before ++ ⟨stage', false, false⟩ :: after)
    (line : ∀ w, w ∈ p.line ↔ (p.workers[w]?).map Worker.stage = some .lined)
    (single : p.line.Nodup) :
    (∀ w, w ∈ q.line ↔ (q.workers[w]?).map Worker.stage = some .lined) ∧ q.line.Nodup := by
  have own : before.length ∈ p.line ↔ stage = .lined := by
    rw [line, crew]
    simp
  have own' : (q.workers[before.length]?).map Worker.stage = some stage' := by
    rw [crew']
    simp
  constructor
  · intro n
    by_cases here : n = before.length
    · subst here
      rw [own']
      cases lines with
      | apart first second same => simp [same, own, first, second]
      | joins first joined => simp [joined]
      | leaves second left => simp [left, single.mem_erase_iff, second]
    · rw [stage_other here crew crew', ← line]
      cases lines with
      | apart first second same => rw [same]
      | joins first joined => simp [joined, here]
      | leaves second left => simp [left, single.mem_erase_iff, here]
  · cases lines with
    | apart first second same => rwa [same]
    | joins first joined =>
      rw [joined]
      refine List.nodup_append.mpr ⟨single, by simp, ?_⟩
      rintro n member _ last rfl
      rw [List.mem_singleton.mp last] at member
      exact first (own.mp member)
    | leaves second left =>
      rw [left]
      exact single.erase _

/-- A scheduler that still waits for a place after a worker's move does so at the same queue. -/
theorem WorkerMove.awaited {draining : Bool} {entry : Entry} {batch : List Entry}
    (move : WorkerMove p w s draining stage q notes)
    (waits : q.scheduler.watch = .handing entry batch .awaited) :
    p.scheduler.watch = .handing entry batch .awaited ∧ q.queue = p.queue := by
  cases move with
  | take next first =>
    simp only [Pool.take, grantPlace] at waits
    split at waits
    · cases waits
    · rename_i other
      exact absurd waits (other entry batch)
  | _ => exact ⟨waits, rfl⟩

theorem Tended.attentive (tended : p.Tended) : p.Attentive := ⟨tended.uncut, tended.full⟩

theorem Attentive.worker {draining : Bool} (attentive : p.Attentive)
    (move : WorkerMove p w s draining stage q notes) : q.Attentive := by
  have frame := move.frame
  constructor
  · rcases frame.scheduler with same | granted
    · rw [same, attentive.uncut]
    · rw [granted, (watch_grantPlace p.scheduler).1, attentive.uncut]
  · intro entry batch waits
    obtain ⟨before, queue⟩ := move.awaited waits
    rw [queue, frame.config]
    exact attentive.full entry batch before

theorem full_of_ask {entry : Entry} {batch : List Entry}
    (watch : p.scheduler.watch = .handing entry batch .wanted) {next : Entry} {later : List Entry}
    (waits : (p.ask entry batch).scheduler.watch = .handing next later .awaited) :
    p.config.room ≤ p.queue.length := by
  by_cases room : p.hasRoom = true
  · simp [ask, room] at waits
  · simpa [hasRoom, queued, reserved, watch] using room

theorem Attentive.scheduler {watch : Watch} {waiting : List Entry} (attentive : p.Attentive)
    (keeps : p.scheduler = ⟨watch, waiting, false⟩)
    (move : SchedulerMove p watch waiting q notes) : q.Attentive := by
  have uncut := attentive.uncut
  cases move with
  | @ask _ entry batch untold =>
    refine ⟨uncut, fun next later waits => ?_⟩
    show p.config.room ≤ p.queue.length
    exact full_of_ask (by rw [keeps]) waits
  | @handOver _ entry batch untold =>
    refine ⟨uncut, fun next later waits => ?_⟩
    cases batch <;> simp [Pool.handOver] at waits
  | hear => exact ⟨uncut, by simp [schedulerHearStop]⟩
  | _ => exact ⟨rfl, by simp [Pool.giveUp]⟩

theorem Tended.worker {draining : Bool} (tended : p.Tended)
    (crew : p.workers = before ++ ⟨stage, draining, false⟩ :: after) (place : before.length = w)
    (move : WorkerMove p w s draining stage q notes) : q.Tended := by
  obtain rfl : draining = false := (tended.crew ⟨stage, draining, false⟩ (by simp [crew])).1
  subst place
  have frame := move.frame
  obtain ⟨stage', crew', stays, lines⟩ := move.lines tended.workersTold crew rfl
  have same : q.scheduler = p.scheduler ∨ q.scheduler = grantPlace p.scheduler := frame.scheduler
  have watch := (watch_grantPlace p.scheduler).2.2.2
  have attentive := tended.attentive.worker move
  have watches : ∀ watch : Watch, watch.due = [] → p.scheduler.watch ≠ watch →
      q.scheduler.watch ≠ watch := by
    intro other bare differs
    rcases same with same | granted
    · rwa [same]
    · rwa [granted, ne_eq, watch other bare]
  obtain ⟨line, single⟩ := lines.keeps crew crew' tended.line tended.single
  constructor
  · rw [frame.workersTold, tended.workersTold]
  · rw [frame.schedulerTold, tended.schedulerTold]
  · intro worker member
    rw [crew'] at member
    rcases List.mem_append.mp member with early | late
    · exact tended.crew worker (by simp [crew, early])
    · rcases List.mem_cons.mp late with rfl | later
      · exact ⟨rfl, rfl, stays⟩
      · exact tended.crew worker (by simp [crew, later])
  · intro running
    have manned := tended.manned (frame.life ▸ running)
    exact ⟨by simp [crew'], watches _ rfl manned.2⟩
  · exact attentive.uncut
  · exact ⟨watches _ rfl tended.watching.1, watches _ rfl tended.watching.2⟩
  · exact line
  · exact single
  · exact attentive.full

/-- The scheduler's moves leave everything to the crew as it is. -/
theorem Tended.keep (tended : p.Tended) (frame : SchedulerFrame p q) (line : q.line = p.line)
    (attentive : q.Attentive)
    (watching : q.scheduler.watch ≠ .absent ∧ q.scheduler.watch ≠ .closing ∧
      q.scheduler.watch ≠ .left) : q.Tended where
  workersTold := frame.workersTold.trans tended.workersTold
  schedulerTold := frame.schedulerTold.trans tended.schedulerTold
  crew := by
    rw [frame.workers]
    exact tended.crew
  manned := by
    intro running
    rw [frame.life] at running
    rw [frame.workers]
    exact ⟨(tended.manned running).1, watching.1⟩
  uncut := attentive.uncut
  watching := watching.2
  line := by
    rw [line, frame.workers]
    exact tended.line
  single := by
    rw [line]
    exact tended.single
  full := attentive.full

theorem Tended.scheduler {watch : Watch} {waiting : List Entry} (tended : p.Tended)
    (keeps : p.scheduler = ⟨watch, waiting, false⟩)
    (move : SchedulerMove p watch waiting q notes) : q.Tended := by
  have frame := move.frame
  have attentive := tended.attentive.scheduler keeps move
  have watching := tended.watching
  rw [keeps] at watching
  cases move with
  | hear listens told => simp [tended.schedulerTold] at told
  | ask => exact tended.keep frame rfl attentive (by simp [Pool.ask])
  | @handOver _ entry batch untold =>
    refine tended.keep frame rfl attentive ?_
    cases batch <;> simp [Pool.handOver]
  | giveUp => exact absurd rfl watching.1
  | leave => exact absurd rfl watching.1
  | _ => exact tended.keep frame rfl attentive (by simp)

/-- A stop is never taken back. -/
theorem Move.unstopped {label : Label} (move : Move p label q notes) (unstopped : q.Unstopped) :
    p.Unstopped := by
  cases move with
  | start idle quiet => exact ⟨by simp [idle], quiet⟩
  | stop alive quiet => exact ⟨alive, quiet⟩
  | worker crew place move =>
    have frame := move.frame
    exact ⟨frame.life ▸ unstopped.1, frame.stopping ▸ unstopped.2⟩
  | scheduler keeps move =>
    have frame := move.frame
    exact ⟨frame.life ▸ unstopped.1, frame.stopping ▸ unstopped.2⟩
  | stopper phase move =>
    cases move with
    | close => exact absurd rfl unstopped.1
    | _ => cases unstopped.2
  | _ => exact unstopped

theorem Tended.move {label : Label} (tended : p.Tended) (phased : p.Phased)
    (move : Move p label q notes) (unstopped : q.Unstopped) : q.Tended := by
  cases move with
  | accept isOpen room => exact tended.aside rfl rfl rfl rfl rfl rfl rfl (by simp)
  | drop closed full => exact tended.aside rfl rfl rfl rfl rfl rfl rfl (Nat.le_refl _)
  | start idle quiet =>
    obtain ⟨bare, _⟩ := phased.idle idle
    have nobody : ∀ w, w ∉ p.line := by
      intro w member
      simpa [bare] using (tended.line w).mp member
    constructor
    · exact tended.workersTold
    · exact tended.schedulerTold
    · intro worker member
      rw [List.eq_of_mem_replicate member]
      simp [Worker.new]
    · intro _
      simp [Config.crew]
    · exact tended.uncut
    · simp
    · intro w
      refine iff_of_false (nobody w) ?_
      intro lined
      obtain ⟨worker, here, stage⟩ := Option.map_eq_some_iff.mp lined
      rw [List.eq_of_mem_replicate (List.mem_of_getElem? here)] at stage
      cases stage
    · exact tended.single
    · simp
  | startAgain begun told => exact tended
  | stop alive quiet => cases unstopped.2
  | stopAgain stopped => exact tended
  | worker crew place move => exact tended.worker crew place move
  | scheduler keeps move => exact tended.scheduler keeps move
  | stopper phase move =>
    cases move with
    | close => exact absurd rfl unstopped.1
    | _ => cases unstopped.2
  | wait => exact tended.aside rfl rfl rfl rfl rfl rfl rfl (Nat.le_refl _)

theorem Reachable.tended {config : Config} (run : Reachable config notes p)
    (unstopped : p.Unstopped) : p.Tended := by
  refine (run.keeps (P := fun p _ => p.Unstopped → p.Tended) ?_ ?_).2 unstopped
  · exact fun _ => new_tended config
  · intro p notes label q more phased tended move unstopped
    exact (tended (move.unstopped unstopped)).move phased move unstopped

end CouponSale.Pool

import CouponSale.Proofs.Pool.Letters

/-!
The order in which retries go back to the primary queue. Entries come to the retry side one by one
and leave it when they are handed over or given up. The scheduler splits off all that are ready as
one batch, so that nothing outside the batch is ready sooner than anything in it; but it hands the
batch over in the order in which the entries came.
-/
namespace CouponSale

/-- The job that a note puts back into the primary queue. -/
def Note.requeued? : Note → Option Pool.Job
  | .requeued job => some job
  | _ => none

namespace Pool

/-- The jobs that were put back into the primary queue, in order. -/
def requeuedJobs (notes : List Note) : List Job := notes.filterMap Note.requeued?

/-- The jobs that came to the retry side, in order. -/
def arrivals (notes : List Note) : List Job := (retriedJobs notes).map Job.retried

/-- The entry that a worker makes of a failed job. -/
def entryOf (p : Pool) (job : Job) (e : Failure) (draw : Binary64) : Entry :=
  ⟨job.retried, p.now + p.config.retry.delayMillis job.task.retries draw, e.message⟩

/-- What a move does to the retry side of a pool. -/
inductive Shift (p q : Pool) : List Note → Prop where
  | aside {notes : List Note} (kept : ∀ e, e ∈ q.retrySide ↔ e ∈ p.retrySide)
      (released : requeuedJobs notes = []) (scheduled : retriedJobs notes = []) : Shift p q notes
  | joins {worker : Worker} {job : Job} {e : Failure} {draw : Binary64}
      (held : worker ∈ p.workers) (uncut : worker.cut = false)
      (slot : worker.stage = .slotted job e)
      (joined : ∀ other, other ∈ q.retrySide ↔ other = p.entryOf job e draw ∨ other ∈ p.retrySide) :
      Shift p q [.retryScheduled job e (p.config.retry.delayMillis job.task.retries draw)]
  | released {entry : Entry} {batch : List Entry} (untold : p.schedulerTold = false)
      (first : p.scheduler.watch = .handing entry batch .granted)
      (queue : q.queue = p.queue ++ [entry.job])
      (left : ∀ other, other ∈ p.retrySide ↔ other = entry ∨ other ∈ q.retrySide) :
      Shift p q [.requeued entry.job]
  | givenUp {entry : Entry} (told : p.schedulerTold = true)
      (left : ∀ other, other ∈ p.retrySide ↔ other = entry ∨ other ∈ q.retrySide) :
      Shift p q [.deadLettered entry.job .shutdown (some entry.lastError)]

variable {p q : Pool} {notes more : List Note} {label : Label}

theorem requeuedJobs_append (earlier later : List Note) :
    requeuedJobs (earlier ++ later) = requeuedJobs earlier ++ requeuedJobs later :=
  List.filterMap_append

theorem arrivals_append (earlier later : List Note) :
    arrivals (earlier ++ later) = arrivals earlier ++ arrivals later := by
  simp [arrivals, retriedJobs_append]

theorem WorkerMove.shift {w : Nat} {s : Supply} {draining : Bool} {stage : Stage}
    {before after : List Worker}
    (crew : p.workers = before ++ ⟨stage, draining, false⟩ :: after)
    (move : WorkerMove p w s draining stage q notes) : Shift p q notes := by
  have granted := (watch_grantPlace p.scheduler).2
  cases move with
  | @scheduled job e isOpen room =>
    have held : ⟨.slotted job e, draining, false⟩ ∈ p.workers := by simp [crew]
    have joined : ∀ other : Entry,
        other ∈ p.channel ++ [p.entryOf job e s.draw] ++ p.scheduler.waiting ++
          p.scheduler.watch.due ↔ other = p.entryOf job e s.draw ∨ other ∈ p.retrySide := by
      intro other
      simp only [retrySide, List.mem_append, List.mem_singleton]
      tauto
    exact .joins held rfl rfl joined
  | take next first =>
    refine .aside ?_ rfl rfl
    intro other
    simp [retrySide, Pool.take, Pool.place, Pool.leaveLine, granted.1, granted.2.1]
  | _ => exact .aside (fun _ => .rfl) rfl rfl

theorem SchedulerMove.shift {watch : Watch} {waiting : List Entry} (phased : p.Phased)
    (slots : p.Slots) (keeps : p.scheduler = ⟨watch, waiting, false⟩)
    (move : SchedulerMove p watch waiting q notes) : Shift p q notes := by
  cases move with
  | wake =>
    refine .aside (fun other => ?_) rfl rfl
    simp [retrySide, keeps, Watch.due]
  | hear listens told =>
    refine .aside (fun other => ?_) rfl rfl
    simp only [retrySide, schedulerHearStop, keeps, Watch.due, List.mem_append]
    tauto
  | receive untold next =>
    refine .aside (fun other => ?_) rfl rfl
    simp only [retrySide, keeps, next, List.mem_append, List.mem_cons]
    tauto
  | collect untold empty ready =>
    refine .aside (fun other => ?_) rfl rfl
    have parted : other ∈ waiting ↔ other ∈ waiting.filter (·.readyAt ≤ p.now) ∨
        other ∈ waiting.filter (p.now < ·.readyAt) := by grind
    rw [ready] at parted
    simp only [retrySide, keeps, Watch.due, List.mem_append, parted]
    tauto
  | ask untold =>
    refine .aside (fun other => ?_) rfl rfl
    simp [retrySide, Pool.ask, keeps, Watch.due]
  | @handOver _ entry batch untold =>
    refine .released untold (by rw [keeps]) rfl (fun other => ?_)
    cases batch <;> simp [retrySide, Pool.handOver, keeps, Watch.due] <;> tauto
  | @giveUp entry rest =>
    -- It closes only when it was told to, for its queue is shut.
    have told : p.schedulerTold = true := by
      by_contra untold
      have shut := (phased.shut (.inl (by rw [keeps]))).2
      simp [slots.opened (by simpa using untold)] at shut
    refine .givenUp told (fun other => ?_)
    simp only [retrySide, Pool.giveUp, keeps, Watch.due, List.mem_append, List.mem_cons]
    tauto
  | leave =>
    refine .aside (fun other => ?_) rfl rfl
    simp [retrySide, keeps, Watch.due]

theorem StopperMove.shift {stopping : Stopping} (move : StopperMove p stopping q notes) :
    Shift p q notes := by
  cases move with
  | dismiss all =>
    refine .aside (fun _ => .rfl) ?_ ?_
    · induction p.inFlight with
      | nil => rfl
      | cons entry table ih => simpa [requeuedJobs, recovery, Note.requeued?] using ih
    · induction p.inFlight with
      | nil => rfl
      | cons entry table ih => simpa [retriedJobs, recovery, Note.retried?] using ih
  | close =>
    refine .aside (fun _ => .rfl) ?_ ?_
    · simp [requeuedJobs, Note.requeued?, List.filterMap_cons, Function.comp_def]
    · simp [retriedJobs, Note.retried?, List.filterMap_cons, Function.comp_def]
  | _ => exact .aside (fun _ => .rfl) rfl rfl

theorem Move.shift (phased : p.Phased) (slots : p.Slots) (move : Move p label q notes) :
    Shift p q notes := by
  cases move with
  | start idle quiet =>
    refine .aside (fun other => ?_) rfl rfl
    simp [retrySide, (phased.idle idle).2, Watch.due]
  | startAgain begun told =>
    exact .aside (fun _ => .rfl) (by rcases told with rfl | rfl <;> rfl)
      (by rcases told with rfl | rfl <;> rfl)
  | worker crew place move => exact move.shift crew
  | scheduler keeps move => exact move.shift phased slots keeps
  | stopper phase move => exact move.shift
  | _ => exact .aside (fun _ => .rfl) rfl rfl

variable {config : Config}

/-- Who has heard that the scheduler is told does not forget it. -/
theorem Move.untold (phased : p.Phased) (move : Move p label q notes)
    (untold : q.schedulerTold = false) : p.schedulerTold = false := by
  by_contra told
  have told := (move.gives_up phased (by simpa using told)).1
  simp [untold] at told

/-- A job in the primary queue does not wait for a retry. -/
theorem Reachable.queue_apart (run : Reachable config notes p) {job : Job} {entry : Entry}
    (queued : job ∈ p.queue) (waits : entry ∈ p.retrySide) : entry.job.ticket ≠ job.ticket := by
  have apart := run.courses_apart
  rw [courses, List.map_append, List.map_append] at apart
  have early : job.ticket ∈ (p.queue.map (·, Standing.queued)).map (·.1.ticket) :=
    List.mem_map_of_mem (List.mem_map_of_mem queued)
  have late : entry.job.ticket ∈
      (p.retrySide.map (fun entry => (entry.job, Standing.queued))).map (·.1.ticket) :=
    List.mem_map_of_mem (List.mem_map_of_mem waits)
  exact ((List.nodup_append.mp apart).2.2 _ (List.mem_append_left _ early) _ late).symm

theorem Reachable.entry_eq (run : Reachable config notes p) {entry other : Entry}
    (here : entry ∈ p.retrySide) (there : other ∈ p.retrySide) (same : other.job = entry.job) :
    other = entry := by
  have apart := run.courses_apart
  rw [courses, List.map_append] at apart
  have apart := (List.nodup_append.mp apart).2.1
  rw [List.map_map] at apart
  exact List.inj_on_of_nodup_map apart there here (by simp [same])

/-- What is known of the jobs that came to the retry side and of those that went back. -/
structure Arrived (p : Pool) (notes : List Note) : Prop where
  known : ∀ entry ∈ p.retrySide, entry.job ∈ arrivals notes
  bound : ∀ job ∈ arrivals notes, ∀ other standing, (other, standing) ∈ p.courses →
    other.ticket = job.ticket → job.task.retries ≤ other.task.retries
  gone : ∀ job ∈ requeuedJobs notes, job ∈ arrivals notes ∧ ∀ entry ∈ p.retrySide, entry.job ≠ job

theorem mem_arrivals_append {job : Job} {earlier later : List Note} :
    job ∈ arrivals (earlier ++ later) ↔ job ∈ arrivals earlier ∨ job ∈ arrivals later := by
  rw [arrivals_append, List.mem_append]

theorem arrivals_silent (silent : ∀ note ∈ notes, note.effort? = none) : arrivals notes = [] := by
  rw [arrivals, List.map_eq_nil_iff, retriedJobs, List.filterMap_eq_nil_iff]
  intro note member
  have none := silent note member
  cases note <;> simp_all [Note.retried?, Note.effort?]

theorem Recorded.arrived (recorded : Recorded p notes) {job : Job} (came : job ∈ arrivals notes) :
    job.ticket < p.stats.submitted := by
  obtain ⟨old, retried, rfl⟩ := List.mem_map.mp came
  obtain ⟨note, member, about⟩ := List.mem_filterMap.mp retried
  refine recorded.known note member old ?_
  cases note <;> simp_all [Note.retried?, Note.effort?]

theorem Arrived.bound_turn {most : Nat} (arrived : Arrived p notes) (recorded : Recorded p notes)
    (after : Reachable config (notes ++ more) q) (turn : Turn most p q more)
    (fresh : ∀ job ∈ acceptedJobs more, p.stats.submitted ≤ job.ticket) :
    ∀ job ∈ arrivals (notes ++ more), ∀ other standing, (other, standing) ∈ q.courses →
      other.ticket = job.ticket → job.task.retries ≤ other.task.retries := by
  intro job came other standing stands same
  rw [mem_arrivals_append] at came
  cases turn with
  | still silent kept =>
    rw [arrivals_silent silent] at came
    have came : job ∈ arrivals notes := by simpa using came
    exact arrived.bound job came other standing (kept _ stands) same
  | @accept new told kept =>
    have came : job ∈ arrivals notes := by
      simpa [told, arrivals, retriedJobs, Note.retried?] using came
    rcases kept _ stands with equal | stood
    · cases equal
      have known := recorded.arrived came
      have unknown := fresh other (by simp [told, acceptedJobs, Note.accepted?])
      omega
    · exact arrived.bound job came other standing stood same
  | @advance moved next stood later _ here there step kept =>
    have grows : moved.task.retries ≤ next.task.retries := by
      cases step <;> simp [Job.retried]
    rcases came with old | new
    · rcases kept _ stands with equal | stood
      · cases equal
        rw [step.record.1] at same
        exact Nat.le_trans (arrived.bound job old moved _ here same) grows
      · exact arrived.bound job old other standing stood same
    · -- What has just come stands where the job that moved on stands.
      have own : next = job := by
        cases step <;> simp_all [arrivals, retriedJobs, Note.retried?]
      cases own
      cases after.course_eq there stands same
      exact Nat.le_refl _

theorem Arrived.known_shift (arrived : Arrived p notes) (shift : Shift p q more) :
    ∀ entry ∈ q.retrySide, entry.job ∈ arrivals (notes ++ more) := by
  intro entry member
  rw [mem_arrivals_append]
  cases shift with
  | aside kept => exact .inl (arrived.known entry ((kept entry).mp member))
  | joins held uncut slot joined =>
    rcases (joined entry).mp member with rfl | old
    · exact .inr (List.mem_singleton_self _)
    · exact .inl (arrived.known entry old)
  | released untold first queue left | givenUp told left =>
    exact .inl (arrived.known entry ((left entry).mpr (.inr member)))

/-- A job that is about to come to the retry side has not been there with as many retries. -/
theorem Arrived.fresh (arrived : Arrived p notes) {worker : Worker} {job : Job} {e : Failure}
    (held : worker ∈ p.workers) (slot : worker.stage = .slotted job e) :
    job.retried ∉ arrivals notes := by
  intro came
  have stands : (job, .slotted e) ∈ p.courses := mem_courses_of_worker held (by rw [slot]; rfl)
  exact Nat.not_succ_le_self _ (arrived.bound _ came job _ stands rfl)

theorem Arrived.gone_shift (arrived : Arrived p notes) (after : Reachable config (notes ++ more) q)
    (shift : Shift p q more) : ∀ job ∈ requeuedJobs (notes ++ more),
      job ∈ arrivals (notes ++ more) ∧ ∀ entry ∈ q.retrySide, entry.job ≠ job := by
  intro job released
  rw [requeuedJobs_append, List.mem_append] at released
  rw [mem_arrivals_append]
  cases shift with
  | aside kept none =>
    obtain ⟨came, left⟩ := arrived.gone job (by simpa [none] using released)
    exact ⟨.inl came, fun entry member => left entry ((kept entry).mp member)⟩
  | joins held uncut slot joined =>
    obtain ⟨came, left⟩ :=
      arrived.gone job (by simpa [requeuedJobs, Note.requeued?] using released)
    refine ⟨.inl came, ?_⟩
    intro entry member
    rcases (joined entry).mp member with rfl | old
    · rintro rfl
      exact arrived.fresh held slot came
    · exact left entry old
  | @released entry batch untold first queue left =>
    rcases released with old | new
    · obtain ⟨came, stays⟩ := arrived.gone job old
      exact ⟨.inl came, fun other member => stays other ((left other).mpr (.inr member))⟩
    · obtain rfl : job = entry.job := by simpa [requeuedJobs, Note.requeued?] using new
      refine ⟨.inl (arrived.known entry ((left entry).mpr (.inl rfl))), ?_⟩
      intro other member same
      exact after.queue_apart (by simp [queue]) member (congrArg Job.ticket same)
  | givenUp told left =>
    obtain ⟨came, stays⟩ :=
      arrived.gone job (by simpa [requeuedJobs, Note.requeued?] using released)
    exact ⟨.inl came, fun other member => stays other ((left other).mpr (.inr member))⟩

/-- At any time, each job is on the retry side at most once with as many retries. -/
theorem Reachable.arrived (run : Reachable config notes p) : Arrived p notes := by
  apply run.induct (P := Arrived)
  · constructor <;> simp [new, retrySide, Watch.due, arrivals, retriedJobs, requeuedJobs]
  · intro p notes label q more run arrived move after
    have shift := move.shift run.phased run.slots
    exact ⟨arrived.known_shift shift,
      arrived.bound_turn run.recorded after (move.turn run.phased run.slots) move.fresh,
      arrived.gone_shift after shift⟩

/-- What is on the retry side stays there until it goes back to the primary queue or is given up. -/
theorem Reachable.stays_or_goes (run : Reachable config notes p) {entry : Entry}
    (waits : entry ∈ p.retrySide) (later : Leads step? p more q) :
    entry ∈ q.retrySide ∨ entry.job ∈ requeuedJobs more ∨ q.schedulerTold = true ∧
      .deadLettered entry.job .shutdown (some entry.lastError) ∈ more := by
  apply run.onward later (P := fun q more => entry ∈ q.retrySide ∨ entry.job ∈ requeuedJobs more ∨
    q.schedulerTold = true ∧ .deadLettered entry.job .shutdown (some entry.lastError) ∈ more)
  · exact .inl waits
  · intro q more label r told run waits move
    rw [requeuedJobs_append, List.mem_append, List.mem_append]
    rcases waits with waits | released | ⟨closed, letter⟩
    · cases move.shift run.phased run.slots with
      | aside kept => exact .inl ((kept entry).mpr waits)
      | joins held uncut slot joined => exact .inl ((joined entry).mpr (.inr waits))
      | released untold first queue left =>
        rcases (left entry).mp waits with rfl | stays
        · exact .inr (.inl (.inr (List.mem_singleton_self _)))
        · exact .inl stays
      | givenUp closed left =>
        rcases (left entry).mp waits with rfl | stays
        · exact .inr (.inr ⟨(move.gives_up run.phased closed).1, .inr (List.mem_singleton_self _)⟩)
        · exact .inl stays
    · exact .inr (.inl (.inl released))
    · exact .inr (.inr ⟨(move.gives_up run.phased closed).1, .inl letter⟩)

/-- How the batches of a scheduler that has not been told to stop are made up. -/
structure Batched (p : Pool) (notes : List Note) : Prop where
  /-- The batch is ready. -/
  ripe : ∀ entry ∈ p.scheduler.watch.due, entry.readyAt ≤ p.now
  /-- Nothing outside the batch is ready sooner than anything in it. -/
  first : ∀ entry ∈ p.scheduler.watch.due, ∀ other ∈ p.scheduler.waiting ++ p.channel,
    entry.readyAt ≤ other.readyAt
  due : (p.scheduler.watch.due.map Entry.job).Sublist (arrivals notes)
  rest : ((p.scheduler.waiting ++ p.channel).map Entry.job).Sublist (arrivals notes)

theorem arrivals_grow (notes more : List Note) :
    (arrivals notes).Sublist (arrivals (notes ++ more)) := by
  rw [arrivals_append]
  exact List.sublist_append_left _ _

/-- What takes from the batch or from the waiting entries, if anything, leaves the rest in order. -/
theorem Batched.fewer (batched : Batched p notes)
    (waiting : q.scheduler.waiting.Sublist p.scheduler.waiting)
    (due : q.scheduler.watch.due.Sublist p.scheduler.watch.due) (channel : q.channel = p.channel)
    (now : p.now ≤ q.now) : Batched q (notes ++ more) := by
  have rest := waiting.append (List.Sublist.refl p.channel)
  constructor
  · exact fun entry member => Nat.le_trans (batched.ripe entry (due.mem member)) now
  · rw [channel]
    exact fun entry member other later =>
      batched.first entry (due.mem member) other (rest.mem later)
  · exact ((due.map _).trans batched.due).trans (arrivals_grow notes more)
  · rw [channel]
    exact ((rest.map _).trans batched.rest).trans (arrivals_grow notes more)

theorem Batched.worker {w : Nat} {s : Supply} {draining : Bool} {stage : Stage}
    (batched : Batched p notes) (move : WorkerMove p w s draining stage q more) :
    Batched q (notes ++ more) := by
  have granted := (watch_grantPlace p.scheduler).2
  cases move with
  | take next first =>
    exact batched.fewer (by simp [Pool.take, granted]) (by simp [Pool.take, granted]) rfl
      (Nat.le_refl _)
  | @scheduled job e isOpen room =>
    refine ⟨batched.ripe, ?_, batched.due.trans (arrivals_grow _ _), ?_⟩
    · intro entry member other later
      rw [← List.append_assoc, List.mem_append, List.mem_singleton] at later
      rcases later with old | rfl
      · exact batched.first entry member other old
      · exact Nat.le_trans (batched.ripe entry member) (Nat.le_add_right _ _)
    · rw [← List.append_assoc, List.map_append, arrivals_append]
      exact batched.rest.append (.refl _)
  | _ => exact batched.fewer (.refl _) (.refl _) rfl (Nat.le_refl _)

/-- A batch is collected when the retry queue is empty: what is ready, in the order it came. -/
theorem Batched.collect {waiting : List Entry} {entry : Entry} {batch : List Entry}
    (batched : Batched p notes) (keeps : p.scheduler.waiting = waiting) (empty : p.channel = [])
    (ready : waiting.filter (·.readyAt ≤ p.now) = entry :: batch) :
    Batched { p with scheduler :=
      ⟨.handing entry batch .wanted, waiting.filter (p.now < ·.readyAt), false⟩ } notes := by
  have rest := batched.rest
  rw [empty, List.append_nil, keeps] at rest
  have ripe : ∀ other ∈ entry :: batch, other.readyAt ≤ p.now := by
    intro other member
    rw [← ready] at member
    simpa using (List.mem_filter.mp member).2
  have part : (entry :: batch).Sublist waiting := by
    rw [← ready]
    exact List.filter_sublist
  refine ⟨ripe, ?_, (part.map _).trans rest, ?_⟩
  · intro early member late later
    rw [empty, List.append_nil] at later
    have later : p.now < late.readyAt := by simpa using (List.mem_filter.mp later).2
    exact Nat.le_trans (ripe early member) (Nat.le_of_lt later)
  · rw [empty, List.append_nil]
    exact (List.filter_sublist.map _).trans rest

theorem Batched.scheduler {watch : Watch} {waiting : List Entry} (batched : Batched p notes)
    (keeps : p.scheduler = ⟨watch, waiting, false⟩) (untold : p.schedulerTold = false)
    (move : SchedulerMove p watch waiting q more) : Batched q (notes ++ more) := by
  have same : p.scheduler.waiting = waiting := by rw [keeps]
  have due : p.scheduler.watch.due = watch.due := by rw [keeps]
  cases move with
  | hear listens told => simp [untold] at told
  | @receive _ entry rest _ next =>
    obtain ⟨ripe, first, due, rest⟩ := batched
    rw [keeps] at ripe first due rest
    constructor <;> simp_all [Watch.due]
  | collect _ empty ready =>
    rw [List.append_nil]
    exact batched.collect same empty ready
  | ask =>
    exact batched.fewer (.refl _) (by rw [due]; exact .refl _) rfl (Nat.le_refl _)
  | @handOver _ entry batch _ =>
    refine batched.fewer (.refl _) ?_ rfl (Nat.le_refl _)
    rw [due]
    cases batch <;> exact List.sublist_cons_self _ _
  | giveUp =>
    refine batched.fewer ?_ (List.nil_sublist _) rfl (Nat.le_refl _)
    rw [same]
    exact List.sublist_cons_self _ _
  | wake | leave =>
    refine batched.fewer ?_ (List.nil_sublist _) rfl (Nat.le_refl _)
    rw [same]

theorem Reachable.batched (run : Reachable config notes p) (untold : p.schedulerTold = false) :
    Batched p notes := by
  refine (run.keeps (P := fun p notes => p.schedulerTold = false → Batched p notes) ?_ ?_).2 untold
  · intro _
    constructor <;> simp [new, Watch.due]
  · intro p notes label q more phased batched move untold
    have before := move.untold phased untold
    have batched := batched before
    cases move with
    | start idle quiet => exact batched.fewer (.refl _) (List.nil_sublist _) rfl (Nat.le_refl _)
    | worker crew place move => exact batched.worker move
    | scheduler keeps move => exact batched.scheduler keeps before move
    | stopper phase move =>
      cases move <;> exact batched.fewer (.refl _) (.refl _) rfl (Nat.le_refl _)
    | wait => exact batched.fewer (.refl _) (.refl _) rfl (Nat.le_add_right _ _)
    | _ => exact batched.fewer (.refl _) (.refl _) rfl (Nat.le_refl _)

variable {moves earlier later : List (Transition Pool Label Note)}
  {move : Transition Pool Label Note}

/-- The job that goes back to the primary queue is that of the first entry of the batch. -/
theorem Reachable.released (run : Reachable config notes p) (move : Move p label q more) {job : Job}
    (released : job ∈ requeuedJobs more) : p.schedulerTold = false ∧ more = [.requeued job] ∧
      ∃ entry batch, p.scheduler.watch = .handing entry batch .granted ∧ entry.job = job := by
  cases move.shift run.phased run.slots with
  | aside kept none => simp [none] at released
  | joins | givenUp => simp [requeuedJobs, Note.requeued?] at released
  | @released entry batch untold first queue left =>
    obtain rfl : job = entry.job := by simpa [requeuedJobs, Note.requeued?] using released
    exact ⟨untold, rfl, entry, batch, first, rfl⟩

/-- Two jobs on the retry side, of which the later one goes back to the primary queue. -/
theorem Reachable.overtakes (run : Reachable config notes p) {a b : Entry} (first : a ∈ p.retrySide)
    (second : b ∈ p.retrySide) (sooner : a.readyAt < b.readyAt) (later : Leads step? p more q)
    {told : List Note} {r : Pool} (move : Move q label r told)
    (released : b.job ∈ requeuedJobs told) :
    (a.job ∈ requeuedJobs more ↔ a ∉ q.scheduler.watch.due) ∧
      (a ∈ q.scheduler.watch.due → [b.job, a.job].Sublist (arrivals (notes ++ more))) := by
  have after : Reachable config (notes ++ more) q := run.trans later
  obtain ⟨untold, _, head, batch, watch, own⟩ := after.released move released
  have batched := after.batched untold
  have due : q.scheduler.watch.due = head :: batch := by
    rw [watch]
    rfl
  have retrySide : ∀ entry ∈ q.scheduler.watch.due, entry ∈ q.retrySide :=
    fun entry member => List.mem_append_right _ member
  have here : head ∈ q.retrySide := retrySide head (by simp [due])
  -- A job that has gone back waits no more.
  have gone : ∀ entry ∈ q.retrySide, entry.job ∉ requeuedJobs more := by
    intro entry waits released
    refine (after.arrived.gone entry.job ?_).2 entry waits rfl
    rw [requeuedJobs_append]
    exact List.mem_append_right _ released
  have stays : ∀ entry ∈ p.retrySide, entry ∈ q.retrySide ∨ entry.job ∈ requeuedJobs more := by
    intro entry waits
    rcases run.stays_or_goes waits later with stays | goes | ⟨told, _⟩
    · exact .inl stays
    · exact .inr goes
    · simp [untold] at told
  obtain rfl : b = head := by
    rcases stays b second with stays | goes
    · exact after.entry_eq here stays own.symm
    · exact absurd (own ▸ goes) (gone head here)
  have inBatch : a ∈ q.retrySide → a ∈ q.scheduler.watch.due := by
    intro waits
    by_contra outside
    have other : a ∈ q.scheduler.waiting ++ q.channel := by
      simp only [Pool.retrySide, List.mem_append] at waits ⊢
      tauto
    have behind := batched.first b (by simp [due]) a other
    omega
  refine ⟨⟨fun released member => gone a (retrySide a member) released, fun outside => ?_⟩, ?_⟩
  · exact (stays a first).resolve_left fun waits => outside (inBatch waits)
  · intro member
    have order := batched.due
    rw [due, List.map_cons] at order
    have behind : a ∈ batch := by
      rw [due, List.mem_cons] at member
      refine member.resolve_left ?_
      rintro rfl
      exact Nat.lt_irrefl _ sooner
    refine List.Sublist.trans ?_ order
    exact (List.singleton_sublist.mpr (List.mem_map_of_mem behind)).cons_cons _

/-- Of two entries on the retry side, the one that is ready later is sent first just when both are
in one batch, where it comes first because it came to the retry side first. -/
theorem Reachable.released_by_batch (run : Reachable config notes p) (trace : Trace step? p moves q)
    {a b : Entry} (first : a ∈ p.retrySide) (second : b ∈ p.retrySide)
    (sooner : a.readyAt < b.readyAt) :
    ∀ earlier move later, moves = earlier ++ move :: later → b.job ∈ requeuedJobs move.told →
      (a.job ∈ requeuedJobs (heard earlier) ↔ a ∉ move.before.scheduler.watch.due) ∧
        (a ∈ move.before.scheduler.watch.due →
          [b.job, a.job].Sublist (arrivals (notes ++ heard earlier))) := by
  rintro earlier move later rfl released
  obtain ⟨sofar, step, _⟩ := trace.at_move
  exact run.overtakes first second sooner sofar.leads (step?_move step) released

/-- One worker, one place in the primary queue, and 10 ms before the first retry. -/
def onePlace : Config :=
  { Config.standard with
    workers := 1
    queueCapacity := 1
    retry := { RetryPolicy.standard with maxRetries := 5, initialDelay := .ofMillis 10 } }

/-- An entry of the user with this number, whose ticket is one less. -/
def waitingEntry (user retries readyAt : Nat) : Entry :=
  ⟨⟨user - 1, ⟨⟨user⟩, ⟨1⟩, retries⟩⟩, readyAt, (Failure.database "down").message⟩

/-- Three tasks fail, the second after many retries. -/
def threeFailures : List Label :=
  let fails (user retries : Nat) : List Label :=
    .submit ⟨⟨user⟩, ⟨1⟩, retries⟩ ::
      .replicate 7 (.worker 0 ⟨none, .error (.database "down"), .one⟩)
  [.start, .worker 0 default] ++ fails 1 0 ++ fails 2 3 ++ fails 3 1 ++ .replicate 4 .scheduler

/-- All are due before there is a place in the primary queue for the first. -/
def slowWrites : List Label :=
  let slow (moves : Nat) : List Label :=
    .replicate moves (.worker 0 ⟨some 100, .ok .written, .one⟩)
  [.submit (.fresh ⟨4⟩ ⟨1⟩)] ++ slow 3 ++ [.submit (.fresh ⟨5⟩ ⟨1⟩), .wait 10, .scheduler,
    .scheduler, .wait 90] ++ slow 5 ++ [.scheduler, .scheduler, .scheduler, .wait 100] ++ slow 5 ++
    [.scheduler, .scheduler, .wait 100] ++ slow 5 ++ [.scheduler]

theorem slowWrites_runs :
    (trace? step? (new onePlace) threeFailures).any (fun (_, p) =>
      p.retrySide = [waitingEntry 1 1 10, waitingEntry 2 4 80, waitingEntry 3 2 20] ∧
        (trace? step? p slowWrites).any fun (moves, _) =>
          requeuedJobs (heard moves) = [(waitingEntry 1 1 10).job, (waitingEntry 2 4 80).job,
            (waitingEntry 3 2 20).job] ∧
          ∀ move ∈ moves, (waitingEntry 2 4 80).job ∈ requeuedJobs move.told →
            waitingEntry 1 1 10 ∉ move.before.scheduler.watch.due) = true := by
  decide +kernel

/-- The first task goes back in time: the others are collected only after it was sent. -/
theorem released_by_batch_slowWrites :
    ∃ notes p moves q a b, Reachable onePlace notes p ∧ Trace step? p moves q ∧
      a ∈ p.retrySide ∧ b ∈ p.retrySide ∧ a.readyAt < b.readyAt ∧
      b.job ∈ requeuedJobs (heard moves) ∧
      ∀ earlier move later, moves = earlier ++ move :: later → b.job ∈ requeuedJobs move.told →
        a.job ∈ requeuedJobs (heard earlier) := by
  obtain ⟨⟨before, p⟩, traced, ends⟩ := (Option.any_eq_true _ _).mp slowWrites_runs
  obtain ⟨waits, ends⟩ := of_decide_eq_true ends
  obtain ⟨⟨moves, q⟩, resumed, ends⟩ := (Option.any_eq_true _ _).mp ends
  obtain ⟨released, collected⟩ := of_decide_eq_true ends
  have run : Reachable onePlace (heard before) p := (Trace.of_trace? traced).leads
  have trace := Trace.of_trace? resumed
  have first : waitingEntry 1 1 10 ∈ p.retrySide := by simp [waits]
  have second : waitingEntry 2 4 80 ∈ p.retrySide := by simp [waits]
  have sooner : (waitingEntry 1 1 10).readyAt < (waitingEntry 2 4 80).readyAt := by decide
  refine ⟨_, p, moves, q, _, _, run, trace, first, second, sooner, by simp [released], ?_⟩
  intro earlier move later whole sent
  have order := run.released_by_batch trace first second sooner earlier move later whole sent
  exact order.1.mpr (collected move (by simp [whole]) sent)

/-- The second task goes back before the third, which is ready sooner: both are in one batch. -/
theorem slowWrites_overtakes :
    ∃ notes p more q a b c, Reachable onePlace notes p ∧ Leads step? p more q ∧
      p.retrySide = [c, b, a] ∧ a.readyAt < b.readyAt ∧
      requeuedJobs more = [c.job, b.job, a.job] := by
  obtain ⟨⟨before, p⟩, traced, ends⟩ := (Option.any_eq_true _ _).mp slowWrites_runs
  obtain ⟨waits, ends⟩ := of_decide_eq_true ends
  obtain ⟨⟨moves, q⟩, resumed, ends⟩ := (Option.any_eq_true _ _).mp ends
  have released := (of_decide_eq_true ends).1
  have run : Reachable onePlace (heard before) p := (Trace.of_trace? traced).leads
  exact ⟨_, p, _, q, _, _, _, run, (Trace.of_trace? resumed).leads, waits, by decide, released⟩

end Pool
end CouponSale

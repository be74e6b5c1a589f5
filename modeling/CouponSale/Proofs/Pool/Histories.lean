import CouponSale.Proofs.Pool.Slots
import CouponSale.Proofs.Pool.Stop
import Mathlib.Data.List.Nodup

/-!
The history of each job. Attempts that begin, the answers to them and the retries are what is told
about a job, from its acceptance on; they say how far it has come, and its count of retries says how
often it failed. Every move either leaves all jobs where they are or takes one a step further, and
tells nothing about any other.
-/
namespace CouponSale

/-- The job that a note tells something about. -/
def Note.effort? : Note → Option Pool.Job
  | .processing _ job | .persisted _ job | .alreadyPersisted _ job | .attemptFailed _ job _
  | .retryScheduled job _ _ => some job
  | _ => none

def Note.failure? : Note → Option Failure
  | .attemptFailed _ _ e => some e
  | _ => none

/-- The job that a note puts into the retry queue. -/
def Note.retried? : Note → Option Pool.Job
  | .retryScheduled job _ _ => some job
  | _ => none

namespace Pool

/-- What some notes tell about the job of a ticket. -/
def record (ticket : Nat) (notes : List Note) : List Note :=
  notes.filter fun note => note.effort?.any (·.ticket = ticket)

/-- The failures of the attempts that some notes report, in order. -/
def failures (notes : List Note) : List Failure := notes.filterMap Note.failure?

/-- The jobs that were put into the retry queue, once for each time. -/
def retriedJobs (notes : List Note) : List Job := notes.filterMap Note.retried?

/-- How far a job has come. -/
inductive Standing where
  | queued
  | writing
  /-- Its attempt has failed. -/
  | failed (e : Failure)
  /-- Its attempt has failed, and it has a retry slot. -/
  | slotted (e : Failure)
  | written

/-- How many attempts have begun since the job was queued last. -/
def Standing.begun : Standing → Nat
  | .queued => 0
  | _ => 1

/-- How many attempts have failed since the job was queued last. -/
def Standing.lost : Standing → Nat
  | .failed _ | .slotted _ => 1
  | _ => 0

def Standing.writes : Standing → Nat
  | .written => 1
  | _ => 0

def Standing.failure? : Standing → Option Failure
  | .failed e | .slotted e => some e
  | _ => none

/-- One step of a job, and what is told of it. A job is tried at most `most` times more. -/
inductive Advance (most : Nat) : Job → Standing → List Note → Job → Standing → Prop where
  | start (w : Nat) (job : Job) : Advance most job .queued [.processing w job] job .writing
  | fail (w : Nat) (job : Job) (e : Failure) :
      Advance most job .writing [.attemptFailed w job e] job (.failed e)
  | slot {job : Job} (e : Failure) (more : job.task.retries < most) :
      Advance most job (.failed e) [] job (.slotted e)
  | retry (job : Job) (e : Failure) (delay : Nat) :
      Advance most job (.slotted e) [.retryScheduled job e delay] job.retried .queued
  | write (w : Nat) (job : Job) : Advance most job .writing [.persisted w job] job .written
  | meet (w : Nat) (job : Job) : Advance most job .writing [.alreadyPersisted w job] job .written

/-- What is told about a job that was accepted as `first` says where it is now. -/
structure Accounted (most : Nat) (first : Job) (tale : List Note) (job : Job)
    (standing : Standing) : Prop where
  origin : job.origin = first.origin
  retries : job.task.retries = first.task.retries + (retriedJobs tale).length
  attempts : (begunJobs tale).length = (retriedJobs tale).length + standing.begun
  failed : (failures tale).length = (retriedJobs tale).length + standing.lost
  written : (writtenJobs tale).length = standing.writes
  last : ∀ e, standing.failure? = some e → (failures tale).getLast? = some e
  limited : job.task.retries ≤ max first.task.retries most
  more : ∀ e, standing = .slotted e → job.task.retries < most

variable {most : Nat} {first job next : Job} {tale told : List Note} {standing later : Standing}

theorem accounted_first (most : Nat) (first : Job) : Accounted most first [] first .queued where
  origin := rfl
  retries := rfl
  attempts := rfl
  failed := rfl
  written := rfl
  last := by simp [Standing.failure?]
  limited := Nat.le_max_left _ _
  more := by simp

theorem failures_append (earlier later : List Note) :
    failures (earlier ++ later) = failures earlier ++ failures later :=
  List.filterMap_append

theorem retriedJobs_append (earlier later : List Note) :
    retriedJobs (earlier ++ later) = retriedJobs earlier ++ retriedJobs later :=
  List.filterMap_append

theorem writtenJobs_append (earlier later : List Note) :
    writtenJobs (earlier ++ later) = writtenJobs earlier ++ writtenJobs later :=
  List.filterMap_append

theorem Accounted.advance (accounted : Accounted most first tale job standing)
    (step : Advance most job standing told next later) :
    Accounted most first (tale ++ told) next later where
  origin := by cases step <;> exact accounted.origin
  retries := by
    rw [retriedJobs_append, List.length_append, ← Nat.add_assoc, ← accounted.retries]
    cases step <;> rfl
  attempts := by
    rw [begunJobs_append, retriedJobs_append, List.length_append, List.length_append,
      accounted.attempts]
    cases step <;> rfl
  failed := by
    rw [failures_append, retriedJobs_append, List.length_append, List.length_append,
      accounted.failed]
    cases step <;> rfl
  written := by
    rw [writtenJobs_append, List.length_append, accounted.written]
    cases step <;> rfl
  last := by
    intro e failure
    cases step with
    | fail => simpa [failures, Note.failure?, Standing.failure?] using failure
    | slot =>
      rw [List.append_nil]
      exact accounted.last e failure
    | _ => cases failure
  limited := by
    cases step with
    | retry _ e =>
      have room := accounted.more e rfl
      simp only [Job.retried]
      omega
    | _ => exact accounted.limited
  more := by
    intro e same
    cases step with
    | slot _ more => exact more
    | _ => cases same

/-- Where the job in a worker's hands stands at a stage. -/
def Stage.course? : Stage → Option (Job × Standing)
  | .holding job => some (job, .queued)
  | .writing job _ => some (job, .writing)
  | .clearing job none => some (job, .written)
  | .clearing job (some e) | .failed job e => some (job, .failed e)
  | .slotted job e => some (job, .slotted e)
  | _ => none

/-- The jobs in the hands of some workers and how far each has come. -/
def inWork (workers : List Worker) : List (Job × Standing) := workers.filterMap (·.stage.course?)

@[simp] theorem inWork_append (before after : List Worker) :
    inWork (before ++ after) = inWork before ++ inWork after :=
  List.filterMap_append

@[simp] theorem inWork_cons (worker : Worker) (workers : List Worker) :
    inWork (worker :: workers) = worker.stage.course?.toList ++ inWork workers := by
  cases held : worker.stage.course? <;> simp [inWork, held]

/-- The jobs in some place and how far each has come. -/
def courses (p : Pool) : List (Job × Standing) :=
  p.queue.map (·, .queued) ++ inWork p.workers ++ p.retrySide.map (·.job, .queued)

/-- What a move does to the jobs of a pool. -/
inductive Turn (most : Nat) (p q : Pool) (notes : List Note) : Prop where
  | still (silent : ∀ note ∈ notes, note.effort? = none) (kept : ∀ c ∈ q.courses, c ∈ p.courses)
  | accept {job : Job} (told : notes = [.accepted job])
      (kept : ∀ c ∈ q.courses, c = (job, .queued) ∨ c ∈ p.courses)
  | advance {job next : Job} {standing later : Standing} (untold : p.schedulerTold = false)
      (here : (job, standing) ∈ p.courses) (there : (next, later) ∈ q.courses)
      (step : Advance most job standing notes next later)
      (kept : ∀ c ∈ q.courses, c = (next, later) ∨ c ∈ p.courses)

variable {p q : Pool} {notes : List Note}

theorem mem_courses_of_queue (queued : job ∈ p.queue) : (job, .queued) ∈ p.courses :=
  List.mem_append_left _ (List.mem_append_left _ (List.mem_map_of_mem queued))

theorem mem_courses_of_worker {worker : Worker} (member : worker ∈ p.workers)
    (here : worker.stage.course? = some (job, standing)) : (job, standing) ∈ p.courses := by
  have held : (job, standing) ∈ inWork p.workers := List.mem_filterMap.mpr ⟨worker, member, here⟩
  exact List.mem_append_left _ (List.mem_append_right _ held)

theorem mem_courses_of_retrySide {entry : Entry} (member : entry ∈ p.retrySide) :
    (entry.job, .queued) ∈ p.courses :=
  List.mem_append_right _ (List.mem_map_of_mem member)

theorem mem_openJobs_of_course (here : (job, standing) ∈ p.courses)
    (unwritten : standing ≠ .written) : job ∈ p.openJobs := by
  simp only [courses, List.mem_append] at here
  simp only [openJobs, List.mem_append]
  rcases here with (queued | held) | waits
  · obtain ⟨other, member, same⟩ := List.mem_map.mp queued
    cases same
    exact .inl (.inl member)
  · obtain ⟨worker, member, stands⟩ := List.mem_filterMap.mp held
    refine .inl (.inr (List.mem_filterMap.mpr ⟨worker, member, ?_⟩))
    rcases stage : worker.stage with _ | _ | _ | _ | _ | ⟨other, _ | e⟩ | _ | _ | _ <;>
      simp_all [Stage.course?, Stage.open?]
  · obtain ⟨entry, member, same⟩ := List.mem_map.mp waits
    cases same
    exact .inr (List.mem_map_of_mem member)

/-- A worker that takes the job in its hands a step further leaves all others where they are. -/
theorem Turn.in_hand {before after : List Worker} {worker next : Worker}
    (untold : p.schedulerTold = false) (crew : p.workers = before ++ worker :: after)
    (crewed : q.workers = before ++ next :: after) (queue : q.queue = p.queue)
    (retrySide : q.retrySide = p.retrySide) (here : worker.stage.course? = some (job, standing))
    (there : next.stage.course? = some (job, later))
    (step : Advance most job standing notes job later) : Turn most p q notes := by
  refine .advance untold ?_ ?_ step ?_
  · simp [courses, crew, here]
  · simp [courses, crewed, there]
  · simp only [courses, crew, crewed, queue, retrySide, inWork_append, inWork_cons, here, there]
    grind

theorem WorkerMove.turn {w : Nat} {s : Supply} {draining : Bool} {stage : Stage}
    {before after : List Worker} (slots : p.Slots) (untold : p.schedulerTold = false)
    (crew : p.workers = before ++ ⟨stage, draining, false⟩ :: after) (place : before.length = w)
    (move : WorkerMove p w s draining stage q notes) :
    Turn p.config.retry.maxRetries p q notes := by
  subst place
  have granted := (watch_grantPlace p.scheduler).2.2.1
  have waiting := (watch_grantPlace p.scheduler).2.1
  have placed : ∀ next, (p.place before.length next).workers =
      before ++ ⟨next, draining, false⟩ :: after := by
    intro next
    rw [Pool.place, crew, modify_append]
  cases move with
  | @beginWrite job =>
    exact .in_hand untold crew (placed _) rfl rfl rfl rfl (.start before.length job)
  | @written job =>
    exact .in_hand untold crew (placed _) rfl rfl rfl rfl (.write before.length job)
  | @alreadyThere job =>
    exact .in_hand untold crew (placed _) rfl rfl rfl rfl (.meet before.length job)
  | @attemptFailed job _ e =>
    exact .in_hand untold crew (placed _) rfl rfl rfl rfl (.fail before.length job e)
  | slot more free => exact .in_hand untold crew (placed _) rfl rfl rfl rfl (.slot _ more)
  | @scheduled job e isOpen room =>
    have step : Advance p.config.retry.maxRetries job (.slotted e) _ job.retried .queued :=
      .retry job e (p.config.retry.delayMillis job.task.retries s.draw)
    refine .advance untold ?_ ?_ step ?_
    all_goals simp_all [courses, retrySide, Pool.place, modify_append, Stage.course?]
    grind
  | refused closed => simp [(slots.room untold crew).1] at closed
  | overflow isOpen full => exact absurd (slots.room untold crew).2 (Nat.not_lt_of_ge full)
  | _ =>
    refine .still (by simp [Note.effort?]) ?_
    simp_all [courses, retrySide, Pool.place, Pool.hearStop, Pool.leaveLine, Pool.take, Pool.clear,
      Pool.giveUp, modify_append, Stage.course?] <;>
    grind

theorem SchedulerMove.turn {watch : Watch} {waiting : List Entry}
    (keeps : p.scheduler = ⟨watch, waiting, false⟩)
    (move : SchedulerMove p watch waiting q notes) :
    Turn p.config.retry.maxRetries p q notes := by
  cases move with
  | collect untold empty ready =>
    refine .still (by simp) ?_
    have parted : ∀ entry ∈ waiting.filter (·.readyAt ≤ p.now) ++
        waiting.filter (p.now < ·.readyAt), entry ∈ waiting := by grind
    rw [ready] at parted
    simp_all [courses, retrySide, Watch.due]
    grind
  | @handOver _ entry batch untold =>
    refine .still (by simp [Note.effort?]) ?_
    cases batch <;> simp_all [courses, retrySide, Pool.handOver, Watch.due] <;> grind
  | _ =>
    refine .still (by simp [Note.effort?]) ?_
    simp_all [courses, retrySide, Pool.schedulerHearStop, Pool.ask, Pool.giveUp, Watch.due] <;>
    grind

theorem inWork_cut (workers : List Worker) (w : Nat) :
    inWork (workers.modify w ({ · with cut := true })) = inWork workers :=
  filterMap_cut workers w Stage.course?

theorem StopperMove.turn {stopping : Stopping} (move : StopperMove p stopping q notes) :
    Turn p.config.retry.maxRetries p q notes := by
  cases move with
  | cut here stays late =>
    refine .still (by simp [Note.effort?]) ?_
    simp only [courses, retrySide, inWork_cut]
    exact fun _ member => member
  | dismiss all =>
    refine .still ?_ fun _ member => member
    intro note member
    obtain ⟨entry, _, told⟩ := List.mem_flatMap.mp member
    simp only [recovery, List.mem_cons, List.not_mem_nil, or_false] at told
    rcases told with rfl | rfl <;> rfl
  | close =>
    refine .still ?_ ?_
    · simp [Note.effort?, or_imp, forall_and]
    · simp [courses, retrySide, bury]
      grind
  | _ => exact .still (by simp [Note.effort?]) fun _ member => member

theorem Move.turn {label : Label} (phased : p.Phased) (slots : p.Slots)
    (move : Move p label q notes) : Turn p.config.retry.maxRetries p q notes := by
  cases move with
  | accept isOpen room =>
    refine .accept rfl ?_
    simp [courses, retrySide]
    grind
  | start idle quiet =>
    obtain ⟨bare, absent⟩ := phased.idle idle
    refine .still (by simp [Note.effort?]) ?_
    simp [courses, retrySide, bare, absent, Watch.due, inWork, Worker.new, Stage.course?]
  | startAgain begun told =>
    refine .still ?_ fun _ member => member
    rcases told with rfl | rfl <;> simp [Note.effort?]
  | worker crew place move => exact move.turn slots (phased.untold crew move) crew place
  | scheduler keeps move => exact move.turn keeps
  | stopper phase move => exact move.turn
  | _ => exact .still (by simp [Note.effort?]) fun _ member => member

theorem countP_inWork (f : Job → Bool) (workers : List Worker) :
    (inWork workers).countP (f ·.1) =
      (inHands workers).countP f + (workers.filterMap (·.stage.doubled?)).countP f := by
  induction workers with
  | nil => rfl
  | cons worker workers ih =>
    have parts : worker.stage.course?.toList.countP (f ·.1) =
        worker.stage.open?.toList.countP f + worker.stage.doubled?.toList.countP f := by
      rcases worker.stage with _ | _ | _ | _ | _ | ⟨job, _ | e⟩ | _ | _ | _ <;>
        simp [Stage.course?, Stage.open?, Stage.doubled?]
    rw [inWork_cons, inHands_cons, List.countP_append, List.countP_append, countP_filterMap_cons,
      ih, parts]
    omega

/-- What stands in some place is open, or was written and not yet cleared. -/
theorem countP_courses (f : Job → Bool) (p : Pool) :
    p.courses.countP (f ·.1) = p.openJobs.countP f + p.doubled.countP f := by
  have queued : (p.queue.map (·, Standing.queued)).countP (f ·.1) = p.queue.countP f :=
    List.countP_map
  have retrying : (p.retrySide.map (·.job, Standing.queued)).countP (f ·.1) =
      (p.retrySide.map Entry.job).countP f := by
    rw [List.countP_map, List.countP_map]
    rfl
  rw [courses, openJobs, List.countP_append, List.countP_append, List.countP_append,
    List.countP_append, queued, retrying, countP_inWork, Pool.doubled]
  omega

variable {config : Config}

/-- No ticket stands in two places. -/
theorem Reachable.courses_apart (run : Reachable config notes p) :
    (p.courses.map (·.1.ticket)).Nodup := by
  rw [List.nodup_iff_count]
  intro ticket
  have counted := countP_courses (fun job => job.ticket = ticket) p
  have written := run.open_written (ticket_stable ticket)
  have doubled := run.doubled_written (f := fun job => job.ticket = ticket)
  have once := run.accepted_once ticket
  have same : (p.courses.map (·.1.ticket)).count ticket =
      p.courses.countP (fun c => c.1.ticket = ticket) := by
    rw [List.count, List.countP_map]
    rfl
  omega

theorem Reachable.course_eq (run : Reachable config notes p) {job other : Job}
    {standing later : Standing} (here : (job, standing) ∈ p.courses)
    (there : (other, later) ∈ p.courses) (same : other.ticket = job.ticket) :
    (other, later) = (job, standing) :=
  List.inj_on_of_nodup_map run.courses_apart there here same

theorem record_append (ticket : Nat) (earlier later : List Note) :
    record ticket (earlier ++ later) = record ticket earlier ++ record ticket later :=
  List.filter_append _ _

theorem record_silent {ticket : Nat} (silent : ∀ note ∈ notes, note.effort? = none) :
    record ticket notes = [] := by
  apply List.filter_eq_nil_iff.mpr
  intro note member
  simp [silent note member]

/-- A step of a job tells about it, and about no other. -/
theorem Advance.record {job next : Job} {standing later : Standing}
    (step : Advance most job standing notes next later) :
    next.ticket = job.ticket ∧ Pool.record job.ticket notes = notes ∧
      ∀ ticket, ticket ≠ job.ticket → Pool.record ticket notes = [] := by
  cases step <;> simp +contextual [Pool.record, Note.effort?, Job.retried, eq_comm]

/-- What the notes of a run tell of the jobs of a pool. -/
structure Recorded (p : Pool) (notes : List Note) : Prop where
  known : ∀ note ∈ notes, ∀ job, note.effort? = some job → job.ticket < p.stats.submitted
  accounted : ∀ job standing, (job, standing) ∈ p.courses → ∃ first ∈ acceptedJobs notes,
    Accounted p.config.retry.maxRetries first (record job.ticket notes) job standing

theorem ticket_of_origin {first job : Job} (origin : job.origin = first.origin) :
    job.ticket = first.ticket := by
  have tickets : job.origin.ticket = first.origin.ticket := by rw [origin]
  exact tickets

theorem Reachable.ticket_lt (run : Reachable config notes p) {job : Job}
    (accepted : job ∈ acceptedJobs notes) : job.ticket < p.stats.submitted := by
  have listed := List.mem_map_of_mem (f := Job.ticket) accepted
  rwa [run.tickets, List.mem_range] at listed

theorem Advance.effort {job next : Job} {standing later : Standing}
    (step : Advance most job standing notes next later) {note : Note} (member : note ∈ notes)
    {other : Job} (about : note.effort? = some other) : other.ticket = job.ticket := by
  cases step <;> simp_all [Note.effort?]

theorem Recorded.known_turn {more : List Note} (recorded : Recorded p notes)
    (run : Reachable config notes p) (turn : Turn most p q more)
    (grows : p.stats.submitted ≤ q.stats.submitted) :
    ∀ note ∈ notes ++ more, ∀ job, note.effort? = some job → job.ticket < q.stats.submitted := by
  intro note member job about
  rcases List.mem_append.mp member with old | new
  · exact Nat.lt_of_lt_of_le (recorded.known note old job about) grows
  · cases turn with
    | still silent _ =>
      rw [silent note new] at about
      cases about
    | accept told _ =>
      rw [told, List.mem_singleton] at new
      rw [new] at about
      cases about
    | advance _ here there step _ =>
      obtain ⟨first, accepted, accounted⟩ := recorded.accounted _ _ here
      rw [step.effort new about, ticket_of_origin accounted.origin]
      exact Nat.lt_of_lt_of_le (run.ticket_lt accepted) grows

/-- Nothing is told about a ticket that was not given out. -/
theorem Recorded.untold (recorded : Recorded p notes) {ticket : Nat}
    (new : p.stats.submitted ≤ ticket) : record ticket notes = [] := by
  apply List.filter_eq_nil_iff.mpr
  intro note member about
  obtain ⟨job, told, same⟩ := Option.any_eq_true _ _ |>.mp about
  have bound := recorded.known note member job told
  have same : job.ticket = ticket := by simpa using same
  omega

theorem Recorded.turn {more : List Note} (recorded : Recorded p notes)
    (config : q.config = p.config) (after : Reachable p.config (notes ++ more) q)
    (turn : Turn p.config.retry.maxRetries p q more)
    (fresh : ∀ job ∈ acceptedJobs more, p.stats.submitted ≤ job.ticket) :
    ∀ job standing, (job, standing) ∈ q.courses → ∃ first ∈ acceptedJobs (notes ++ more),
      Accounted q.config.retry.maxRetries first (record job.ticket (notes ++ more)) job
        standing := by
  -- Of a job that the move leaves where it is, nothing new is told.
  have aside : ∀ job standing, (job, standing) ∈ p.courses → record job.ticket more = [] →
      ∃ first ∈ acceptedJobs (notes ++ more), Accounted p.config.retry.maxRetries first
        (record job.ticket (notes ++ more)) job standing := by
    intro job standing here silent
    obtain ⟨first, accepted, accounted⟩ := recorded.accounted job standing here
    refine ⟨first, ?_, ?_⟩
    · rw [acceptedJobs_append]
      exact List.mem_append_left _ accepted
    · rwa [record_append, silent, List.append_nil]
  intro job standing member
  rw [config]
  cases turn with
  | still silent kept => exact aside job standing (kept _ member) (record_silent silent)
  | @accept new told kept =>
    have silent : ∀ ticket, record ticket more = [] := by
      intro ticket
      rw [told]
      rfl
    rcases kept _ member with same | here
    · cases same
      have accepted : job ∈ acceptedJobs more := by
        rw [told]
        exact List.mem_singleton_self _
      refine ⟨job, ?_, ?_⟩
      · rw [acceptedJobs_append]
        exact List.mem_append_right _ accepted
      · rw [record_append, silent, recorded.untold (fresh job accepted)]
        exact accounted_first _ job
    · exact aside job standing here (silent _)
  | @advance moved next stood later _ here there step kept =>
    obtain ⟨same, own, others⟩ := step.record
    by_cases mover : job.ticket = moved.ticket
    · cases after.course_eq there member (mover.trans same.symm)
      obtain ⟨first, accepted, accounted⟩ := recorded.accounted _ _ here
      refine ⟨first, ?_, ?_⟩
      · rw [acceptedJobs_append]
        exact List.mem_append_left _ accepted
      · rw [mover, record_append, own]
        exact accounted.advance step
    · rcases kept _ member with equal | here
      · cases equal
        exact absurd same mover
      · exact aside job standing here (others _ mover)

theorem Reachable.induct {P : Pool → List Note → Prop} (run : Reachable config notes p)
    (start : P (new config) [])
    (move : ∀ {p notes label q more}, Reachable config notes p → P p notes → Move p label q more →
      Reachable config (notes ++ more) q → P q (notes ++ more)) : P p notes := by
  refine (Leads.keeps (P := fun p notes => Reachable config notes p ∧ P p notes) run
    ⟨.refl _, start⟩ ?_).2
  intro p notes label q more ⟨run, kept⟩ step
  have after := run.trans (.next step)
  exact ⟨after, move run kept (step?_move step) after⟩

/-- Whatever every move keeps on the way from a reachable pool holds where it leads. -/
theorem Reachable.onward {P : Pool → List Note → Prop} (run : Reachable config notes p)
    (later : Leads step? p more q) (start : P p [])
    (move : ∀ {q more label r told}, Reachable config (notes ++ more) q → P q more →
      Move q label r told → P r (more ++ told)) : P q more := by
  refine (later.keeps (P := fun q more => Reachable config (notes ++ more) q ∧ P q more)
    ⟨by simpa using run, start⟩ ?_).2
  rintro q more label r told ⟨run, kept⟩ step
  exact ⟨List.append_assoc _ _ _ ▸ run.trans (.next step), move run kept (step?_move step)⟩

theorem Move.submitted_le {label : Label} (move : Move p label q notes) :
    p.stats.submitted ≤ q.stats.submitted := by
  rw [move.stats, foldl_submitted]
  exact Nat.le_add_right _ _

/-- At any time, what was told about each job says where it is. -/
theorem Reachable.recorded (run : Reachable config notes p) : Recorded p notes := by
  apply run.induct (P := Recorded)
  · exact ⟨by simp, by simp [new, courses, retrySide, inWork, Watch.due]⟩
  · intro p notes label q more run recorded move after
    have turn := move.turn run.phased run.slots
    exact ⟨recorded.known_turn run turn move.submitted_le,
      recorded.turn move.config (run.config ▸ after) turn move.fresh⟩

end Pool
end CouponSale

import CouponSale.Proofs.Pool.Histories
import CouponSale.Proofs.Trace

/-!
What a dead letter says about its job. A job is given up after a failure, when it has no retries
left or finds no slot, or because of a stop; where it stood then is known, and so is what had been
told of it. Nothing more is told of a job once it is settled, so that is its whole history.
-/
namespace CouponSale.Pool

/-- A stop was called, as far as the pool shows it. -/
def Called (p : Pool) : Prop :=
  p.stopping ≠ .no ∨ p.schedulerTold = true ∨ p.scheduler.watch = .closing

/-- A worker was cut off over a job when the store had answered its attempt, before it took the job
out of the table of jobs in flight. -/
def CutOff (p : Pool) (job : Job) (failure : Option Failure) : Prop :=
  ∃ worker ∈ p.workers, worker.cut = true ∧ worker.stage = .clearing job failure

/-- Where a pool finds a job that it gives up, and what it says of it. -/
inductive Burial (p : Pool) : Job → GiveUp → Option String → Prop where
  | spent {worker : Worker} {job : Job} {e : Failure} (held : worker ∈ p.workers)
      (failed : worker.stage = .failed job e)
      (spent : p.config.retry.maxRetries ≤ job.task.retries) :
      Burial p job .retriesExhausted (some e.message)
  | noSlot {worker : Worker} {job : Job} {e : Failure} (held : worker ∈ p.workers)
      (failed : worker.stage = .failed job e)
      (more : job.task.retries < p.config.retry.maxRetries) (taken : p.config.retryRoom ≤ p.slots) :
      Burial p job .retryQueueFull (some e.message)
  | waiting {entry : Entry} (waits : entry ∈ p.retrySide)
      (closing : p.scheduler.watch = .closing) :
      Burial p entry.job .shutdown (some entry.lastError)
  | aborted {worker : Worker} {job : Job} (held : worker ∈ p.workers) (cut : worker.cut = true)
      (tabled : worker.stage.tabled? = some job) (stops : p.stopping ≠ .no) :
      Burial p job .shutdown (some cutError)
  | drained {job : Job} (queued : job ∈ p.queue) (closing : p.stopping = .closing) :
      Burial p job .shutdown none

/-- Why a pool gives a job up that stands somewhere. -/
inductive Cause (p : Pool) : Job → GiveUp → Option String → Standing → Prop where
  | spent {job : Job} (e : Failure) (spent : p.config.retry.maxRetries ≤ job.task.retries) :
      Cause p job .retriesExhausted (some e.message) (.failed e)
  | noSlot {job : Job} (e : Failure) (more : job.task.retries < p.config.retry.maxRetries)
      (taken : p.config.retryRoom ≤ p.slots) :
      Cause p job .retryQueueFull (some e.message) (.failed e)
  | stopped {job : Job} {lastError : Option String} {standing : Standing} (called : p.Called)
      (kept : standing.lost = 0) : Cause p job .shutdown lastError standing
  | cut {job : Job} {lastError : Option String} {e : Failure} (called : p.Called)
      (cutOff : p.CutOff job (some e)) : Cause p job .shutdown lastError (.failed e)

variable {p q : Pool} {notes : List Note} {job : Job} {reason : GiveUp} {lastError : Option String}

theorem WorkerMove.burial {w : Nat} {s : Supply} {draining : Bool} {stage : Stage}
    {before after : List Worker} (slots : p.Slots) (untold : p.schedulerTold = false)
    (crew : p.workers = before ++ ⟨stage, draining, false⟩ :: after)
    (move : WorkerMove p w s draining stage q notes)
    (letter : .deadLettered job reason lastError ∈ notes) : Burial p job reason lastError := by
  have mover : ⟨stage, draining, false⟩ ∈ p.workers := by simp [crew]
  cases move with
  | exhausted spent =>
    cases List.mem_singleton.mp letter
    exact .spent mover rfl spent
  | noSlot more taken =>
    cases List.mem_singleton.mp letter
    exact .noSlot mover rfl more taken
  | refused closed => simp [(slots.room untold crew).1] at closed
  | overflow isOpen full => exact absurd (slots.room untold crew).2 (Nat.not_lt_of_ge full)
  | _ => simp at letter

theorem SchedulerMove.burial {watch : Watch} {waiting : List Entry}
    (keeps : p.scheduler = ⟨watch, waiting, false⟩)
    (move : SchedulerMove p watch waiting q notes)
    (letter : .deadLettered job reason lastError ∈ notes) : Burial p job reason lastError := by
  cases move with
  | @giveUp entry rest =>
    cases List.mem_singleton.mp letter
    exact .waiting (by simp [retrySide, keeps]) (by rw [keeps])
  | _ => simp at letter

theorem StopperMove.burial {stopping : Stopping} (phased : p.Phased) (tabled : p.Tabled)
    (phase : p.stopping = stopping) (move : StopperMove p stopping q notes)
    (letter : .deadLettered job reason lastError ∈ notes) : Burial p job reason lastError := by
  cases move with
  | dismiss all =>
    obtain ⟨⟨w, other⟩, entered, told⟩ := List.mem_flatMap.mp letter
    simp only [recovery, List.mem_cons, reduceCtorEq, List.not_mem_nil, or_false, false_or] at told
    cases told
    have untold := (phased.behind _ _ phase).1
    have held : job ∈ Pool.tabled p.workers :=
      (perm_tabled p.workers p.inFlight (tabled.2 untold)).mem_iff.mp
        (List.mem_map_of_mem entered)
    obtain ⟨worker, member, here⟩ := List.mem_filterMap.mp held
    refine .aborted member ?_ here (by simp [phase])
    rcases phased.dismissed phase all worker member with left | cut
    · simp [left, Stage.tabled?] at here
    · exact cut
  | close =>
    simp only [List.mem_append, List.mem_map, List.mem_singleton, reduceCtorEq, or_false] at letter
    obtain ⟨other, member, told⟩ := letter
    cases told
    exact .drained member phase
  | _ => simp at letter

theorem Move.burial {label : Label} (phased : p.Phased) (slots : p.Slots) (tabled : p.Tabled)
    (move : Move p label q notes) (letter : .deadLettered job reason lastError ∈ notes) :
    Burial p job reason lastError := by
  cases move with
  | startAgain begun told => rcases told with rfl | rfl <;> simp at letter
  | worker crew place move => exact move.burial slots (phased.untold crew move) crew letter
  | scheduler keeps move => exact move.burial keeps letter
  | stopper phase move => exact move.burial phased tabled phase letter
  | _ => simp at letter

/-- Where a job in the table of jobs in flight stands. -/
theorem Stage.tabled_cases {stage : Stage} (tabled : stage.tabled? = some job) :
    (∃ standing, standing.lost = 0 ∧ stage.course? = some (job, standing)) ∨
      ∃ e, stage = .clearing job (some e) := by
  rcases stage with _ | _ | _ | _ | ⟨other, due⟩ | ⟨other, _ | e⟩ | _ | _ | _ <;>
    simp only [tabled?, reduceCtorEq, Option.some.injEq] at tabled <;> subst tabled
  · exact .inl ⟨.writing, rfl, rfl⟩
  · exact .inl ⟨.written, rfl, rfl⟩
  · exact .inr ⟨e, rfl⟩

/-- What is given up stands somewhere, and there is a cause. -/
theorem Burial.cause (burial : Burial p job reason lastError) :
    ∃ standing, (job, standing) ∈ p.courses ∧ Cause p job reason lastError standing := by
  cases burial with
  | @spent _ _ e held failed spent =>
    exact ⟨.failed e, mem_courses_of_worker held (by rw [failed]; rfl), .spent e spent⟩
  | @noSlot _ _ e held failed more taken =>
    exact ⟨.failed e, mem_courses_of_worker held (by rw [failed]; rfl), .noSlot e more taken⟩
  | waiting waits closing =>
    exact ⟨.queued, mem_courses_of_retrySide waits, .stopped (.inr (.inr closing)) rfl⟩
  | @aborted worker _ held cut tabled stops =>
    rcases Stage.tabled_cases tabled with ⟨standing, kept, stands⟩ | ⟨e, stands⟩
    · exact ⟨standing, mem_courses_of_worker held stands, .stopped (.inl stops) kept⟩
    · exact ⟨.failed e, mem_courses_of_worker held (by rw [stands]; rfl),
        .cut (.inl stops) ⟨worker, held, cut, stands⟩⟩
  | drained queued closing =>
    exact ⟨.queued, mem_courses_of_queue queued, .stopped (.inl (by simp [closing])) rfl⟩

theorem Turn.silent {most : Nat} (turn : Turn most p q notes)
    (letter : .deadLettered job reason lastError ∈ notes) :
    ∀ note ∈ notes, note.effort? = none := by
  cases turn with
  | still silent _ => exact silent
  | accept told _ => simp [told] at letter
  | advance _ _ _ step _ => cases step <;> simp at letter

/-- Only a stop that is called makes a pool look so. -/
theorem Move.called {label : Label} (move : Move p label q notes) (called : q.Called) :
    label = .stop ∨ p.Called := by
  cases move with
  | stop alive quiet => exact .inl rfl
  | start idle quiet =>
    rcases called with stops | told | closing
    · exact absurd quiet stops
    · exact .inr (.inr (.inl told))
    · cases closing
  | worker crew place move =>
    have frame := move.frame
    have watch : q.scheduler.watch = .closing ↔ p.scheduler.watch = .closing := by
      rcases frame.scheduler with same | granted
      · rw [same]
      · rw [granted]
        exact (watch_grantPlace p.scheduler).2.2.2 .closing rfl
    rw [Called, frame.stopping, frame.schedulerTold, watch] at called
    exact .inr called
  | scheduler keeps move =>
    have frame := move.frame
    rw [Called, frame.stopping, frame.schedulerTold] at called
    rcases called with stops | told | closing
    · exact .inr (.inl stops)
    · exact .inr (.inr (.inl told))
    · cases move with
      | hear listens told => exact .inr (.inr (.inl told))
      | giveUp => exact .inr (.inr (.inr (by rw [keeps])))
      | @handOver _ entry batch untold => cases batch <;> simp [handOver] at closing
      | _ => simp [ask] at closing
  | stopper phase move => exact .inr (.inl (by cases move <;> simp [phase]))
  | _ => exact .inr called

variable {config : Config} {moves earlier later : List (Transition Pool Label Note)}
  {move : Transition Pool Label Note}

theorem stop_of_called (trace : Trace step? (new config) moves p) (called : p.Called) :
    ∃ stop ∈ moves, stop.label = .stop := by
  induction trace with
  | start => simp [Called, new] at called
  | move sofar step ih =>
    rcases (step?_move step).called called with stop | called
    · exact ⟨_, List.mem_append_right _ (List.mem_singleton_self _), stop⟩
    · obtain ⟨stop, member, named⟩ := ih called
      exact ⟨stop, List.mem_append_left _ member, named⟩

/-- A move tells nothing about a job that is settled. -/
theorem Reachable.still {label : Label} {more : List Note} (run : Reachable config notes p)
    (settled : job ∈ settledJobs notes) (move : Move p label q more) :
    record job.ticket more = [] := by
  cases move.turn run.phased run.slots with
  | still silent _ => exact record_silent silent
  | accept told _ =>
    rw [told]
    rfl
  | @advance moved next standing _ untold here _ step _ =>
    refine step.record.2.2 job.ticket ?_
    intro same
    -- The job that moves on is open, and nothing was recovered yet that could be settled and open.
    have unwritten : standing ≠ .written := by
      rintro rfl
      cases step
    have isOpen := countP_ticket (mem_openJobs_of_course here unwritten)
    have closed := countP_ticket settled
    have balanced := run.balanced (ticket_stable moved.ticket)
    have once := run.accepted_once moved.ticket
    have recovered : recoveredJobs notes = [] := by simpa [untold] using run.recovered.2
    rw [same] at closed
    rw [recovered, List.countP_nil] at balanced
    omega

theorem Reachable.closed {more : List Note} (run : Reachable config notes p)
    (settled : job ∈ settledJobs notes) (later : Leads step? p more q) :
    record job.ticket more = [] := by
  apply run.onward later (P := fun _ more => record job.ticket more = []) rfl
  intro q more label r told run silent move
  have settled : job ∈ settledJobs (notes ++ more) := by
    rw [settledJobs_append]
    exact List.mem_append_left _ settled
  rw [record_append, silent, run.still settled move]
  rfl

/-- What was told of a job when it was settled is all that is told of it. -/
theorem record_whole {note : Note} (trace : Trace step? (new config) (earlier ++ move :: later) p)
    (member : note ∈ move.told) (settles : note.settled? = some job) :
    record job.ticket (heard (earlier ++ move :: later)) =
      record job.ticket (heard earlier ++ move.told) := by
  obtain ⟨sofar, step, rest⟩ := trace.at_move
  have run : Reachable config (heard earlier ++ move.told) move.after :=
    sofar.leads.trans (.next step)
  have settled : job ∈ settledJobs (heard earlier ++ move.told) :=
    List.mem_filterMap.mpr ⟨note, List.mem_append_right _ member, settles⟩
  rw [List.append_cons, heard_append, heard_append, heard_singleton,
    record_append _ _ (heard later), run.closed settled rest.leads, List.append_nil]

theorem Reachable.letter {label : Label} {more : List Note} (run : Reachable config notes p)
    (move : Move p label q more) (letter : .deadLettered job reason lastError ∈ more) :
    ∃ first ∈ acceptedJobs notes, ∃ standing, Cause p job reason lastError standing ∧
      Accounted config.retry.maxRetries first (record job.ticket (notes ++ more)) job standing := by
  obtain ⟨standing, here, cause⟩ :=
    (move.burial run.phased run.slots run.recovered.1 letter).cause
  obtain ⟨first, accepted, accounted⟩ := run.recorded.accounted job standing here
  have silent := (move.turn run.phased run.slots).silent letter
  refine ⟨first, accepted, standing, cause, ?_⟩
  rw [record_append, record_silent silent, List.append_nil, ← run.config]
  exact accounted

theorem Reachable.writing {label : Label} {more : List Note} {note : Note}
    (run : Reachable config notes p) (move : Move p label q more)
    (after : Reachable config (notes ++ more) q) (member : note ∈ more)
    (written : note.written? = some job) :
    ∃ first ∈ acceptedJobs (notes ++ more),
      Accounted config.retry.maxRetries first (record job.ticket (notes ++ more)) job .written := by
  have stands : (job, .written) ∈ q.courses := by
    cases move.turn run.phased run.slots with
    | still silent _ =>
      have silent := silent note member
      cases note <;> simp_all [Note.effort?, Note.written?]
    | accept told _ =>
      rw [told, List.mem_singleton] at member
      simp [member, Note.written?] at written
    | advance _ _ there step _ =>
      cases step with
      | write | meet =>
        rw [List.mem_singleton] at member
        subst member
        cases written
        exact there
      | _ => simp_all [Note.written?]
  rw [← after.config]
  exact after.recorded.accounted job .written stands

/-- All attempts on a job failed, the last with an error; they are one more than its retries since
it was accepted. -/
structure AllFailed (first job : Job) (tale : List Note) (lastError : Option String) : Prop where
  attempts : first.task.retries + (begunJobs tale).length = job.task.retries + 1
  failed : (failures tale).length = (begunJobs tale).length
  unwritten : writtenJobs tale = []
  last : (failures tale).getLast?.map Failure.message = lastError

variable {most : Nat} {first : Job} {tale : List Note}

theorem Accounted.allFailed {e : Failure} (accounted : Accounted most first tale job (.failed e)) :
    AllFailed first job tale (some e.message) where
  attempts := by
    have retries := accounted.retries
    have attempts := accounted.attempts
    simp only [Standing.begun] at attempts
    omega
  failed := accounted.failed.trans accounted.attempts.symm
  unwritten := List.length_eq_zero_iff.mp accounted.written
  last := by rw [accounted.last e rfl, Option.map_some]

/-- What a dead letter says about a job that was accepted as `first`, of which a tale is told, and
about the pool that gave it up after some moves. -/
def Says (config : Config) (p : Pool) (earlier : List (Transition Pool Label Note))
    (first job : Job) (tale : List Note) (lastError : Option String) : GiveUp → Prop
  | .retriesExhausted =>
    job.task.retries = max first.task.retries config.retry.maxRetries ∧
      AllFailed first job tale lastError
  | .retryQueueFull =>
    job.task.retries < config.retry.maxRetries ∧ AllFailed first job tale lastError ∧
      p.slots = config.retryRoom ∧
      p.retrySide.length + (slotted p.workers).length = config.retryRoom
  | .shutdown =>
    job.task.retries ≤ max first.task.retries config.retry.maxRetries ∧
      (∃ move ∈ earlier, move.label = .stop) ∧
      ((∀ e, ¬ p.CutOff job (some e)) →
        job.task.retries = first.task.retries + (failures tale).length)

theorem Cause.says {standing : Standing} (trace : Trace step? (new config) earlier p)
    (cause : Cause p job reason lastError standing)
    (accounted : Accounted config.retry.maxRetries first tale job standing) :
    Says config p earlier first job tale lastError reason := by
  have same : p.config = config := Reachable.config trace.leads
  cases cause with
  | spent e spent =>
    rw [same] at spent
    refine ⟨Nat.le_antisymm accounted.limited (Nat.max_le.mpr ⟨?_, spent⟩), accounted.allFailed⟩
    rw [accounted.retries]
    exact Nat.le_add_right _ _
  | noSlot e more taken =>
    have slots := Reachable.slots trace.leads
    have full := Nat.le_antisymm slots.within taken
    rw [same] at more full
    exact ⟨more, accounted.allFailed, full, slots.counted.symm.trans full⟩
  | stopped called kept =>
    refine ⟨accounted.limited, stop_of_called trace called, fun _ => ?_⟩
    rw [accounted.failed, kept, accounted.retries, Nat.add_zero]
  | @cut _ e called cutOff =>
    exact ⟨accounted.limited, stop_of_called trace called, fun none => absurd cutOff (none e)⟩

/-- A job was written once, after so many failures as retries were counted. -/
structure WrittenOnce (most : Nat) (first job : Job) (tale : List Note) : Prop where
  written : (writtenJobs tale).length = 1
  attempts : (begunJobs tale).length = (failures tale).length + 1
  retried : (retriedJobs tale).length = (failures tale).length
  retries : job.task.retries = first.task.retries + (failures tale).length
  limited : job.task.retries ≤ max first.task.retries most

theorem Accounted.writtenOnce (accounted : Accounted most first tale job .written) :
    WrittenOnce most first job tale := by
  obtain ⟨_, retries, attempts, failed, written, _, limited, _⟩ := accounted
  simp only [Standing.begun, Standing.lost, Standing.writes, Nat.add_zero]
    at attempts failed written
  rw [← failed] at retries attempts
  exact ⟨written, attempts, failed.symm, retries, limited⟩

/-- An account tells which job it is about. -/
theorem Accounted.job_eq {other : Job} {standing elsewhere : Standing}
    (here : Accounted most first tale job standing)
    (there : Accounted most first tale other elsewhere) : job = other := by
  have retries := here.retries.trans there.retries.symm
  have origin := here.origin.trans there.origin.symm
  obtain ⟨ticket, user, coupon, _⟩ := job
  obtain ⟨ticket', user', coupon', _⟩ := other
  simp_all [Job.origin]

theorem Reachable.accepted_eq (run : Reachable config notes p) {other : Job}
    (here : job ∈ acceptedJobs notes) (there : other ∈ acceptedJobs notes)
    (same : job.ticket = other.ticket) : job = other := by
  have apart : ((acceptedJobs notes).map Job.ticket).Nodup := by
    rw [run.tickets]
    exact List.nodup_range
  exact List.inj_on_of_nodup_map apart here there same

/-- A job in the table is open, or was written and not yet taken out. -/
theorem Stage.open_of_tabled {stage : Stage} (tabled : stage.tabled? = some job) :
    stage.open? = some job ∨ stage = .clearing job none := by
  rcases stage with _ | _ | _ | _ | _ | ⟨other, _ | e⟩ | _ | _ | _ <;> simp_all [tabled?, open?]

/-- A job that was written is given up only if a worker was cut off over it. -/
theorem Reachable.unburied (run : Reachable config notes p) (written : job ∈ writtenJobs notes)
    (accepted : first ∈ acceptedJobs notes)
    (accounted : Accounted config.retry.maxRetries first (record job.ticket notes) job .written)
    (kept : ¬ p.CutOff job none) : ∀ other ∈ buriedJobs notes, other.ticket ≠ job.ticket := by
  intro other buried same
  have durable := countP_ticket written
  have buried := countP_ticket buried
  have balanced := run.balanced (ticket_stable job.ticket)
  have isOpen := run.open_written (ticket_stable job.ticket)
  have once := run.accepted_once job.ticket
  rw [countP_settled] at balanced
  rw [same] at buried
  have recovered : 0 < (recoveredJobs notes).countP (fun other => other.ticket = job.ticket) := by
    omega
  obtain ⟨found, member, about⟩ := List.countP_pos_iff.mp recovered
  have about : found.ticket = job.ticket := by simpa using about
  by_cases told : p.schedulerTold = true
  · have held : found ∈ tabled p.workers := by
      have all := run.recovered.2
      rw [if_pos told] at all
      exact all.mem_iff.mp member
    obtain ⟨worker, inCrew, here⟩ := List.mem_filterMap.mp held
    rcases Stage.open_of_tabled here with unanswered | stands
    · -- A job that is written is not open.
      have inHand : found ∈ p.openJobs :=
        List.mem_append_left _ (List.mem_append_right _
          (List.mem_filterMap.mpr ⟨worker, inCrew, unanswered⟩))
      have counted := countP_ticket inHand
      rw [about] at counted
      omega
    · have stood : (found, .written) ∈ p.courses :=
        mem_courses_of_worker inCrew (by rw [stands]; rfl)
      obtain ⟨origin, taken, account⟩ := run.recorded.accounted found .written stood
      have tickets : origin.ticket = first.ticket := by
        rw [← ticket_of_origin account.origin, about, ticket_of_origin accounted.origin]
      rw [run.accepted_eq taken accepted tickets, about, run.config] at account
      rw [account.job_eq accounted] at stands
      have cut : worker.cut = true := by
        simpa [Worker.Gone, stands] using run.phased.gone told worker inCrew
      exact kept ⟨worker, inCrew, cut, stands⟩
  · have none := run.recovered.2
    rw [if_neg told] at none
    rw [none.eq_nil] at member
    cases member

theorem length_begunJobs_record (ticket : Nat) (notes : List Note) :
    (begunJobs (record ticket notes)).length =
      (begunJobs notes).countP (fun job => job.ticket = ticket) := by
  rw [begunJobs, record, List.filterMap_filter, List.length_filterMap_eq_countP, begunJobs,
    List.countP_filterMap]
  congr 1
  funext note
  cases note with
  | processing w job => by_cases own : job.ticket = ticket <;> simp [Note.begun?, Note.effort?, own]
  | _ => simp [Note.begun?]

/-- Dead letters tell the truth. No job is tried more often than once and its retries. A dead letter
says of the job's whole history what its reason stands for. A job whose write succeeds was written
just once, after as many failures as retries, and is not given up, unless a worker was cut off over
it. -/
theorem letters_truthful (trace : Trace step? (new config) moves p) :
    (∀ ticket, (begunJobs (record ticket (heard moves))).length ≤ config.retry.maxRetries + 1) ∧
      (∀ earlier move later, moves = earlier ++ move :: later →
        ∀ job reason lastError, .deadLettered job reason lastError ∈ move.told →
          ∃ first ∈ acceptedJobs (heard earlier), job.origin = first.origin ∧
            Says config move.before earlier first job (record job.ticket (heard moves)) lastError
              reason) ∧
      ∀ note ∈ heard moves, ∀ job, note.written? = some job →
        (∃ first ∈ acceptedJobs (heard moves), job.origin = first.origin ∧
          WrittenOnce config.retry.maxRetries first job (record job.ticket (heard moves))) ∧
        (¬ p.CutOff job none → ∀ other ∈ buriedJobs (heard moves), other.ticket ≠ job.ticket) := by
  refine ⟨?_, ?_, ?_⟩
  · intro ticket
    rw [length_begunJobs_record]
    exact Reachable.attempts_le trace.leads ticket
  · rintro earlier move later rfl job reason lastError letter
    obtain ⟨sofar, step, _⟩ := trace.at_move
    obtain ⟨first, accepted, standing, cause, accounted⟩ :=
      Reachable.letter sofar.leads (step?_move step) letter
    refine ⟨first, accepted, accounted.origin, ?_⟩
    rw [record_whole trace letter rfl]
    exact cause.says sofar accounted
  · intro note member job written
    obtain ⟨move, made, told⟩ := List.mem_flatMap.mp member
    obtain ⟨earlier, later, rfl⟩ := List.append_of_mem made
    obtain ⟨sofar, step, _⟩ := trace.at_move
    have settles : note.settled? = some job := by
      cases note <;> simp_all [Note.written?, Note.settled?]
    obtain ⟨first, accepted, accounted⟩ :=
      Reachable.writing sofar.leads (step?_move step) (sofar.leads.trans (.next step)) told written
    rw [← record_whole trace told settles] at accounted
    have known : first ∈ acceptedJobs (heard (earlier ++ move :: later)) := by
      rw [List.append_cons, heard_append, heard_append, heard_singleton, acceptedJobs_append]
      exact List.mem_append_left _ accepted
    have durable : job ∈ writtenJobs (heard (earlier ++ move :: later)) :=
      List.mem_filterMap.mpr ⟨note, member, written⟩
    exact ⟨⟨first, known, accounted.origin, accounted.writtenOnce⟩,
      Reachable.unburied trace.leads durable known accounted⟩

/-- One worker, and one retry for each job. -/
def oneRetry : Config :=
  { Config.standard with workers := 1, retry := { RetryPolicy.standard with maxRetries := 1 } }

/-- A task is tried, waits for its retry, and is tried again; both attempts fail. -/
def twoAttempts : List Label :=
  let fails (moves : Nat) : List Label :=
    .replicate moves (.worker 0 ⟨none, .error (.database "down"), .one⟩)
  [.submit (.fresh ⟨1⟩ ⟨1⟩), .start] ++ fails 8 ++
    [.scheduler, .scheduler, .wait 1000, .scheduler, .scheduler, .scheduler] ++ fails 6

theorem letters_truthful_twoAttempts :
    ∃ moves p job first lastError, Trace step? (new oneRetry) moves p ∧
      .deadLettered job .retriesExhausted lastError ∈ heard moves ∧
      first.task.retries = 0 ∧ job.task.retries = oneRetry.retry.maxRetries ∧
      (begunJobs (record job.ticket (heard moves))).length = 2 ∧
      AllFailed first job (record job.ticket (heard moves)) lastError := by
  have ends : (trace? step? (new oneRetry) twoAttempts).any (fun (moves, _) =>
      (heard moves)[10]?.any fun note =>
        note.series = [.deadLettered .retriesExhausted] ∧ note.buried?.isSome ∧
          ∀ job ∈ acceptedJobs (heard moves), job.task.retries = 0) = true := by
    decide +kernel
  obtain ⟨⟨moves, p⟩, traced, ends⟩ := (Option.any_eq_true _ _).mp ends
  obtain ⟨note, here, ends⟩ := (Option.any_eq_true _ _).mp ends
  obtain ⟨exhausts, gone, fresh⟩ := of_decide_eq_true ends
  have letter := List.mem_of_getElem? here
  cases note with
  | deadLettered job reason lastError =>
    cases exhausts
    have trace := Trace.of_trace? traced
    obtain ⟨move, made, told⟩ := List.mem_flatMap.mp letter
    obtain ⟨earlier, later, rfl⟩ := List.append_of_mem made
    obtain ⟨first, accepted, _, spent, allFailed⟩ :=
      (letters_truthful trace).2.1 earlier move later rfl _ _ _ told
    have unused : first.task.retries = 0 := by
      apply fresh
      rw [heard_append, acceptedJobs_append]
      exact List.mem_append_left _ accepted
    have attempts := allFailed.attempts
    rw [unused, Nat.zero_max] at spent
    rw [unused, spent, Nat.zero_add] at attempts
    exact ⟨_, p, job, first, lastError, trace, letter, unused, spent, attempts, allFailed⟩
  | _ => cases gone

/-- A task that comes with more retries than a job may have is tried once and given up. -/
def usedTask : List Label :=
  [.submit ⟨⟨1⟩, ⟨1⟩, 4⟩, .start] ++
    .replicate 7 (.worker 0 ⟨none, .error (.database "down"), .one⟩)

theorem usedTask_exhausted :
    ∃ notes p job lastError, Reachable .standard notes p ∧
      .deadLettered job .retriesExhausted lastError ∈ notes ∧
      job.task.retries ≠ Config.standard.retry.maxRetries ∧
      (begunJobs (record job.ticket notes)).length ≠ Config.standard.retry.maxRetries + 1 := by
  have run : ∃ notes p, Reachable .standard notes p ∧
      notes[5]? = some (.deadLettered ⟨0, ⟨⟨1⟩, ⟨1⟩, 4⟩⟩ .retriesExhausted
        (some (Failure.database "down").message)) ∧
      (begunJobs (record 0 notes)).length = 1 :=
    ⟨_, _, ⟨usedTask, rfl⟩, rfl, rfl⟩
  obtain ⟨notes, p, run, letter, attempts⟩ := run
  refine ⟨notes, p, _, _, run, List.mem_of_getElem? letter, by decide, ?_⟩
  rw [attempts]
  decide

end CouponSale.Pool

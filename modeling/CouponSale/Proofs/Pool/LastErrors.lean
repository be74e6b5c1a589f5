import CouponSale.Proofs.Pool.Release

/-!
The error that a dead letter names. A worker that gives a failed job up has the error at hand, and
an entry on the retry side keeps it. But a job that goes back to the primary queue leaves the error
behind; when a stop finds the job there, the letter names none.
-/
namespace CouponSale.Pool

/-- An attempt on a job is being aborted: a worker was cut off with the job in the table of jobs in
flight. -/
def Aborted (p : Pool) (job : Job) : Prop :=
  ∃ worker ∈ p.workers, worker.cut = true ∧ worker.stage.tabled? = some job

/-- A dead letter of a job of which a tale is told names the error of the last failed attempt,
unless an attempt is being aborted, and names none only if there was no attempt. -/
structure NamesCause (p : Pool) (job : Job) (tale : List Note) (lastError : Option String) :
    Prop where
  last : ∀ e, (failures tale).getLast? = some e → ¬ p.Aborted job → lastError = some e.message
  untried : lastError = none → begunJobs tale = []

variable {config : Config} {p q : Pool} {notes more : List Note} {label : Label} {job : Job}
  {reason : GiveUp} {lastError : Option String}

/-- No attempt on a job fails while it is queued. -/
theorem Reachable.failures_queued (run : Reachable config notes p) (move : Move p label q more)
    (stands : (job, .queued) ∈ p.courses) : failures (record job.ticket more) = [] := by
  cases move.turn run.phased run.slots with
  | still silent _ =>
    rw [record_silent silent]
    rfl
  | accept told _ =>
    rw [told]
    rfl
  | @advance moved _ standing _ _ here _ step _ =>
    obtain ⟨_, own, others⟩ := step.record
    by_cases same : moved.ticket = job.ticket
    · cases run.course_eq stands here same
      rw [own]
      cases step
      rfl
    · rw [others job.ticket (Ne.symm same)]
      rfl

/-- An entry on the retry side keeps the error of the last attempt on its job. -/
theorem Reachable.entry_error (run : Reachable config notes p) : ∀ entry ∈ p.retrySide,
    (failures (record entry.job.ticket notes)).getLast?.map Failure.message =
      some entry.lastError := by
  apply run.induct (P := fun p notes => ∀ entry ∈ p.retrySide,
    (failures (record entry.job.ticket notes)).getLast?.map Failure.message = some entry.lastError)
  · simp [new, retrySide, Watch.due]
  · intro p notes label q more run kept move after entry member
    have stays : entry ∈ p.retrySide →
        (failures (record entry.job.ticket (notes ++ more))).getLast?.map Failure.message =
          some entry.lastError := by
      intro waits
      rw [record_append, failures_append,
        run.failures_queued move (mem_courses_of_retrySide waits), List.append_nil]
      exact kept entry waits
    cases move.shift run.phased run.slots with
    | aside kept => exact stays ((kept entry).mp member)
    | @joins worker job e draw held uncut slot joined =>
      rcases (joined entry).mp member with rfl | old
      · have stands : (job, .slotted e) ∈ p.courses :=
          mem_courses_of_worker held (by rw [slot]; rfl)
        obtain ⟨first, _, accounted⟩ := run.recorded.accounted job (.slotted e) stands
        have last := accounted.last e rfl
        have silent : failures (record job.ticket
            [.retryScheduled job e (p.config.retry.delayMillis job.task.retries draw)]) = [] := by
          simp [record, failures, Note.effort?, Note.failure?]
        show (failures (record job.ticket _)).getLast?.map _ = some e.message
        rw [record_append, failures_append, silent, List.append_nil, last, Option.map_some]
      · exact stays old
    | released untold first queue left | givenUp told left =>
      exact stays ((left entry).mpr (.inr member))

/-- A job in the primary queue is in nobody's hands. -/
theorem Reachable.not_queued {standing : Standing} (run : Reachable config notes p)
    (stands : (job, standing) ∈ p.courses) (busy : standing ≠ .queued) : job ∉ p.queue := by
  intro queued
  cases run.course_eq stands (mem_courses_of_queue queued) rfl
  exact busy rfl

theorem Reachable.not_aborted (run : Reachable config notes p) (queued : job ∈ p.queue) :
    ¬ p.Aborted job := by
  rintro ⟨worker, member, _, tabled⟩
  obtain ⟨standing, stands, busy⟩ : ∃ standing, worker.stage.course? = some (job, standing) ∧
      standing ≠ .queued := by
    rcases stage : worker.stage with _ | _ | _ | _ | _ | ⟨other, _ | e⟩ | _ | _ | _ <;>
      simp_all [Stage.tabled?, Stage.course?]
  exact run.not_queued (mem_courses_of_worker member stands) busy queued

/-- A job in the primary queue was attempted just as often as an attempt on it failed. -/
theorem Reachable.queued_untried (run : Reachable config notes p) (queued : job ∈ p.queue)
    (unfailed : failures (record job.ticket notes) = []) :
    begunJobs (record job.ticket notes) = [] := by
  obtain ⟨first, _, accounted⟩ := run.recorded.accounted job .queued (mem_courses_of_queue queued)
  have attempts := accounted.attempts
  have failed := accounted.failed
  rw [unfailed] at failed
  simp only [List.length_nil, Standing.begun, Standing.lost, Nat.add_zero] at attempts failed
  exact List.length_eq_zero_iff.mp (attempts.trans failed.symm)

theorem Reachable.failed_last (run : Reachable config notes p) {worker : Worker} {e : Failure}
    (held : worker ∈ p.workers) (failed : worker.stage = .failed job e) :
    (failures (record job.ticket notes)).getLast? = some e ∧ job ∉ p.queue := by
  have stands : (job, .failed e) ∈ p.courses := mem_courses_of_worker held (by rw [failed]; rfl)
  obtain ⟨first, _, accounted⟩ := run.recorded.accounted job (.failed e) stands
  exact ⟨accounted.last e rfl, run.not_queued stands (by simp)⟩

theorem namesCause_of_last {tale : List Note} {text : String}
    (named : ∀ e, (failures tale).getLast? = some e → ¬ p.Aborted job → e.message = text) :
    NamesCause p job tale (some text) :=
  ⟨fun e last kept => by rw [named e last kept], by simp⟩

/-- A dead letter names its cause, unless a stop finds the job in the primary queue after an attempt
on it has failed: then it names no error at all. -/
theorem Reachable.letter_names_cause (run : Reachable config notes p)
    (step : p.step? label = some (q, more)) (letter : .deadLettered job reason lastError ∈ more) :
    (NamesCause p job (record job.ticket notes) lastError ↔
        job ∉ p.queue ∨ failures (record job.ticket notes) = []) ∧
      (job ∈ p.queue → reason = .shutdown ∧ lastError = none) := by
  have outside {text : String} (elsewhere : job ∉ p.queue)
      (named : NamesCause p job (record job.ticket notes) (some text)) :
      (NamesCause p job (record job.ticket notes) (some text) ↔
        job ∉ p.queue ∨ failures (record job.ticket notes) = []) ∧
        (job ∈ p.queue → reason = .shutdown ∧ some text = none) :=
    ⟨iff_of_true named (.inl elsewhere), fun queued => absurd queued elsewhere⟩
  cases (step?_move step).burial run.phased run.slots run.recovered.1 letter with
  | spent held failed | noSlot held failed =>
    obtain ⟨last, elsewhere⟩ := run.failed_last held failed
    refine outside elsewhere (namesCause_of_last fun e found _ => ?_)
    cases last.symm.trans found
    rfl
  | @waiting entry waits =>
    have elsewhere : entry.job ∉ p.queue := fun queued => run.queue_apart queued waits rfl
    refine outside elsewhere (namesCause_of_last fun e found _ => ?_)
    have error := run.entry_error entry waits
    rw [found] at error
    exact Option.some.inj error
  | aborted held cut tabled =>
    have aborted : p.Aborted job := ⟨_, held, cut, tabled⟩
    refine outside (fun queued => run.not_aborted queued aborted) ?_
    exact namesCause_of_last fun e _ kept => absurd aborted kept
  | drained queued =>
    refine ⟨⟨fun named => .inr ?_, fun untried => ⟨?_, ?_⟩⟩, fun _ => ⟨rfl, rfl⟩⟩
    · rw [← List.getLast?_eq_none_iff]
      by_contra failed
      obtain ⟨e, last⟩ := Option.ne_none_iff_exists'.mp failed
      cases named.last e last (run.not_aborted queued)
    · intro e last
      rw [untried.resolve_left (fun elsewhere => elsewhere queued)] at last
      cases last
    · exact fun _ =>
        run.queued_untried queued (untried.resolve_left fun elsewhere => elsewhere queued)

/-- One worker, which a stop waits for no longer than 50 ms. -/
def hurried : Config :=
  { Config.standard with workers := 1, shutdownTimeout := .ofMillis 50 }

/-- A task fails and waits for its retry. -/
def oneFailure : List Label :=
  [.start, .worker 0 default, .scheduler, .submit (.fresh ⟨1⟩ ⟨1⟩)] ++
    .replicate 7 (.worker 0 ⟨none, .error (.database "down"), .one⟩) ++ [.scheduler]

/-- A stop that comes while the task waits, up to where the task is given up. -/
def stopWhileWaiting : List Label :=
  oneFailure ++ [.stop] ++ .replicate 3 (.worker 0 default) ++ [.stopper, .stopper, .scheduler]

theorem letter_names_cause_stopWhileWaiting :
    ∃ notes p q more job lastError, Reachable hurried notes p ∧
      p.step? .scheduler = some (q, more) ∧ .deadLettered job .shutdown lastError ∈ more ∧
      lastError = some (Failure.database "down").message ∧
      NamesCause p job (record job.ticket notes) lastError := by
  have ends : (run? step? (new hurried) stopWhileWaiting).any (fun (p, _) =>
      p.scheduler = ⟨.closing, [waitingEntry 1 1 100], false⟩ ∧ p.queue = []) = true := by
    decide +kernel
  obtain ⟨⟨p, notes⟩, run, ends⟩ := (Option.any_eq_true _ _).mp ends
  obtain ⟨waits, empty⟩ := of_decide_eq_true ends
  have run : Reachable hurried notes p := ⟨_, run⟩
  obtain ⟨q, step⟩ : ∃ q, p.step? .scheduler = some (q, [.deadLettered (waitingEntry 1 1 100).job
      .shutdown (some (waitingEntry 1 1 100).lastError)]) := by
    simp [step?, schedulerStep?, moveScheduler?, waits, giveUp]
  have letter := List.mem_singleton_self (Note.deadLettered (waitingEntry 1 1 100).job .shutdown
    (some (waitingEntry 1 1 100).lastError))
  have elsewhere : (waitingEntry 1 1 100).job ∉ p.queue := by simp [empty]
  exact ⟨notes, p, q, _, _, _, run, step, letter, rfl,
    (run.letter_names_cause step letter).1.mpr (.inl elsewhere)⟩

/-- A stop that comes when the task has gone back to the primary queue, behind a task whose write
outlasts the stop's patience, up to where the queue is emptied. -/
def stopAfterRelease : List Label :=
  oneFailure ++ [.submit (.fresh ⟨2⟩ ⟨1⟩)] ++
    .replicate 3 (.worker 0 ⟨some 1000, .ok .written, .one⟩) ++ [.wait 100] ++
    .replicate 3 .scheduler ++
    [.stop, .wait 50, .stopper, .stopper, .scheduler, .scheduler, .stopper]

/-- The first task has failed, and nobody works on it; but its letter names no error. -/
theorem stopAfterRelease_forgets :
    ∃ notes p q more job e, Reachable hurried notes p ∧ p.step? .stopper = some (q, more) ∧
      .deadLettered job .shutdown none ∈ more ∧ ¬ p.Aborted job ∧
      (failures (record job.ticket notes)).getLast? = some e := by
  have ends : (run? step? (new hurried) stopAfterRelease).any (fun (p, notes) =>
      p.stopping = .closing ∧ p.queue = [(waitingEntry 1 1 100).job] ∧
        failures (record 0 notes) = [.database "down"]) = true := by
    decide +kernel
  obtain ⟨⟨p, notes⟩, run, ends⟩ := (Option.any_eq_true _ _).mp ends
  obtain ⟨closing, queued, failed⟩ := of_decide_eq_true ends
  have run : Reachable hurried notes p := ⟨_, run⟩
  have step : p.step? .stopper = some p.close := by simp [step?, stopStep?, closing]
  have letter : .deadLettered (waitingEntry 1 1 100).job .shutdown none ∈ p.close.2 := by
    simp [close, giveUpAll_eq, queued]
  have held : (waitingEntry 1 1 100).job ∈ p.queue := by simp [queued]
  have last : (failures (record 0 notes)).getLast? = some (.database "down") := by simp [failed]
  exact ⟨notes, p, _, _, _, _, run, step, letter, run.not_aborted held, last⟩

end CouponSale.Pool

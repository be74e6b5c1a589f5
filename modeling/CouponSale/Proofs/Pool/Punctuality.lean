import CouponSale.Proofs.Pool.Attempts
import CouponSale.Proofs.Pool.Effort
import CouponSale.Proofs.Pool.Halting
import CouponSale.Proofs.Pool.Release

/-!
When a failed job goes back to the primary queue. In virtual time the clock stands still while
anybody in the pool can move, and stops at every time for which somebody waits. So a failed job
comes to the retry side at the time of its failure, and a scheduler that is not told to stop and
finds a place in the primary queue does not let a time pass at which an entry is ready.
-/
namespace CouponSale.Pool

/-- Nobody in the pool can move. -/
structure Rests (p : Pool) : Prop where
  workers : ∀ w s, p.workerStep? w s = none
  scheduler : p.schedulerStep? = none
  stopper : p.stopStep? = none

/-- The times for which somebody waits who can still move then: a worker for the store, the
scheduler for an entry, a stop for somebody to end. -/
def appointments (p : Pool) : List Nat :=
  (p.workers.filter (!·.cut)).filterMap (·.stage.due?) ++
    (if p.scheduler.cut then [] else p.scheduler.alarms) ++ p.stopping.deadline?.toList

/-- In virtual time the clock moves on only when nobody can move, and not past an appointment. -/
def InVirtualTime (move : Transition Pool Label Note) : Prop :=
  match move.label with
  | .wait ms => move.before.Rests ∧
      ∀ time ∈ move.before.appointments, move.before.now < time → move.before.now + ms ≤ time
  | _ => True

/-- A failed job in the hands of a worker, and its failure. -/
def Stage.failing? : Stage → Option (Job × Failure)
  | .clearing job (some e) | .failed job e | .slotted job e => some (job, e)
  | _ => none

variable {config : Config} {p q : Pool} {notes more : List Note} {label : Label}

/-- Whether a worker can move does not depend on what it is given. -/
theorem workerStep?_eq_none_iff (p : Pool) (w : Nat) (s t : Supply) :
    p.workerStep? w s = none ↔ p.workerStep? w t = none := by
  simp only [workerStep?]
  cases p.workers[w]? with
  | none => rfl
  | some worker =>
    simp only [moveWorker?]
    rcases worker.stage with _ | _ | _ | _ | _ | ⟨job, _ | _⟩ | _ | _ | _ <;> simp

theorem rests_iff (p : Pool) :
    p.Rests ↔ (∀ w < p.workers.length, p.workerStep? w default = none) ∧ p.schedulerStep? = none ∧
      p.stopStep? = none := by
  constructor
  · rintro ⟨workers, scheduler, stopper⟩
    exact ⟨fun w _ => workers w default, scheduler, stopper⟩
  · rintro ⟨workers, scheduler, stopper⟩
    refine ⟨fun w s => ?_, scheduler, stopper⟩
    by_cases hired : w < p.workers.length
    · exact (workerStep?_eq_none_iff p w s default).mpr (workers w hired)
    · simp [workerStep?, List.getElem?_eq_none_iff.mpr (Nat.le_of_not_lt hired)]

instance (p : Pool) : Decidable p.Rests := decidable_of_iff' _ (rests_iff p)

instance : DecidablePred InVirtualTime
  | ⟨p, .wait ms, _, _⟩ => inferInstanceAs (Decidable (p.Rests ∧
      ∀ time ∈ p.appointments, p.now < time → p.now + ms ≤ time))
  | ⟨_, .submit _, _, _⟩ | ⟨_, .start, _, _⟩ | ⟨_, .stop, _, _⟩ | ⟨_, .worker _ _, _, _⟩
  | ⟨_, .scheduler, _, _⟩ | ⟨_, .stopper, _, _⟩ => isTrue trivial

/-- Until it is told to stop, the scheduler is attentive. -/
theorem Reachable.attentive (run : Reachable config notes p) (untold : p.schedulerTold = false) :
    p.Attentive := by
  refine (run.keeps (P := fun p _ => p.schedulerTold = false → p.Attentive) ?_ ?_).2 untold
  · exact fun _ => ⟨rfl, by simp [new]⟩
  · intro p notes label q more phased attentive move untold
    have before := move.untold phased untold
    have attentive := attentive before
    cases move with
    | accept isOpen room =>
      refine ⟨attentive.uncut, fun entry batch waits => ?_⟩
      refine Nat.le_trans (attentive.full entry batch waits) ?_
      rw [List.length_append]
      exact Nat.le_add_right _ _
    | start idle quiet => exact ⟨attentive.uncut, by simp⟩
    | worker crew place move => exact attentive.worker move
    | scheduler keeps move => exact attentive.scheduler keeps move
    | stopper phase move =>
      cases move with
      | dismiss all => simp at untold
      | cutScheduler started stays late => simp [phased.told (.inl ⟨_, phase⟩)] at before
      | close => simp [phased.told (.inr (.inl phase))] at before
      | _ => exact ⟨attentive.uncut, attentive.full⟩
    | _ => exact ⟨attentive.uncut, attentive.full⟩

/-- When nobody can move, and the scheduler is not told to stop and there is a place in the primary
queue, no entry is ready, and the scheduler waits for each. -/
theorem Reachable.unripe (run : Reachable config notes p) (rests : p.Rests)
    (untold : p.schedulerTold = false) (place : p.queue.length < p.config.room) {entry : Entry}
    (waits : entry ∈ p.retrySide) : p.now < entry.readyAt ∧ entry.readyAt ∈ p.appointments := by
  have attentive := run.attentive untold
  have rests := rests.scheduler
  have isOpen := run.slots.opened untold
  have uncut := attentive.uncut
  simp only [schedulerStep?, uncut, Bool.false_eq_true, if_false, moveScheduler?] at rests
  simp only [retrySide, List.mem_append] at waits
  cases watch : p.scheduler.watch with
  | absent => simp [run.phased.absent watch, watch, Watch.due] at waits
  | fresh => simp [watch] at rests
  | idle =>
    simp only [watch, untold, Bool.false_eq_true, if_false] at rests
    cases empty : p.channel with
    | cons first later => simp [empty] at rests
    | nil =>
      have waits : entry ∈ p.scheduler.waiting := by simpa [empty, watch, Watch.due] using waits
      have unripe : p.now < entry.readyAt := by
        by_contra ripe
        have ready : entry ∈ p.scheduler.waiting.filter (·.readyAt ≤ p.now) :=
          List.mem_filter.mpr ⟨waits, by simpa using ripe⟩
        cases batch : p.scheduler.waiting.filter (·.readyAt ≤ p.now) with
        | nil => simp [batch] at ready
        | cons first later => simp [empty, collect, batch] at rests
      refine ⟨unripe, ?_⟩
      simp only [appointments, uncut, Scheduler.alarms, watch, List.mem_append]
      exact .inl (.inr (List.mem_map_of_mem waits))
  | handing first batch place =>
    cases place with
    | wanted | granted => simp [watch, untold] at rests
    | awaited =>
      have full := attentive.full first batch watch
      omega
  | closing => simp [(run.phased.shut (.inl watch)).2] at isOpen
  | left => simp [(run.phased.shut (.inr watch)).2] at isOpen

theorem failing_moves {w : Nat} {worker : Worker} {job : Job} {e : Failure} (s : Supply)
    (here : p.workers[w]? = some worker) (uncut : worker.cut = false)
    (failing : worker.stage.failing? = some (job, e)) : p.workerStep? w s ≠ none := by
  simp only [workerStep?, here, uncut, Bool.false_eq_true, if_false, moveWorker?]
  rcases stage : worker.stage with _ | _ | _ | _ | _ | ⟨other, _ | _⟩ | _ | _ | _ <;>
    simp_all [Stage.failing?]

theorem WorkerMove.failing {w : Nat} {s : Supply} {draining : Bool} {stage : Stage}
    {before after : List Worker}
    (crew : p.workers = before ++ ⟨stage, draining, false⟩ :: after) (place : before.length = w)
    (move : WorkerMove p w s draining stage q notes) :
    ∃ stage' draining', q.workers = before ++ ⟨stage', draining', false⟩ :: after ∧
      ∀ job e, stage'.failing? = some (job, e) →
        stage.failing? = some (job, e) ∨ .attemptFailed w job e ∈ notes := by
  subst place
  have placed : ∀ f, p.workers.modify before.length f =
      before ++ f ⟨stage, draining, false⟩ :: after := by
    intro f
    rw [crew, modify_append]
  cases move with
  | clearFailed | slot => exact ⟨_, draining, placed _, fun _ _ failing => .inl failing⟩
  | _ => exact ⟨_, _, placed _, by simp [Stage.failing?]⟩

/-- A worker has a failed job in its hands from the failure of its attempt on. -/
theorem Move.failing (move : Move p label q notes) {worker : Worker} (member : worker ∈ q.workers)
    (uncut : worker.cut = false) {job : Job} {e : Failure}
    (failing : worker.stage.failing? = some (job, e)) :
    (∃ old ∈ p.workers, old.cut = false ∧ old.stage.failing? = some (job, e)) ∨
      ∃ w, .attemptFailed w job e ∈ notes := by
  cases move with
  | start idle quiet =>
    rw [List.eq_of_mem_replicate member] at failing
    cases failing
  | worker crew place move =>
    obtain ⟨stage', draining', crew', new⟩ := move.failing crew place
    rw [crew'] at member
    rw [crew]
    rcases List.mem_append.mp member with early | late
    · exact .inl ⟨worker, List.mem_append_left _ early, uncut, failing⟩
    · rcases List.mem_cons.mp late with rfl | later
      · rcases new job e failing with old | told
        · exact .inl ⟨_, List.mem_append_right _ List.mem_cons_self, rfl, old⟩
        · exact .inr ⟨_, told⟩
      · exact .inl ⟨worker, List.mem_append_right _ (List.mem_cons_of_mem _ later), uncut, failing⟩
  | scheduler keeps move =>
    rw [move.frame.workers] at member
    exact .inl ⟨worker, member, uncut, failing⟩
  | stopper phase move =>
    cases move with
    | @cut w deadline other here stays late =>
      obtain ⟨n, there⟩ := List.mem_iff_getElem?.mp member
      rw [List.getElem?_modify] at there
      obtain ⟨old, place, same⟩ := Option.map_eq_some_iff.mp there
      by_cases own : w = n
      · rw [if_pos own] at same
        rw [← same] at uncut
        cases uncut
      · rw [if_neg own] at same
        exact .inl ⟨worker, same ▸ List.mem_of_getElem? place, uncut, failing⟩
    | _ => exact .inl ⟨worker, member, uncut, failing⟩
  | _ => exact .inl ⟨worker, member, uncut, failing⟩

variable {moves earlier later : List (Transition Pool Label Note)}
  {fail move : Transition Pool Label Note}

/-- In virtual time, a worker that has a failed job in its hands had it fail just now. -/
theorem failed_now (trace : Trace step? (new config) moves p)
    (timed : ∀ move ∈ moves, InVirtualTime move) {worker : Worker} (member : worker ∈ p.workers)
    (uncut : worker.cut = false) {job : Job} {e : Failure}
    (failing : worker.stage.failing? = some (job, e)) :
    ∃ move ∈ moves, (∃ w, .attemptFailed w job e ∈ move.told) ∧ move.before.now = p.now := by
  induction trace generalizing worker with
  | start => simp [new] at member
  | @move moves t u label told sofar step ih =>
    have move := step?_move step
    have own := timed _ (List.mem_append_right _ (List.mem_singleton_self _))
    have still : u.now = t.now := by
      refine move.now ?_
      rintro ms rfl
      -- The worker could move, so that the clock stood still.
      cases move
      obtain ⟨w, here⟩ : ∃ w, t.workers[w]? = some worker := List.mem_iff_getElem?.mp member
      exact failing_moves default here uncut failing (own.1.workers w default)
    rw [still]
    rcases move.failing member uncut failing with ⟨old, there, uncut, failing⟩ | told
    · obtain ⟨failed, made, found⟩ :=
        ih (fun move made => timed move (List.mem_append_left _ made)) there uncut failing
      exact ⟨failed, List.mem_append_left _ made, found⟩
    · exact ⟨_, List.mem_append_right _ (List.mem_singleton_self _), told, rfl⟩

/-- When an attempt fails, the job has been through as many failures as it had retries since it was
accepted. -/
theorem Reachable.failing (run : Reachable config notes p) (move : Move p label q more) {w : Nat}
    {job : Job} {e : Failure} (failed : .attemptFailed w job e ∈ more) :
    more = [.attemptFailed w job e] ∧ (job, .writing) ∈ p.courses ∧
      ∃ first ∈ acceptedJobs notes, first.ticket = job.ticket ∧
        job.task.retries = first.task.retries + (failures (record job.ticket notes)).length := by
  cases move.turn run.phased run.slots with
  | still silent _ => simpa [Note.effort?] using silent _ failed
  | accept told _ => simp [told] at failed
  | @advance moved _ standing _ _ here _ step _ =>
    cases step with
    | fail w job e =>
      cases List.mem_singleton.mp failed
      obtain ⟨first, accepted, accounted⟩ := run.recorded.accounted job .writing here
      refine ⟨rfl, here, first, accepted, (ticket_of_origin accounted.origin).symm, ?_⟩
      rw [accounted.retries, accounted.failed]
      rfl
    | _ => simp at failed

/-- A job fails at most once with as many retries. -/
theorem fails_once (trace : Trace step? (new config) (earlier ++ fail :: later) p) {w : Nat}
    {job : Job} {e : Failure} (failed : .attemptFailed w job e ∈ fail.told) :
    ∀ move ∈ later, ∀ w e, .attemptFailed w job e ∉ move.told := by
  intro move made w' e' again
  obtain ⟨mid, rest, rfl⟩ := List.append_of_mem made
  rw [← List.cons_append, ← List.append_assoc] at trace
  obtain ⟨between, step, _⟩ := trace.at_move
  obtain ⟨sofar, first, _⟩ := between.at_move
  obtain ⟨told, _, origin, accepted, same, retries⟩ :=
    Reachable.failing sofar.leads (step?_move first) failed
  obtain ⟨_, _, origin', accepted', same', retries'⟩ :=
    Reachable.failing between.leads (step?_move step) again
  -- Between the two, one failure more was told.
  have one : failures (record job.ticket [.attemptFailed w job e]) = [e] := by
    simp [record, failures, Note.effort?, Note.failure?]
  have grown : heard (earlier ++ fail :: mid) =
      heard earlier ++ [.attemptFailed w job e] ++ heard mid := by
    rw [List.append_cons, heard_append, heard_append, heard_singleton, told]
  have known : origin ∈ acceptedJobs (heard (earlier ++ fail :: mid)) := by
    rw [heard_append, acceptedJobs_append]
    exact List.mem_append_left _ accepted
  have equal := Reachable.accepted_eq between.leads known accepted' (same.trans same'.symm)
  rw [grown, record_append, record_append, failures_append, failures_append, one, ← equal]
    at retries'
  simp only [List.length_append, List.length_singleton] at retries'
  omega

theorem now_le (trace : Trace step? p moves q) : p.now ≤ q.now := by
  induction trace with
  | start => exact Nat.le_refl _
  | @move moves t u label told sofar step ih =>
    refine Nat.le_trans ih ?_
    have move := step?_move step
    by_cases waits : ∃ ms, label = .wait ms
    · obtain ⟨ms, rfl⟩ := waits
      cases move
      exact Nat.le_add_right _ _
    · exact Nat.le_of_eq (move.now (by simpa using waits)).symm

/-- Every entry was made when its job came to the retry side. -/
theorem entry_made (trace : Trace step? (new config) moves p) {entry : Entry}
    (waits : entry ∈ p.retrySide) : ∃ move ∈ moves, ∃ job e draw,
      entry = move.before.entryOf job e draw ∧ job ∈ retriedJobs move.told := by
  induction trace with
  | start => simp [new, retrySide, Watch.due] at waits
  | @move moves t u label told sofar step ih =>
    have earlier : entry ∈ t.retrySide → ∃ move ∈ moves ++ [⟨t, label, u, told⟩], ∃ job e draw,
        entry = move.before.entryOf job e draw ∧ job ∈ retriedJobs move.told := by
      intro waits
      obtain ⟨move, made, found⟩ := ih waits
      exact ⟨move, List.mem_append_left _ made, found⟩
    cases (step?_move step).shift (Reachable.phased sofar.leads) (Reachable.slots sofar.leads) with
    | aside kept => exact earlier ((kept entry).mp waits)
    | @joins _ job e draw _ _ _ joined =>
      rcases (joined entry).mp waits with made | old
      · exact ⟨_, List.mem_append_right _ (List.mem_singleton_self _), job, e, draw, made,
          List.mem_singleton_self _⟩
      · exact earlier old
    | released untold first queue left | givenUp told left =>
      exact earlier ((left entry).mpr (.inr waits))

theorem retried_inj {job other : Job} (same : other.retried = job.retried) : other = job := by
  obtain ⟨ticket, user, coupon, retries⟩ := job
  obtain ⟨ticket', user', coupon', retries'⟩ := other
  simp_all [Job.retried]

/-- Without jitter nothing is drawn. -/
theorem delayMillis_plain {policy : RetryPolicy} (plain : policy.jitter = false) (attempt : Nat)
    (draw other : Binary64) :
    policy.delayMillis attempt draw = policy.delayMillis attempt other := by
  simp [RetryPolicy.delayMillis, plain]

/-- A job that has just failed has not yet been on the retry side with one retry more. -/
theorem Reachable.unscheduled (run : Reachable config notes p) (move : Move p label q more)
    {w : Nat} {job : Job} {e : Failure} (failed : .attemptFailed w job e ∈ more) :
    job.retried ∉ arrivals (notes ++ more) := by
  obtain ⟨told, stands, _⟩ := run.failing move failed
  rw [told, mem_arrivals_append]
  rintro (came | now)
  · exact Nat.not_succ_le_self _ (run.arrived.bound _ came job _ stands rfl)
  · simp [arrivals, retriedJobs, Note.retried?] at now

/-- A failed job does not go back to the primary queue before its delay has passed. -/
theorem released_after_delay (trace : Trace step? (new config) (earlier ++ fail :: later) p)
    (plain : config.retry.jitter = false) {w : Nat} {job : Job} {e : Failure}
    (failed : .attemptFailed w job e ∈ fail.told) (draw : Binary64) (made : move ∈ later)
    (released : job.retried ∈ requeuedJobs move.told) :
    fail.before.now + config.retry.delayMillis job.task.retries draw ≤ move.before.now := by
  obtain ⟨mid, rest, rfl⟩ := List.append_of_mem made
  rw [← List.cons_append, ← List.append_assoc] at trace
  obtain ⟨between, step, _⟩ := trace.at_move
  obtain ⟨sofar, first, _⟩ := between.at_move
  have run : Reachable config (heard (earlier ++ fail :: mid)) move.before := between.leads
  obtain ⟨untold, _, entry, batch, watch, own⟩ := run.released (step?_move step) released
  have due : entry ∈ move.before.scheduler.watch.due := by simp [watch, Watch.due]
  have ripe := (run.batched untold).ripe entry due
  obtain ⟨scheduling, there, other, e', draw', rfl, told⟩ :=
    entry_made between (List.mem_append_right _ due)
  obtain rfl : other = job := retried_inj own
  -- The entry was made after the failure.
  have unscheduled := Reachable.unscheduled sofar.leads (step?_move first) failed
  have late : scheduling ∈ mid := by
    by_contra early
    have early : scheduling ∈ earlier ++ [fail] := by simp_all
    refine unscheduled ?_
    rw [← heard_singleton, ← heard_append]
    refine List.mem_map_of_mem ?_
    obtain ⟨note, member, about⟩ := List.mem_filterMap.mp told
    exact List.mem_filterMap.mpr ⟨note, List.mem_flatMap.mpr ⟨scheduling, early, member⟩, about⟩
  obtain ⟨before, behind, rfl⟩ := List.append_of_mem late
  rw [← List.cons_append, ← List.append_assoc] at between
  obtain ⟨upto, _, _⟩ := between.at_move
  obtain ⟨_, _, wait⟩ := upto.at_move
  have passed := now_le (wait.cons first)
  have same := Reachable.config upto.leads
  rw [entryOf, same] at ripe
  rw [delayMillis_plain plain _ draw draw']
  exact Nat.le_trans (Nat.add_le_add_right passed _) ripe

/-- No time passes at which an entry is ready that could go back to the primary queue. -/
theorem Reachable.now_le_readyAt (run : Reachable config notes p) {entry : Entry}
    (waits : entry ∈ p.retrySide) (early : p.now ≤ entry.readyAt) (untold : p.schedulerTold = false)
    (place : p.queue.length < config.room) (move : Move p label q more)
    (timed : InVirtualTime ⟨p, label, q, more⟩) : q.now ≤ entry.readyAt := by
  by_cases waiting : ∃ ms, label = .wait ms
  · obtain ⟨ms, rfl⟩ := waiting
    obtain ⟨later, awaited⟩ := run.unripe timed.1 untold (by rwa [run.config]) waits
    cases move
    exact timed.2 _ awaited later
  · exact (move.now (by simpa using waiting)).symm ▸ early

/-- An entry waits until it is ready, or goes back just when it is. -/
theorem Reachable.waits_or_goes (run : Reachable config notes p) {entry : Entry}
    (waits : entry ∈ p.retrySide) (early : p.now ≤ entry.readyAt) (untold : p.schedulerTold = false)
    (place : p.queue.length < config.room) (move : Move p label q more)
    (timed : InVirtualTime ⟨p, label, q, more⟩) :
    entry ∈ q.retrySide ∧ q.now ≤ entry.readyAt ∨
      entry.job ∈ requeuedJobs more ∧ p.now = entry.readyAt := by
  have early' := run.now_le_readyAt waits early untold place move timed
  cases move.shift run.phased run.slots with
  | aside kept => exact .inl ⟨(kept entry).mpr waits, early'⟩
  | joins held uncut slot joined => exact .inl ⟨(joined entry).mpr (.inr waits), early'⟩
  | @released head batch _ first queue left =>
    rcases (left entry).mp waits with rfl | stays
    · have ripe := (run.batched untold).ripe entry (by simp [first, Watch.due])
      exact .inr ⟨List.mem_singleton_self _, Nat.le_antisymm early ripe⟩
    · exact .inl ⟨stays, early'⟩
  | givenUp told left => simp [untold] at told

/-- As long as an entry waits, the scheduler is not told to stop and the primary queue has a
place. -/
def Undelayed (config : Config) (job : Job) (moves : List (Transition Pool Label Note)) : Prop :=
  ∀ earlier move later, moves = earlier ++ move :: later → job ∉ requeuedJobs (heard earlier) →
    move.before.schedulerTold = false ∧ move.before.queue.length < config.room

theorem Reachable.released_when_ready (run : Reachable config notes p) {entry : Entry}
    (waits : entry ∈ p.retrySide) (early : p.now ≤ entry.readyAt) (trace : Trace step? p moves q)
    (timed : ∀ move ∈ moves, InVirtualTime move) (undelayed : Undelayed config entry.job moves) :
    entry ∈ q.retrySide ∧ q.now ≤ entry.readyAt ∨
      ∃ move ∈ moves, entry.job ∈ requeuedJobs move.told ∧ move.before.now = entry.readyAt := by
  induction trace with
  | start => exact .inl ⟨waits, early⟩
  | @move moves t u label told sofar step ih =>
    have last : (⟨t, label, u, told⟩ : Transition Pool Label Note) ∈
        moves ++ [⟨t, label, u, told⟩] := List.mem_append_right _ (List.mem_singleton_self _)
    have earlier := ih (fun move made => timed move (List.mem_append_left _ made)) (by
      rintro before move after rfl
      exact undelayed before move (after ++ [⟨t, label, u, told⟩]) (by simp))
    rcases earlier with ⟨waits, early⟩ | ⟨move, made, released⟩
    · have run : Reachable config (notes ++ heard moves) t := run.trans sofar.leads
      have unreleased : entry.job ∉ requeuedJobs (heard moves) := by
        intro released
        refine (run.arrived.gone entry.job ?_).2 entry waits rfl
        rw [requeuedJobs_append]
        exact List.mem_append_right _ released
      obtain ⟨untold, place⟩ := undelayed moves _ [] rfl unreleased
      rcases run.waits_or_goes waits early untold place (step?_move step) (timed _ last) with
        stays | ⟨released, ready⟩
      · exact .inl stays
      · exact .inr ⟨_, last, released, ready⟩
    · exact .inr ⟨move, List.mem_append_left _ made, released⟩

/-- In virtual time, a failed job comes to the retry side at the time of its failure. -/
theorem scheduled_now (trace : Trace step? (new config) (earlier ++ fail :: (later ++ [move])) p)
    (timed : ∀ made ∈ earlier ++ fail :: (later ++ [move]), InVirtualTime made) {w : Nat}
    {job : Job} {e : Failure} (failed : .attemptFailed w job e ∈ fail.told)
    (scheduled : job ∈ retriedJobs move.told) :
    ∃ entry ∈ p.retrySide, entry.job = job.retried ∧ p.now = fail.before.now ∧ ∃ draw,
      entry.readyAt = fail.before.now + config.retry.delayMillis job.task.retries draw := by
  rw [← List.cons_append, ← List.append_assoc] at trace timed
  obtain ⟨sofar, step, rfl⟩ := trace.last
  have run : Reachable config (heard (earlier ++ fail :: later)) move.before := sofar.leads
  have moved := step?_move step
  generalize told : move.told = more at scheduled moved
  cases moved.shift run.phased run.slots with
  | aside kept _ none => simp [none] at scheduled
  | released | givenUp => simp [retriedJobs, Note.retried?] at scheduled
  | @joins worker other e' draw held uncut slot joined =>
    obtain rfl : job = other := by simpa [retriedJobs, Note.retried?] using scheduled
    have failing : worker.stage.failing? = some (job, e') := by
      rw [slot]
      rfl
    obtain ⟨made, member, ⟨w', again⟩, now⟩ := failed_now sofar
      (fun move made => timed move (List.mem_append_left _ made)) held uncut failing
    have still : move.after.now = move.before.now := by
      refine moved.now ?_
      intro ms waits
      rw [waits] at moved
      generalize move.after = q at moved
      cases moved
    -- The job has failed with as many retries only once.
    have same : made.before.now = fail.before.now := by
      rcases List.mem_append.mp member with early | late
      · obtain ⟨before, behind, rfl⟩ := List.append_of_mem early
        rw [List.append_assoc, List.cons_append] at sofar
        exact absurd failed (fails_once sofar again fail (by simp) _ _)
      · rcases List.mem_cons.mp late with rfl | later
        · rfl
        · exact absurd again (fails_once sofar failed made later _ _)
    refine ⟨_, (joined _).mpr (.inl rfl), rfl, by omega, draw, ?_⟩
    rw [entryOf, run.config, ← now, same]

/-- Retries are punctual. A failed job never goes back to the primary queue before its delay has
passed since its attempt failed; and in virtual time it goes back just then, whatever else waits, if
nothing keeps it from doing so. -/
theorem retries_punctual (trace : Trace step? (new config) (earlier ++ fail :: later) p)
    (plain : config.retry.jitter = false) {w : Nat} {job : Job} {e : Failure}
    (failed : .attemptFailed w job e ∈ fail.told) (scheduled : job ∈ retriedJobs (heard later))
    (draw : Binary64) :
    (∀ move ∈ later, job.retried ∈ requeuedJobs move.told →
        fail.before.now + config.retry.delayMillis job.task.retries draw ≤ move.before.now) ∧
      ((∀ move ∈ earlier ++ fail :: later, InVirtualTime move) →
        Undelayed config job.retried later →
        fail.before.now + config.retry.delayMillis job.task.retries draw < p.now →
        ∃ move ∈ later, job.retried ∈ requeuedJobs move.told ∧
          move.before.now = fail.before.now + config.retry.delayMillis job.task.retries draw) := by
  refine ⟨fun move made released => released_after_delay trace plain failed draw made released, ?_⟩
  intro timed undelayed past
  obtain ⟨note, member, about⟩ := List.mem_filterMap.mp scheduled
  obtain ⟨move, made, told⟩ := List.mem_flatMap.mp member
  obtain ⟨mid, rest, rfl⟩ := List.append_of_mem made
  have whole : earlier ++ fail :: (mid ++ move :: rest) =
      (earlier ++ fail :: (mid ++ [move])) ++ rest := by simp
  rw [whole] at trace timed
  obtain ⟨q, first, second⟩ := trace.split
  obtain ⟨entry, waits, own, now, draw', ready⟩ := scheduled_now first
    (fun other made => timed other (List.mem_append_left _ made)) failed
    (List.mem_filterMap.mpr ⟨note, told, about⟩)
  rw [delayMillis_plain plain _ draw' draw] at ready
  have run : Reachable config (heard (earlier ++ fail :: (mid ++ [move]))) q := first.leads
  have unreleased : entry.job ∉ requeuedJobs (heard (mid ++ [move])) := by
    intro released
    refine (run.arrived.gone entry.job ?_).2 _ waits rfl
    rw [List.append_cons, heard_append, requeuedJobs_append]
    exact List.mem_append_right _ released
  have undelayed : Undelayed config entry.job rest := by
    rintro before other after rfl waiting
    rw [own] at unreleased waiting
    refine undelayed (mid ++ move :: before) other after (by simp) ?_
    rw [List.append_cons, heard_append, requeuedJobs_append, List.mem_append]
    exact fun released => released.elim unreleased waiting
  have later := run.released_when_ready waits (by omega) second
    (fun other made => timed other (List.mem_append_right _ made)) undelayed
  rw [ready, own] at later
  rcases later with ⟨_, waits⟩ | ⟨release, made, released, now⟩
  · omega
  · exact ⟨release, by simp [made], released, now⟩

/-- One worker, three retries, and 100 ms before the first. -/
def patient : Config := { Config.standard with workers := 1 }

/-- Some moves of the only worker. -/
def works (latency : Option Nat) (result : Answer Persisted) (moves : Nat) : List Label :=
  .replicate moves (.worker 0 ⟨latency, result, .one⟩)

/-- A task that has failed before fails again, and a new one is being written. -/
def twoTasks : List Label :=
  [.start, .worker 0 default, .scheduler, .submit ⟨⟨1⟩, ⟨1⟩, 1⟩] ++
    works none (.error (.database "down")) 7 ++ [.submit (.fresh ⟨2⟩ ⟨1⟩)] ++
    works none (.error (.database "down")) 3

/-- The new task, with its ticket. -/
def newJob : Job := ⟨1, .fresh ⟨2⟩ ⟨1⟩⟩

/-- The attempt on the new task fails. -/
def newFailure : Label := .worker 0 ⟨none, .error (.database "down"), .one⟩

/-- The new task has less long to wait. It goes back first, and is written. -/
def twoDelays : List Label :=
  let round (ms : Nat) : List Label :=
    works none (.ok .written) 1 ++ [.wait ms] ++ .replicate 3 .scheduler ++
      works (some 30) (.ok .written) 2 ++ [.wait 30] ++ works none (.ok .written) 2
  works none (.error (.database "down")) 3 ++ [.scheduler, .scheduler] ++ round 100 ++ round 70

theorem retries_punctual_twoDelays :
    ∃ earlier fail later p w job e, Trace step? (new patient) (earlier ++ fail :: later) p ∧
      .attemptFailed w job e ∈ fail.told ∧ job.task.retries = 0 ∧ job ∈ retriedJobs (heard later) ∧
      (∀ move ∈ earlier ++ fail :: later, InVirtualTime move) ∧
      Undelayed patient job.retried later ∧ fail.before.now + 100 < p.now ∧
      ∃ move ∈ later, job.retried ∈ requeuedJobs move.told ∧
        move.before.now = fail.before.now + 100 := by
  have ends : (trace? step? (new patient) twoTasks).any (fun early =>
      (early.2.step? newFailure).any fun failed => (trace? step? failed.1 twoDelays).any fun late =>
        (early.2.workers[0]?).map Worker.stage = some (.writing newJob none) ∧
          newJob ∈ retriedJobs (heard late.1) ∧
          (∀ move ∈ early.1 ++ ⟨early.2, newFailure, failed.1, failed.2⟩ :: late.1,
            InVirtualTime move) ∧
          (∀ move ∈ late.1, move.before.schedulerTold = false ∧
            move.before.queue.length < patient.room) ∧
          early.2.now + 100 < late.2.now) = true := by
    decide +kernel
  have delay : patient.retry.delayMillis 0 .one = 100 := by decide +kernel
  obtain ⟨⟨earlier, p⟩, traced, ends⟩ := (Option.any_eq_true _ _).mp ends
  obtain ⟨⟨q, told⟩, step, ends⟩ := (Option.any_eq_true _ _).mp ends
  obtain ⟨⟨later, r⟩, resumed, ends⟩ := (Option.any_eq_true _ _).mp ends
  obtain ⟨writes, scheduled, timed, free, past⟩ := of_decide_eq_true ends
  have trace := (Trace.of_trace? traced).trans ((Trace.of_trace? resumed).cons step)
  have undelayed : Undelayed patient newJob.retried later := by
    rintro early move late rfl _
    exact free move (by simp)
  have failed : .attemptFailed 0 newJob (.database "down") ∈ told := by
    rw [(step?_move step).attempt writes]
    exact List.mem_singleton_self _
  have punctual := (retries_punctual trace rfl failed scheduled .one).2 timed undelayed
  rw [show newJob.task.retries = 0 from rfl, delay] at punctual
  exact ⟨earlier, _, later, r, 0, newJob, _, trace, failed, rfl, scheduled, timed, undelayed, past,
    punctual past⟩

end CouponSale.Pool

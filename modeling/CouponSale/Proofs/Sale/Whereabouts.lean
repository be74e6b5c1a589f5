import CouponSale.Proofs.Sale.Grants

/-!
Where the task of a reservation is that has no row. A success has its task accepted or dropped, and
an accepted task is in the pool until it is settled, or stayed with a worker or a scheduler that was
cut off; a write that finds its row there is none of those without one. So the claim is still to be
answered, or the task was dropped, is in the pool, is lost, or became a dead letter.
-/
namespace CouponSale

namespace Pool

/-- The open jobs in the primary queue, and those of workers and of a scheduler that go on. -/
def keptJobs (p : Pool) : List Job :=
  p.queue ++ inHands (p.workers.filter (!·.cut)) ++
    if p.scheduler.cut = true then [] else p.retrySide.map Entry.job

/-- The open jobs that workers and a scheduler held when they were cut off. Nobody goes on with them;
at most a stop gives up what it finds in the table of jobs in flight. -/
def strandedJobs (p : Pool) : List Job :=
  inHands (p.workers.filter (·.cut)) ++
    if p.scheduler.cut = true then p.retrySide.map Entry.job else []

theorem mem_inHands_iff (workers : List Worker) {job : Job} :
    job ∈ inHands workers ↔
      job ∈ inHands (workers.filter (!·.cut)) ∨ job ∈ inHands (workers.filter (·.cut)) := by
  simp only [inHands, List.mem_filterMap, List.mem_filter]
  constructor
  · rintro ⟨worker, member, holds⟩
    cases cut : worker.cut
    · exact .inl ⟨worker, ⟨member, by simp [cut]⟩, holds⟩
    · exact .inr ⟨worker, ⟨member, cut⟩, holds⟩
  · rintro (⟨worker, ⟨member, _⟩, holds⟩ | ⟨worker, ⟨member, _⟩, holds⟩) <;>
      exact ⟨worker, member, holds⟩

/-- An open job is kept or stranded. -/
theorem mem_openJobs_iff {p : Pool} {job : Job} :
    job ∈ p.openJobs ↔ job ∈ p.keptJobs ∨ job ∈ p.strandedJobs := by
  simp only [openJobs, keptJobs, strandedJobs, List.mem_append, mem_inHands_iff p.workers]
  split <;> simp only [List.not_mem_nil, or_false] <;> tauto

end Pool

/-- A task that is submitted is accepted or dropped. -/
theorem Pool.submit_told (p : Pool) (task : Task) :
    (∃ job : Pool.Job, job.task = task ∧ .accepted job ∈ (p.submit task).2.2) ∨
      ∃ stopped, .dropped task stopped ∈ (p.submit task).2.2 := by
  unfold submit
  split
  · exact .inr ⟨true, List.mem_singleton_self _⟩
  · split
    · exact .inl ⟨_, rfl, List.mem_singleton_self _⟩
    · exact .inr ⟨false, List.mem_singleton_self _⟩

namespace Sale

/-- The users with a reservation for a coupon and no row. -/
def unwritten (s : Sale Memory) (coupon : CouponId) : List UserId :=
  (s.stores.counter.holders coupon).filter fun user => !s.stores.ledger.hasClaim user coupon

variable {s t : Sale Memory} {notes more : List Note} {label : Label} {coupon : CouponId}

theorem not_success_of_count {user : UserId} (none : notes.countP (·.success user coupon) = 0) :
    .decided user coupon .success ∉ notes := by
  intro member
  have counted := List.countP_eq_zero.mp none _ member
  simp [Note.success] at counted

/-- A success has its task accepted or dropped. -/
theorem Move.hands_over (move : Move s label t more) {user : UserId}
    (decided : .decided user coupon .success ∈ more) :
    (∃ job ∈ Pool.acceptedJobs more, job.isFor user coupon = true) ∨
      ∃ stopped, .dropped (.fresh user coupon) stopped ∈ more := by
  have absorbed : ∀ {part : Pool.Label} {moved : Pool.Moved} (u : Sale Memory),
      u.pool.step? part = some moved →
      .decided user coupon .success ∉ (u.absorb moved).2 :=
    fun u step => not_success_of_count (success_absorb u step user coupon)
  have answers : ∀ (call : Call) (answer : Answer Outcome),
      .decided user coupon .success ∉ answerNotes call answer :=
    fun call answer => not_success_of_count (success_answerNotes call answer user coupon)
  have reserves : ∀ (call : Call) (answer : Answer Reservation),
      .decided user coupon .success ∉ reserveNotes call answer :=
    fun call answer => not_success_of_count (success_reserveNotes call answer user coupon)
  cases move with
  | refuse => simp [answers] at decided
  | ask | wait | seed => simp [seedCoupon, Backend.seed] at decided
  | hear | expire => exact absurd decided (reserves _ _)
  | fail => exact absurd decided (answers _ _)
  | @decide call verdict found told =>
    have submits : s.pool.step? (.submit (.fresh call.user call.coupon)) =
      some (s.pool.submit (.fresh call.user call.coupon)).2 := rfl
    cases verdict with
    | claimed =>
      obtain ⟨rfl, rfl⟩ : user = call.user ∧ coupon = call.coupon := by
        simpa [follow, absorbed s submits, answers, Reservation.outcome] using decided
      have kept : ∀ note ∈ (s.pool.submit (.fresh call.user call.coupon)).2.2,
          note ∈ (s.follow call .claimed).2 ++ .decided call.user call.coupon .success
            :: answerNotes call (.ok .success) := by
        intro note member
        rw [← poolNotes_absorb s submits] at member
        exact List.mem_append_left _ (mem_poolNotes member)
      rcases s.pool.submit_told (.fresh call.user call.coupon) with ⟨job, same, told⟩ | ⟨stopped, told⟩
      · refine .inl ⟨job, List.mem_filterMap.mpr ⟨_, kept _ told, rfl⟩, ?_⟩
        simp [Pool.Job.isFor, same, Task.fresh]
      · exact .inr ⟨stopped, kept _ told⟩
    | outOfStock =>
      simp only [follow, flag, List.mem_append, List.mem_cons, answers] at decided
      split at decided <;> simp [Reservation.outcome] at decided
    | _ => simp [follow, answers, Reservation.outcome] at decided
  | beginWrite holds step =>
    exact absurd decided (absorbed { s with stores := Backend.beginWrite s.stores } step)
  | @endWrite _ _ job _ _ writes step =>
    exact absurd decided (absorbed { s with
      stores := (Backend.write s.stores job.task.user job.task.coupon).2 } step)
  | work apart step => exact absurd decided (absorbed s step)
  | manage same step => exact absurd decided (absorbed s step)
  | @create c now =>
    unfold openCoupon writeCoupon at decided
    cases valid : c.validate now <;> simp [valid, Backend.create] at decided
  | @reseed other =>
    simp only [Sale.reseed, Backend.find, Ledger.get] at decided
    cases found : s.stores.ledger.find? other <;> simp [found, Backend.seed] at decided

/-- A write that finds its row there already leaves it there. -/
theorem Move.finds_row (move : Move s label t more) {w : Nat} {job : Pool.Job}
    (found : .alreadyPersisted w job ∈ more) :
    s.stores.ledger.hasClaim job.task.user job.task.coupon = true := by
  have apart : ∀ {part : Pool.Label} {moved : Pool.Moved} (u : Sale Memory),
      u.pool.step? part = some moved → .alreadyPersisted w job ∈ (u.absorb moved).2 →
      .alreadyPersisted w job ∈ moved.2 := by
    intro part moved u step member
    rcases mem_absorb u step _ member with ⟨_, own⟩ | letter
    · exact own
    · cases letter
  have attempts : ∀ {part : Pool.Label} {moved : Pool.Moved} (u : Sale Memory),
      u.pool.step? part = some moved → (∀ w supply, part = .worker w supply →
        ∀ job due, u.stage? w ≠ some (.writing job due)) →
      .alreadyPersisted w job ∉ (u.absorb moved).2 := by
    intro part moved u step idle member
    have own := (Pool.step?_move (q := moved.1) step).no_attempt idle _ (apart u step member)
    cases own
  have silent : ∀ {notes : List Note}, poolNotes notes = [] → .alreadyPersisted w job ∉ notes := by
    intro notes none member
    have own : Note.alreadyPersisted w job ∈ poolNotes notes := List.mem_filter.mpr ⟨member, rfl⟩
    rw [none] at own
    cases own
  cases move with
  | refuse known =>
    exact absurd found (silent (by simp [poolNotes_cons, Note.ofPool, poolNotes_answerNotes]))
  | ask | wait | seed => exact absurd found (silent rfl)
  | hear | expire => exact absurd found (silent (poolNotes_reserveNotes _ _))
  | fail => exact absurd found (silent (poolNotes_answerNotes _ _))
  | @decide call verdict here told =>
    rcases List.mem_append.mp found with pools | answer
    · cases verdict with
      | claimed =>
        have submits : s.pool.step? (.submit (.fresh call.user call.coupon)) =
          some (s.pool.submit (.fresh call.user call.coupon)).2 := rfl
        exact absurd pools (attempts s submits (by simp))
      | outOfStock =>
        simp only [follow, flag] at pools
        split at pools <;> simp at pools
      | _ => simp [follow] at pools
    · exact absurd answer (silent (poolNotes_answerNotes _ _))
  | beginWrite holds step =>
    refine absurd found (attempts { s with stores := Backend.beginWrite s.stores } step ?_)
    rintro w supply ⟨⟩ job due writes
    exact absurd (holds.symm.trans writes) (by simp)
  | @endWrite w' draw written due moved writes step =>
    have told := apart { s with
      stores := (Backend.write s.stores written.task.user written.task.coupon).2 } step found
    rw [(Pool.step?_move (q := moved.1) step).attempt writes, List.mem_singleton] at told
    have answer : (s.stores.write written.task.user written.task.coupon).1 =
        .ok .alreadyThere ∧ job = written := by
      simp only [Pool.attemptNote, Backend.write] at told
      split at told <;> simp_all
    obtain ⟨answer, rfl⟩ := answer
    rcases s.stores.write_cases job.task.user job.task.coupon with ⟨failed, _⟩ | persists
    · rw [answer] at failed
      cases failed
    · generalize (s.stores.write job.task.user job.task.coupon).2.ledger = l at persists
      rw [answer] at persists
      cases persists with
      | alreadyThere held => exact held
  | work idle step =>
    refine absurd found (attempts s step ?_)
    rintro w supply ⟨⟩
    exact idle
  | @manage label part moved same step =>
    refine absurd found (attempts s step ?_)
    rintro w supply rfl
    cases label <;> simp [Label.pool?] at same
  | @create c now =>
    refine absurd found (silent ?_)
    unfold openCoupon writeCoupon
    cases c.validate now <;> rfl
  | @reseed other =>
    refine absurd found (silent ?_)
    simp only [Sale.reseed, Backend.find, Ledger.get]
    cases s.stores.ledger.find? other <;> rfl

end Sale

namespace MemorySale

open Pool (acceptedJobs acceptedJobs_append)

variable {config : Pool.Config} {reserveTimeout : Span} {sink : Sink} {s t : Sale Memory}
  {notes more : List Note} {label : Label} {coupon : CouponId}

theorem rows_stay (step : step? s label = some (t, more)) {user : UserId}
    (row : s.stores.ledger.hasClaim user coupon = true) :
    t.stores.ledger.hasClaim user coupon = true := by
  rw [Memory.hasClaim_rows] at row ⊢
  rw [leads_rows (.next step)]
  exact List.mem_append_right _ row

/-- What became of successes and of writes that found their rows there. -/
structure Handled (s : Sale Memory) (notes : List Note) : Prop where
  handed : ∀ user coupon, .decided user coupon .success ∈ notes →
    (∃ job ∈ acceptedJobs notes, job.isFor user coupon = true) ∨
      ∃ stopped, .dropped (.fresh user coupon) stopped ∈ notes
  found : ∀ w job, .alreadyPersisted w job ∈ notes →
    s.stores.ledger.hasClaim job.task.user job.task.coupon = true

theorem Reachable.handled (run : Reachable config reserveTimeout sink notes s) :
    Handled s notes := by
  refine run.keeps (P := Handled) ⟨by simp, by simp⟩ ?_
  intro s notes label t more ⟨handed, found⟩ step
  have news : (∀ user coupon, .decided user coupon .success ∈ more →
      (∃ job ∈ acceptedJobs more, job.isFor user coupon = true) ∨
        ∃ stopped, .dropped (.fresh user coupon) stopped ∈ more) ∧
      ∀ w job, .alreadyPersisted w job ∈ more →
        s.stores.ledger.hasClaim job.task.user job.task.coupon = true := by
    cases label with
    | move label =>
      have move := Sale.step?_move step
      exact ⟨fun user coupon => move.hands_over, fun w job => move.finds_row⟩
    | set setting =>
      cases step
      exact ⟨by simp, by simp⟩
  constructor
  · intro user coupon decided
    rw [acceptedJobs_append]
    have split := (List.mem_append.mp decided).imp (handed user coupon) (news.1 user coupon)
    rcases split with (⟨job, here, about⟩ | ⟨stopped, told⟩) | (⟨job, here, about⟩ | ⟨stopped, told⟩)
    · exact .inl ⟨job, List.mem_append_left _ here, about⟩
    · exact .inr ⟨stopped, List.mem_append_left _ told⟩
    · exact .inl ⟨job, List.mem_append_right _ here, about⟩
    · exact .inr ⟨stopped, List.mem_append_right _ told⟩
  · intro w job told
    refine rows_stay step ?_
    rcases List.mem_append.mp told with old | new
    · exact found w job old
    · exact news.2 w job new

/-- Where the task of a reservation without a row is: the claim is still to be answered, or its task
was dropped, is in the pool, stayed with somebody who was cut off and has not been given up, or
became a dead letter. -/
inductive Whereabouts (s : Sale Memory) (notes : List Note) (user : UserId) (coupon : CouponId) : Prop
  | answering {call : Call} (member : call ∈ s.calls) (granted : call.grants user coupon = true)
  | dropped {stopped : Bool} (told : .dropped (.fresh user coupon) stopped ∈ notes)
  | inPool {job : Pool.Job} (member : job ∈ s.pool.keptJobs) (about : job.isFor user coupon = true)
  | lost {job : Pool.Job} (member : job ∈ s.pool.strandedJobs)
      (about : job.isFor user coupon = true)
      (unburied : ∀ other reason lastError, .deadLettered other reason lastError ∈ notes →
        other.isFor user coupon = false)
  | buried {job : Pool.Job} {reason : GiveUp} {lastError : Option String}
      (told : .deadLettered job reason lastError ∈ notes) (about : job.isFor user coupon = true)

/-- Without a row and without a dead letter, no task of a reservation is settled. -/
theorem Reachable.unsettled (run : Reachable config reserveTimeout sink notes s) {user : UserId}
    (none : s.stores.ledger.hasClaim user coupon = false)
    (unburied : ∀ other reason lastError, .deadLettered other reason lastError ∈ notes →
      other.isFor user coupon = false) :
    (Pool.settledJobs notes).countP (·.isFor user coupon) = 0 := by
  apply List.countP_eq_zero.mpr
  intro job settled about
  obtain ⟨rfl, rfl⟩ : job.task.user = user ∧ job.task.coupon = coupon := by
    simpa [Pool.Job.isFor] using about
  obtain ⟨note, settling, settles⟩ := List.mem_filterMap.mp settled
  cases note with
  | persisted w written =>
    obtain rfl := Option.some.inj settles
    have row : written.claim ∈ s.stores.rows := by
      rw [leads_rows run, List.mem_append, List.mem_reverse]
      exact .inl (List.mem_map_of_mem (List.mem_filterMap.mpr ⟨_, settling, rfl⟩))
    rw [(Memory.hasClaim_rows _ _ _).mpr row] at none
    cases none
  | alreadyPersisted w written =>
    obtain rfl := Option.some.inj settles
    rw [run.handled.found w written settling] at none
    cases none
  | deadLettered buried reason lastError =>
    obtain rfl := Option.some.inj settles
    rw [unburied buried reason lastError settling] at about
    cases about
  | _ => cases settles

theorem Reachable.whereabouts (run : Reachable config reserveTimeout sink notes s) {user : UserId}
    (member : user ∈ s.unwritten coupon) : Whereabouts s notes user coupon := by
  obtain ⟨holds, none⟩ := List.mem_filter.mp member
  have none : s.stores.ledger.hasClaim user coupon = false := by simpa using none
  have accounted := run.granted.accounted user coupon
  have counted := List.count_pos_iff.mpr holds
  rcases Nat.eq_zero_or_pos (s.calls.countP (·.grants user coupon)) with answered | answering
  · obtain ⟨note, told, success⟩ := List.countP_pos_iff.mp
      (show 0 < notes.countP (·.success user coupon) by omega)
    obtain rfl : note = .decided user coupon .success := by
      unfold Note.success at success
      split at success <;> simp_all
    rcases run.handled.handed user coupon told with ⟨job, accepted, about⟩ | ⟨stopped, dropped⟩
    · have balanced := run.pool.balanced (Pool.isFor_stable user coupon)
      have there : 0 < (acceptedJobs notes).countP (·.isFor user coupon) :=
        List.countP_pos_iff.mpr ⟨job, accepted, about⟩
      rw [acceptedJobs_poolNotes, settledJobs_poolNotes] at balanced
      by_cases given : ∃ buried reason lastError, .deadLettered buried reason lastError ∈ notes ∧
          buried.isFor user coupon = true
      · obtain ⟨buried, reason, lastError, told, about⟩ := given
        exact .buried told about
      · have unsettled := run.unsettled none (by simpa using given)
        obtain ⟨job, member, about⟩ := List.countP_pos_iff.mp
          (show 0 < s.pool.openJobs.countP (·.isFor user coupon) by omega)
        rcases Pool.mem_openJobs_iff.mp member with kept | stranded
        · exact .inPool kept about
        · exact .lost stranded about (by simpa using given)
    · exact .dropped dropped
  · obtain ⟨call, member, granted⟩ := List.countP_pos_iff.mp answering
    exact .answering member granted

end MemorySale
end CouponSale

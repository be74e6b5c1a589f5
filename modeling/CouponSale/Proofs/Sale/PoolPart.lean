import CouponSale.Proofs.Pool.Attempts
import CouponSale.Proofs.Pool.Stop
import CouponSale.Proofs.Sale.Moves
import CouponSale.Store.MemorySale

/-!
The pool's part in a sale. Each move of a sale leaves the pool alone or is a move of the pool, and
what it reports beside the pool's notes are notes of another kind; so the pool of a sale is where a
run of the pool alone leads.
-/
namespace CouponSale

/-- Reported by a pool. -/
def Note.ofPool : Note → Bool
  | .accepted _ | .dropped _ _ | .workerStarted _ | .processing _ _ | .persisted _ _
  | .alreadyPersisted _ _ | .attemptFailed _ _ _ | .retryScheduled _ _ _ | .deadLettered _ _ _
  | .workerStopped _ | .schedulerStarted | .requeued _ | .schedulerStopped | .poolStarted _
  | .poolRunning | .poolStopping | .backgroundStopped _ | .backgroundCut _ | .cutWhileWriting _ _
  | .poolStopped _ => true
  | _ => false

/-- The notes of the pool among those of a sale. -/
def poolNotes (notes : List Note) : List Note := notes.filter Note.ofPool

@[simp] theorem poolNotes_nil : poolNotes [] = [] := rfl

@[simp] theorem poolNotes_append (earlier later : List Note) :
    poolNotes (earlier ++ later) = poolNotes earlier ++ poolNotes later := List.filter_append _ _

theorem poolNotes_cons (note : Note) (notes : List Note) :
    poolNotes (note :: notes) = if note.ofPool then note :: poolNotes notes else poolNotes notes :=
  List.filter_cons

/-- What is read off the notes of the pool alone can be read off all notes. -/
theorem filterMap_poolNotes {α : Type} {g : Note → Option α}
    (pools : ∀ note, note.ofPool = false → g note = none) (notes : List Note) :
    (poolNotes notes).filterMap g = notes.filterMap g := by
  induction notes with
  | nil => rfl
  | cons note notes ih =>
    rw [poolNotes_cons]
    cases own : note.ofPool with
    | true => simp only [if_true, List.filterMap_cons, ih]
    | false => simp [pools note own, ih]

theorem mem_poolNotes {note : Note} {notes : List Note} (member : note ∈ poolNotes notes) :
    note ∈ notes :=
  (List.mem_filter.mp member).1

open Pool (settledJobs acceptedJobs writtenJobs persistedJobs)

theorem settledJobs_poolNotes (notes : List Note) :
    settledJobs (poolNotes notes) = settledJobs notes := by
  apply filterMap_poolNotes
  intro note aside
  cases note <;> simp_all [Note.ofPool, Note.settled?]

theorem acceptedJobs_poolNotes (notes : List Note) :
    acceptedJobs (poolNotes notes) = acceptedJobs notes := by
  apply filterMap_poolNotes
  intro note aside
  cases note <;> simp_all [Note.ofPool, Note.accepted?]

theorem writtenJobs_poolNotes (notes : List Note) :
    writtenJobs (poolNotes notes) = writtenJobs notes := by
  apply filterMap_poolNotes
  intro note aside
  cases note <;> simp_all [Note.ofPool, Note.written?]

theorem persistedJobs_poolNotes (notes : List Note) :
    persistedJobs (poolNotes notes) = persistedJobs notes := by
  apply filterMap_poolNotes
  intro note aside
  cases note <;> simp_all [Note.ofPool, Note.persisted?]

namespace Pool

variable {p q : Pool} {notes : List Note}

theorem Move.ofPool {label : Label} (move : Move p label q notes) :
    poolNotes notes = notes := by
  cases move with
  | startAgain begun told => rcases told with rfl | rfl <;> rfl
  | worker crew place move => cases move <;> rfl
  | scheduler keeps move => cases move <;> rfl
  | stopper phase move =>
    cases move with
    | dismiss all =>
      apply List.filter_eq_self.mpr
      simp only [List.mem_flatMap, recovery, List.mem_cons, List.not_mem_nil, or_false]
      rintro note ⟨entry, _, rfl | rfl⟩ <;> rfl
    | close =>
      apply List.filter_eq_self.mpr
      simp only [List.mem_append, List.mem_map, List.mem_singleton]
      rintro note (⟨job, _, rfl⟩ | rfl) <;> rfl
    | _ => rfl
  | _ => rfl

end Pool

/-- Stores whose own notes are none of the pool's. -/
class Backend.Apart (σ : Type) [Backend σ] : Prop where
  seed : ∀ (stores : σ) (coupon : CouponId) (total : Int),
    poolNotes (Backend.seed stores coupon total).2.2 = []
  create : ∀ (stores : σ) (c : NewCoupon), poolNotes (Backend.create stores c).2.2 = []
  file : ∀ (stores : σ) (letter : DeadLetter), poolNotes (Backend.file stores letter).2.2 = []

instance : Backend.Apart Memory where
  seed _ _ _ := rfl
  create _ _ := rfl
  file stores letter := by
    simp only [Backend.file, Memory.file]
    split <;> rfl

namespace Sale

variable {σ : Type} [Backend σ] {s t : Sale σ} {notes : List Note}

theorem poolNotes_answerNotes (call : Call) (answer : Answer Outcome) :
    poolNotes (answerNotes call answer) = [] := by
  unfold answerNotes
  split <;> rfl

theorem poolNotes_reserveNotes (call : Call) (answer : Answer Reservation) :
    poolNotes (reserveNotes call answer) = [] := by
  cases answer <;> rfl

variable [Backend.Apart σ]

theorem poolNotes_fileLetters (stores : σ) (notes : List Note) :
    poolNotes (fileLetters stores notes).2 = poolNotes notes := by
  induction notes generalizing stores with
  | nil => rfl
  | cons note notes ih =>
    cases note with
    | deadLettered job reason lastError =>
      have own := Backend.Apart.file stores ⟨job.task, reason, lastError⟩
      simp only [fileLetters]
      cases answer : (Backend.file stores ⟨job.task, reason, lastError⟩).1 <;>
        simp [poolNotes_cons, own, Note.ofPool, ih]
    | _ => simp only [fileLetters, poolNotes_cons, ih]

theorem poolNotes_absorb {label : Pool.Label} {moved : Pool.Moved} (s : Sale σ)
    (step : s.pool.step? label = some moved) : poolNotes (s.absorb moved).2 = moved.2 := by
  have move : s.pool.Move label moved.1 moved.2 := Pool.step?_move step
  have own := move.ofPool
  exact (poolNotes_fileLetters s.stores moved.2).trans own

/-- To take up a move of the pool is that move for the pool. -/
theorem absorb_pool {label : Pool.Label} {moved : Pool.Moved} (s : Sale σ)
    (step : s.pool.step? label = some moved) :
    Leads Pool.step? s.pool (poolNotes (s.absorb moved).2) (s.absorb moved).1.pool := by
  rw [poolNotes_absorb s step]
  exact .next step

omit [Backend σ] [Backend.Apart σ] in
theorem leads_aside (same : t.pool = s.pool) (silent : poolNotes notes = []) :
    Leads Pool.step? s.pool (poolNotes notes) t.pool := by
  rw [same, silent]
  exact .refl _

theorem follow_pool (s : Sale σ) (call : Call) (verdict : Reservation) :
    Leads Pool.step? s.pool (poolNotes (s.follow call verdict).2) (s.follow call verdict).1.pool := by
  cases verdict with
  | claimed => exact @absorb_pool σ _ _ (.submit (.fresh call.user call.coupon)) _ s rfl
  | outOfStock =>
    refine leads_aside rfl ?_
    simp only [follow, flag]
    split <;> rfl
  | _ => exact leads_aside rfl rfl

/-- What a move of a sale does to the pool is a run of the pool. -/
theorem Move.pool {label : Label} (move : Move s label t notes) :
    Leads Pool.step? s.pool (poolNotes notes) t.pool := by
  cases move with
  | refuse known =>
    exact leads_aside rfl (by simp [poolNotes_cons, Note.ofPool, poolNotes_answerNotes])
  | ask asks new => exact leads_aside rfl rfl
  | hear found asks ripe => exact leads_aside rfl (poolNotes_reserveNotes _ _)
  | expire found asks late => exact leads_aside rfl (poolNotes_reserveNotes _ _)
  | fail found told => exact leads_aside rfl (poolNotes_answerNotes _ _)
  | @decide call verdict found told =>
    have silent : poolNotes (.decided call.user call.coupon verdict.outcome
        :: answerNotes call (.ok verdict.outcome)) = [] := poolNotes_answerNotes _ _
    rw [poolNotes_append, silent, List.append_nil]
    exact follow_pool s call verdict
  | beginWrite holds step =>
    exact absorb_pool { s with stores := Backend.beginWrite s.stores } step
  | @endWrite _ _ job _ _ writes step =>
    exact absorb_pool { s with
      stores := (Backend.write s.stores job.task.user job.task.coupon).2 } step
  | work apart step => exact absorb_pool s step
  | manage same step => exact absorb_pool s step
  | @create c now =>
    have own := Backend.Apart.create s.stores c
    unfold openCoupon writeCoupon
    cases c.validate now with
    | error e => exact leads_aside rfl rfl
    | ok =>
      generalize Backend.create s.stores c = made at own ⊢
      obtain ⟨_ | coupon, stores, more⟩ := made
      · exact leads_aside rfl own
      · exact leads_aside rfl own
  | @seed _ c found =>
    have own := Backend.Apart.seed s.stores c.id c.total
    unfold seedCoupon
    split <;> rename_i seeded <;> simp only [seeded] at own <;>
      exact leads_aside rfl (by simp [own, poolNotes_cons, Note.ofPool])
  | @reseed coupon =>
    unfold Sale.reseed
    split
    · exact leads_aside rfl rfl
    · rename_i c stores found
      have own := Backend.Apart.seed stores coupon c.stock
      split <;> rename_i seeded <;> rw [seeded] at own <;>
        exact leads_aside rfl (by simpa [poolNotes_cons, Note.ofPool] using own)
  | @wait ms => exact @Leads.next _ _ _ _ _ _ _ (.wait ms) rfl

theorem step?_pool {label : Label} (step : s.step? label = some (t, notes)) :
    Leads Pool.step? s.pool (poolNotes notes) t.pool :=
  (step?_move step).pool

end Sale

/-- The pool of a sale over stores in memory is where a run of the pool alone leads. -/
theorem MemorySale.leads_pool {s t : Sale Memory} {notes : List Note}
    (run : Leads MemorySale.step? s notes t) :
    Leads Pool.step? s.pool (poolNotes notes) t.pool := by
  refine run.part Sale.pool poolNotes poolNotes_nil poolNotes_append ?_
  intro s t label notes step
  cases label with
  | move label => exact Sale.step?_pool step
  | set setting =>
    cases step
    exact Sale.leads_aside rfl rfl

theorem MemorySale.Reachable.pool {config : Pool.Config} {reserveTimeout : Span} {sink : Sink}
    {s : Sale Memory} {notes : List Note} (run : Reachable config reserveTimeout sink notes s) :
    Pool.Reachable config (poolNotes notes) s.pool :=
  leads_pool run

end CouponSale

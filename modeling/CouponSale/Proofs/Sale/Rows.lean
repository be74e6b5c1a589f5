import CouponSale.Proofs.Sale.PoolPart
import CouponSale.Proofs.Store.Memory

/-!
The claim rows of a sale over stores in memory are the writes that its pool reports, in their
order. The letters kept are the dead letters reported, in theirs.
-/
namespace CouponSale

/-- The dead letter that a note tells of. -/
def Note.letter? : Note → Option DeadLetter
  | .deadLettered job reason lastError => some ⟨job.task, reason, lastError⟩
  | _ => none

/-- Whom and what a job is about. -/
def Pool.Job.claim (job : Pool.Job) : UserId × CouponId := (job.task.user, job.task.coupon)

/-- The dead letters that some notes tell of. -/
def lettersIn (notes : List Note) : List DeadLetter := notes.filterMap Note.letter?

/-- The letters kept after some notes, the latest first. -/
def Memory.lettersAfter (m : Memory) (notes : List Note) : List DeadLetter :=
  if m.sink = .recording then (lettersIn notes).reverse ++ m.letters else m.letters

open Pool (persistedJobs persistedJobs_append writtenJobs)

theorem countP_persisted (f : Pool.Job → Bool) (notes : List Note) :
    (persistedJobs notes).countP f ≤ (writtenJobs notes).countP f := by
  induction notes with
  | nil => exact Nat.le_refl _
  | cons note notes ih =>
    simp only [persistedJobs, writtenJobs] at ih ⊢
    cases note <;> simp [List.filterMap_cons, Note.persisted?, Note.written?, List.countP_cons] <;>
      omega

theorem lettersIn_poolNotes (notes : List Note) : lettersIn (poolNotes notes) = lettersIn notes := by
  apply filterMap_poolNotes
  intro note aside
  cases note <;> simp_all [Note.ofPool, Note.letter?]

theorem lettersIn_append (earlier later : List Note) :
    lettersIn (earlier ++ later) = lettersIn earlier ++ lettersIn later :=
  List.filterMap_append

/-- Of stores in memory, to file letters changes the letters that are kept, and nothing else. -/
theorem fileLetters_memory (m : Memory) (notes : List Note) :
    (Sale.fileLetters m notes).1 = { m with letters := m.lettersAfter notes } := by
  induction notes generalizing m with
  | nil => simp [Sale.fileLetters, Memory.lettersAfter, lettersIn]
  | cons note notes ih =>
    cases note with
    | deadLettered job reason lastError =>
      simp only [Sale.fileLetters, ih, Backend.file, Memory.file]
      cases sink : m.sink <;> simp [Memory.lettersAfter, lettersIn, sink, Note.letter?]
    | _ =>
      simp only [Sale.fileLetters, ih, Memory.lettersAfter, lettersIn, List.filterMap_cons,
        Note.letter?]

namespace Sale

variable {s t : Sale Memory} {notes : List Note}

@[simp] theorem absorb_counter (s : Sale Memory) (moved : Pool.Moved) :
    (s.absorb moved).1.stores.counter = s.stores.counter := by
  simp [absorb, fileLetters_memory]

@[simp] theorem absorb_ledger (s : Sale Memory) (moved : Pool.Moved) :
    (s.absorb moved).1.stores.ledger = s.stores.ledger := by
  simp [absorb, fileLetters_memory]

theorem persistedJobs_absorb {label : Pool.Label} {moved : Pool.Moved} (s : Sale Memory)
    (step : s.pool.step? label = some moved) :
    persistedJobs (s.absorb moved).2 = persistedJobs moved.2 := by
  rw [← persistedJobs_poolNotes, poolNotes_absorb s step]

end Sale

/-- A write adds its row just when it says so. -/
theorem Memory.write_rows (m : Memory) (w : Nat) (job : Pool.Job) :
    (m.write job.task.user job.task.coupon).2.rows =
      ((persistedJobs [Pool.attemptNote w job
        (m.write job.task.user job.task.coupon).1]).map Pool.Job.claim).reverse ++ m.rows := by
  simp only [Memory.rows]
  rcases m.write_cases job.task.user job.task.coupon with ⟨answer, same⟩ | persists
  · rw [answer, same]
    rfl
  · generalize (m.write job.task.user job.task.coupon).1 = answer,
      (m.write job.task.user job.task.coupon).2.ledger = l at persists ⊢
    cases persists <;> rfl

namespace Sale

variable {s t : Sale Memory} {notes : List Note}

/-- What happens without the pool and keeps the rows. -/
theorem rows_aside (same : t.stores.ledger.claims = s.stores.ledger.claims)
    (silent : poolNotes notes = []) :
    t.stores.rows = ((persistedJobs notes).map Pool.Job.claim).reverse ++ s.stores.rows := by
  rw [← persistedJobs_poolNotes, silent, Memory.rows, same]
  rfl

/-- What the pool does without an answer to a write, and keeps the rows. -/
theorem rows_absorb {label : Pool.Label} {moved : Pool.Moved} (u : Sale Memory)
    (same : u.stores.ledger = s.stores.ledger) (step : u.pool.step? label = some moved)
    (apart : ∀ w supply, label = .worker w supply →
      ∀ job due, u.stage? w ≠ some (.writing job due)) :
    (u.absorb moved).1.stores.rows =
      ((persistedJobs (u.absorb moved).2).map Pool.Job.claim).reverse ++ s.stores.rows := by
  rw [persistedJobs_absorb u step,
    Pool.persistedJobs_eq_nil ((Pool.step?_move (q := moved.1) step).no_attempt apart)]
  simp [Memory.rows, same]

theorem Move.rows {label : Label} (move : Move s label t notes) :
    t.stores.rows = ((persistedJobs notes).map Pool.Job.claim).reverse ++ s.stores.rows := by
  cases move with
  | refuse known =>
    exact rows_aside rfl (by simp [poolNotes_cons, Note.ofPool, poolNotes_answerNotes])
  | ask asks new => exact rows_aside rfl rfl
  | @hear call due expiry found asks ripe =>
    have frame := s.stores.reserve_frame call.coupon call.user
    exact rows_aside (congrArg _ frame.1) (poolNotes_reserveNotes _ _)
  | expire found asks late => exact rows_aside rfl (poolNotes_reserveNotes _ _)
  | fail found told => exact rows_aside rfl (poolNotes_answerNotes _ _)
  | @decide call verdict found told =>
    have later : persistedJobs (.decided call.user call.coupon verdict.outcome
        :: answerNotes call (.ok verdict.outcome)) = [] := by
      rw [← persistedJobs_poolNotes, poolNotes_cons, poolNotes_answerNotes]
      rfl
    rw [persistedJobs_append, later, List.append_nil]
    cases verdict with
    | claimed => exact @rows_absorb s (.submit (.fresh call.user call.coupon)) _ s rfl rfl (by simp)
    | outOfStock =>
      refine rows_aside (t := (s.follow call .outOfStock).1) rfl ?_
      simp only [follow, flag]
      split <;> rfl
    | _ => exact rows_aside rfl rfl
  | beginWrite holds step =>
    exact rows_absorb { s with stores := Backend.beginWrite s.stores } rfl step (by
      rintro w supply ⟨⟩ job due writes
      exact absurd (holds.symm.trans writes) (by simp))
  | @endWrite w draw job due moved writes step =>
    rw [persistedJobs_absorb { s with
      stores := (Backend.write s.stores job.task.user job.task.coupon).2 } step,
      (Pool.step?_move (q := moved.1) step).attempt writes]
    simp only [Memory.rows, absorb_ledger]
    exact Memory.write_rows s.stores w job
  | work apart step =>
    exact rows_absorb s rfl step (by
      rintro w supply ⟨⟩
      exact apart)
  | @manage label part _ same step =>
    exact rows_absorb s rfl step (by
      rintro w supply rfl
      cases label <;> simp [Label.pool?] at same)
  | @create c now =>
    unfold openCoupon writeCoupon
    cases c.validate now <;> exact rows_aside rfl rfl
  | seed found => exact rows_aside rfl rfl
  | @reseed coupon =>
    simp only [Sale.reseed, Backend.find, Ledger.get]
    cases s.stores.ledger.find? coupon <;> exact rows_aside rfl rfl
  | wait => exact rows_aside rfl rfl

end Sale

namespace Sale

variable {s t : Sale Memory} {notes : List Note}

/-- What happens without the pool and keeps the letters. -/
theorem letters_aside (kept : t.stores.letters = s.stores.letters) (same : t.stores.sink = s.stores.sink)
    (silent : poolNotes notes = []) :
    t.stores.letters = s.stores.lettersAfter notes ∧ t.stores.sink = s.stores.sink := by
  refine ⟨?_, same⟩
  rw [Memory.lettersAfter, ← lettersIn_poolNotes, silent, kept]
  simp [lettersIn]

theorem letters_absorb {moved : Pool.Moved} {more : List Note} (u : Sale Memory)
    (kept : u.stores.letters = s.stores.letters) (same : u.stores.sink = s.stores.sink)
    (silent : poolNotes more = []) :
    (u.absorb moved).1.stores.letters = s.stores.lettersAfter ((u.absorb moved).2 ++ more) ∧
      (u.absorb moved).1.stores.sink = s.stores.sink := by
  have filed := fileLetters_memory u.stores moved.2
  have told := poolNotes_fileLetters u.stores moved.2
  simp only [absorb, filed]
  refine ⟨?_, same⟩
  rw [Memory.lettersAfter, Memory.lettersAfter, kept, same, ← lettersIn_poolNotes (_ ++ _),
    poolNotes_append, silent, List.append_nil, told, lettersIn_poolNotes]

theorem Move.letters {label : Label} (move : Move s label t notes) :
    t.stores.letters = s.stores.lettersAfter notes ∧ t.stores.sink = s.stores.sink := by
  have plain : ∀ {moved : Pool.Moved} (u : Sale Memory), u.stores.letters = s.stores.letters →
      u.stores.sink = s.stores.sink →
      (u.absorb moved).1.stores.letters = s.stores.lettersAfter (u.absorb moved).2 ∧
        (u.absorb moved).1.stores.sink = s.stores.sink := by
    intro moved u kept same
    have absorbed := @letters_absorb _ moved [] u kept same rfl
    rwa [List.append_nil] at absorbed
  cases move with
  | refuse known =>
    exact letters_aside rfl rfl (by simp [poolNotes_cons, Note.ofPool, poolNotes_answerNotes])
  | ask asks new => exact letters_aside rfl rfl rfl
  | @hear call due expiry found asks ripe =>
    obtain ⟨_, letters, sink⟩ := s.stores.reserve_frame call.coupon call.user
    exact letters_aside letters sink (poolNotes_reserveNotes _ _)
  | expire found asks late => exact letters_aside rfl rfl (poolNotes_reserveNotes _ _)
  | fail found told => exact letters_aside rfl rfl (poolNotes_answerNotes _ _)
  | @decide call verdict found told =>
    have silent : poolNotes (.decided call.user call.coupon verdict.outcome
        :: answerNotes call (.ok verdict.outcome)) = [] := poolNotes_answerNotes _ _
    cases verdict with
    | claimed => exact letters_absorb s rfl rfl silent
    | outOfStock =>
      refine letters_aside rfl rfl ?_
      rw [poolNotes_append, silent, List.append_nil]
      simp only [follow, flag]
      split <;> rfl
    | _ => exact letters_aside rfl rfl (by rw [poolNotes_append, silent]; rfl)
  | beginWrite holds step => exact plain { s with stores := Backend.beginWrite s.stores } rfl rfl
  | @endWrite w draw job due moved writes step =>
    obtain ⟨_, letters, sink⟩ := s.stores.write_frame job.task.user job.task.coupon
    exact plain { s with
      stores := (Backend.write s.stores job.task.user job.task.coupon).2 } letters sink
  | work apart step => exact plain s rfl rfl
  | manage same step => exact plain s rfl rfl
  | @create c now =>
    unfold openCoupon writeCoupon
    cases c.validate now <;> exact letters_aside rfl rfl rfl
  | seed found => exact letters_aside rfl rfl rfl
  | @reseed coupon =>
    simp only [Sale.reseed, Backend.find, Ledger.get]
    cases s.stores.ledger.find? coupon <;> exact letters_aside rfl rfl rfl
  | wait => exact letters_aside rfl rfl rfl

end Sale

namespace MemorySale

variable {s t : Sale Memory} {notes : List Note}

/-- A run adds the rows that it reports as written, in their order. -/
theorem leads_rows (run : Leads step? s notes t) :
    t.stores.rows = ((persistedJobs notes).map Pool.Job.claim).reverse ++ s.stores.rows := by
  refine run.keeps (P := fun t notes =>
    t.stores.rows = ((persistedJobs notes).map Pool.Job.claim).reverse ++ s.stores.rows) rfl ?_
  intro t notes label u more kept step
  rw [persistedJobs_append, List.map_append, List.reverse_append, List.append_assoc, ← kept]
  cases label with
  | move label => exact (Sale.step?_move step).rows
  | set setting =>
    cases step
    cases setting <;> rfl

/-- A sink that keeps letters keeps those of a run. -/
theorem leads_letters (run : Leads step? s notes t) :
    t.stores.letters = s.stores.lettersAfter notes ∧ t.stores.sink = s.stores.sink := by
  refine run.keeps (P := fun t notes =>
    t.stores.letters = s.stores.lettersAfter notes ∧ t.stores.sink = s.stores.sink) ?_ ?_
  · exact Sale.letters_aside rfl rfl rfl
  · intro t notes label u more ⟨kept, same⟩ step
    have next : u.stores.letters = t.stores.lettersAfter more ∧ u.stores.sink = t.stores.sink := by
      cases label with
      | move label => exact (Sale.step?_move step).letters
      | set setting =>
        cases step
        cases setting <;> exact Sale.letters_aside rfl rfl rfl
    refine ⟨?_, next.2.trans same⟩
    rw [next.1, Memory.lettersAfter, Memory.lettersAfter, kept, same, lettersIn_append,
      Memory.lettersAfter]
    split <;> simp

end MemorySale
end CouponSale

import CouponSale.Proofs.Pool.Moves

/-!
Attempts to write. A pool reports an attempt just when a worker hears the store's answer, and what
it reports is that answer.
-/
namespace CouponSale

/-- Reports the answer of the store to an attempt to write. -/
def Note.attempt : Note → Bool
  | .persisted _ _ | .alreadyPersisted _ _ | .attemptFailed _ _ _ => true
  | _ => false

/-- The job that a note reports as newly written. -/
def Note.persisted? : Note → Option Pool.Job
  | .persisted _ job => some job
  | _ => none

namespace Pool

/-- The jobs that were newly written. -/
def persistedJobs (notes : List Note) : List Job := notes.filterMap Note.persisted?

/-- The report of an answer of the store. -/
def attemptNote (w : Nat) (job : Job) : Answer Persisted → Note
  | .ok .written => .persisted w job
  | .ok .alreadyThere => .alreadyPersisted w job
  | .error e => .attemptFailed w job e

variable {p q : Pool} {notes : List Note}

theorem persistedJobs_append (earlier later : List Note) :
    persistedJobs (earlier ++ later) = persistedJobs earlier ++ persistedJobs later :=
  List.filterMap_append

theorem persistedJobs_eq_nil (silent : ∀ note ∈ notes, note.attempt = false) :
    persistedJobs notes = [] := by
  apply List.filterMap_eq_nil_iff.mpr
  intro note member
  have aside := silent note member
  cases note <;> simp_all [Note.attempt, Note.persisted?]

theorem WorkerMove.attempts {w : Nat} {s : Supply} {draining : Bool} {stage : Stage}
    (move : WorkerMove p w s draining stage q notes) :
    (∃ job due, stage = .writing job due ∧ notes = [attemptNote w job s.result]) ∨
      (∀ job due, stage ≠ .writing job due) ∧ ∀ note ∈ notes, note.attempt = false := by
  cases move with
  | written ripe result => exact .inl ⟨_, _, rfl, by rw [result]; rfl⟩
  | alreadyThere ripe result => exact .inl ⟨_, _, rfl, by rw [result]; rfl⟩
  | attemptFailed ripe result => exact .inl ⟨_, _, rfl, by rw [result]; rfl⟩
  | _ => exact .inr ⟨by simp, by simp [Note.attempt]⟩

theorem Move.mover {w : Nat} {s : Supply} (move : Move p (.worker w s) q notes) :
    ∃ stage draining, (p.workers[w]?).map Worker.stage = some stage ∧
      WorkerMove p w s draining stage q notes := by
  cases move with
  | @worker _ _ stage draining _ _ before after crew place move =>
    exact ⟨stage, draining, by simp [crew, ← place], move⟩

/-- A worker that moves while it writes reports the store's answer. -/
theorem Move.attempt {w : Nat} {s : Supply} {job : Job} {due : Option Nat}
    (writes : (p.workers[w]?).map Worker.stage = some (.writing job due))
    (move : Move p (.worker w s) q notes) : notes = [attemptNote w job s.result] := by
  obtain ⟨stage, draining, here, move⟩ := move.mover
  rw [writes] at here
  cases here
  rcases move.attempts with ⟨_, _, same, told⟩ | ⟨apart, _⟩
  · cases same
    exact told
  · exact absurd rfl (apart job due)

theorem Move.no_attempt {label : Label}
    (apart : ∀ w s, label = .worker w s → ∀ job due,
      (p.workers[w]?).map Worker.stage ≠ some (.writing job due))
    (move : Move p label q notes) : ∀ note ∈ notes, note.attempt = false := by
  cases label with
  | worker w s =>
    obtain ⟨stage, draining, here, move⟩ := move.mover
    rcases move.attempts with ⟨job, due, rfl, _⟩ | ⟨_, silent⟩
    · exact absurd here (apart w s rfl job due)
    · exact silent
  | scheduler =>
    cases move with
    | scheduler keeps move => cases move <;> simp [Note.attempt]
  | stopper =>
    cases move with
    | stopper phase move =>
      cases move with
      | dismiss all =>
        simp only [List.mem_flatMap, recovery, List.mem_cons, List.not_mem_nil, or_false]
        rintro note ⟨entry, _, rfl | rfl⟩ <;> rfl
      | close =>
        simp only [List.mem_append, List.mem_map, List.mem_singleton]
        rintro note (⟨job, _, rfl⟩ | rfl) <;> rfl
      | _ => simp [Note.attempt]
  | start =>
    cases move with
    | start idle quiet => simp [Note.attempt]
    | startAgain begun told => rcases told with rfl | rfl <;> simp [Note.attempt]
  | _ => cases move <;> simp [Note.attempt]

end Pool
end CouponSale

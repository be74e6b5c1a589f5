import CouponSale.Proofs.Pool.Accounts

/-!
The counters of a pool follow from its notes, and the tickets of accepted jobs are the numbers
below the count of submissions, each once.
-/
namespace CouponSale.Pool

/-- The counters after a note. -/
def Stats.after (s : Stats) : Note → Stats
  | .accepted _ => { s with submitted := s.submitted + 1 }
  | .dropped _ _ => { s with dropped := s.dropped + 1 }
  | .persisted _ _ => { s with persisted := s.persisted + 1 }
  | .alreadyPersisted _ _ => { s with alreadyPersisted := s.alreadyPersisted + 1 }
  | .retryScheduled _ _ _ => { s with retried := s.retried + 1 }
  | .deadLettered _ _ _ => { s with deadLettered := s.deadLettered + 1 }
  | _ => s

variable {p q : Pool} {notes : List Note}

theorem foldl_recovery (s : Stats) (table : List (Nat × Job)) :
    (table.flatMap recovery).foldl Stats.after s =
      { s with deadLettered := s.deadLettered + table.length } := by
  induction table generalizing s with
  | nil => rfl
  | cons entry table ih =>
    simp [recovery, Stats.after, ih, Nat.add_assoc, Nat.add_comm 1]

theorem foldl_close (s : Stats) (jobs : List Job) :
    (jobs.map (Note.deadLettered · .shutdown none)).foldl Stats.after s =
      { s with deadLettered := s.deadLettered + jobs.length } := by
  induction jobs generalizing s with
  | nil => rfl
  | cons job jobs ih => simp [Stats.after, ih, Nat.add_assoc, Nat.add_comm 1]

theorem Move.stats {label : Label} (move : Move p label q notes) :
    q.stats = notes.foldl Stats.after p.stats := by
  cases move with
  | startAgain begun told => rcases told with rfl | rfl <;> rfl
  | worker crew place move => cases move <;> rfl
  | scheduler keeps move => cases move <;> rfl
  | stopper phase move =>
    cases move with
    | dismiss all => simp [foldl_recovery, bury]
    | close => simp [foldl_close, bury, Stats.after]
    | _ => rfl
  | _ => rfl

theorem Reachable.stats {config : Config} (run : Reachable config notes p) :
    p.stats = notes.foldl Stats.after .zero := by
  refine (run.keeps (P := fun p notes => p.stats = notes.foldl Stats.after .zero) rfl ?_).2
  intro p notes label q more _ kept move
  rw [move.stats, kept, List.foldl_append]

theorem foldl_submitted (s : Stats) (notes : List Note) :
    (notes.foldl Stats.after s).submitted = s.submitted + (acceptedJobs notes).length := by
  induction notes generalizing s with
  | nil => rfl
  | cons note notes ih =>
    rw [List.foldl_cons, ih]
    cases note <;> simp [Stats.after, acceptedJobs, Note.accepted?, List.filterMap_cons]
    omega

theorem foldl_settled (s : Stats) (notes : List Note) :
    (notes.foldl Stats.after s).settled = s.settled + (settledJobs notes).length := by
  induction notes generalizing s with
  | nil => rfl
  | cons note notes ih =>
    rw [List.foldl_cons, ih]
    cases note <;>
      simp [Stats.after, Stats.settled, settledJobs, Note.settled?, List.filterMap_cons] <;> omega

theorem Reachable.settled {config : Config} (run : Reachable config notes p) :
    p.stats.settled = (settledJobs notes).length := by
  rw [run.stats, foldl_settled]
  simp [Stats.zero, Stats.settled]

/-- Only a submission accepts a job, and gives it the next ticket. -/
theorem Move.accepted {label : Label} (move : Move p label q notes) :
    acceptedJobs notes = [] ∨
      ∃ task, label = .submit task ∧ acceptedJobs notes = [⟨p.stats.submitted, task⟩] := by
  cases move with
  | @accept task isOpen room => exact .inr ⟨task, rfl, rfl⟩
  | startAgain begun told => exact .inl (by rcases told with rfl | rfl <;> rfl)
  | worker crew place move => exact .inl (by cases move <;> rfl)
  | scheduler keeps move => exact .inl (by cases move <;> rfl)
  | stopper phase move =>
    cases move with
    | dismiss all => exact .inl (acceptedJobs_recovery _)
    | close => exact .inl (acceptedJobs_close _ _)
    | _ => exact .inl rfl
  | _ => exact .inl rfl

theorem Move.fresh {label : Label} (move : Move p label q notes) :
    ∀ job ∈ acceptedJobs notes, p.stats.submitted ≤ job.ticket := by
  intro job accepted
  rcases move.accepted with none | ⟨task, _, one⟩
  · simp [none] at accepted
  · rw [one, List.mem_singleton] at accepted
    simp [accepted]

/-- The accepted jobs have the tickets below the count of submissions, in order. -/
theorem Reachable.tickets {config : Config} (run : Reachable config notes p) :
    (acceptedJobs notes).map Job.ticket = List.range p.stats.submitted := by
  refine (run.keeps (P := fun p notes =>
    (acceptedJobs notes).map Job.ticket = List.range p.stats.submitted) rfl ?_).2
  intro p notes label q more _ kept move
  rw [acceptedJobs_append, List.map_append, kept, move.stats, foldl_submitted]
  rcases move.accepted with none | ⟨task, _, one⟩
  · simp [none]
  · simp [one, List.range_succ]

end CouponSale.Pool

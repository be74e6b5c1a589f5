import CouponSale.Proofs.Pool.Tickets
import Mathlib.Data.List.Induction

/-!
The table of jobs in flight. Until the scheduler is told, it holds for each worker the job whose
write has begun and whose entry is not yet cleared, and nothing else; so what a stop recovers from
it are the jobs that workers cut off had there.
-/
namespace CouponSale.Pool

/-- The job at a stage that stands in the table of jobs in flight. -/
def Stage.tabled? : Stage → Option Job
  | .writing job _ | .clearing job _ => some job
  | _ => none

/-- The jobs in the table that belong to some workers. -/
def tabled (workers : List Worker) : List Job := workers.filterMap (·.stage.tabled?)

/-- The jobs in the table under a worker's number. -/
def rows (table : List (Nat × Job)) (w : Nat) : List Job := (table.filter (·.1 = w)).map (·.2)

/-- The table stands for the stages of the workers, and is empty once the scheduler is told. -/
def Tabled (p : Pool) : Prop :=
  (p.schedulerTold = true → p.inFlight = []) ∧
    (p.schedulerTold = false →
      ∀ w, rows p.inFlight w = (p.workers[w]?.bind (·.stage.tabled?)).toList)

variable {p q : Pool} {notes : List Note}

theorem rows_cleared (table : List (Nat × Job)) (w n : Nat) :
    rows (table.filter (fun entry => !decide (entry.1 = w))) n = if n = w then [] else rows table n := by
  unfold rows
  rw [List.filter_filter]
  split
  · rename_i same
    subst same
    simp
  · rename_i other
    congr 1
    apply List.filter_congr
    rintro ⟨m, job⟩ _
    by_cases here : m = n <;> simp [here, other]

theorem rows_append (table more : List (Nat × Job)) (w : Nat) :
    rows (table ++ more) w = rows table w ++ rows more w := by
  simp [rows]

theorem rows_entry (w n : Nat) (job : Job) :
    rows [(w, job)] n = if n = w then [job] else [] := by
  by_cases here : n = w
  · simp [rows, here]
  · simp [rows, here, Ne.symm here]

/-- A move of a worker touches its own rows only, which go on standing for its stage. -/
theorem WorkerMove.rows_eq {w : Nat} {s : Supply} {draining : Bool} {stage : Stage}
    {before after : List Worker}
    (crew : p.workers = before ++ ⟨stage, draining, false⟩ :: after) (place : before.length = w)
    (move : WorkerMove p w s draining stage q notes)
    (table : rows p.inFlight w = stage.tabled?.toList) :
    rows q.inFlight w = (q.workers[w]?.bind (·.stage.tabled?)).toList ∧
      ∀ n ≠ w, rows q.inFlight n = rows p.inFlight n := by
  subst place
  cases move <;>
    simp_all [Pool.place, Pool.hearStop, Pool.leaveLine, Pool.take, Pool.beginWrite,
      Pool.endWrite, Pool.clear, Pool.giveUp, modify_append, Stage.tabled?, rows_cleared,
      rows_append, rows_entry]

theorem getElem?_other {before after : List Worker} {a b : Worker} {n : Nat}
    (other : n ≠ before.length) : (before ++ a :: after)[n]? = (before ++ b :: after)[n]? := by
  rcases Nat.lt_or_gt_of_ne other with below | above
  · rw [List.getElem?_append_left below, List.getElem?_append_left below]
  · rw [List.getElem?_append_right (by omega), List.getElem?_append_right (by omega)]
    obtain ⟨m, found⟩ : ∃ m, n - before.length = m + 1 := ⟨n - before.length - 1, by omega⟩
    simp [found]

theorem Tabled.worker {w : Nat} {s : Supply} {draining : Bool} {stage : Stage}
    {before after : List Worker} (phased : p.Phased) (tabled : p.Tabled)
    (crew : p.workers = before ++ ⟨stage, draining, false⟩ :: after) (place : before.length = w)
    (move : WorkerMove p w s draining stage q notes) : q.Tabled := by
  have untold := phased.untold crew move
  have frame := move.frame
  obtain ⟨stage', draining', crew'⟩ := move.crew crew place
  have table := tabled.2 untold
  refine ⟨fun told => by simp [frame.schedulerTold, untold] at told, fun _ n => ?_⟩
  obtain ⟨own, others⟩ := move.rows_eq crew place (by simp [table, crew, ← place])
  by_cases here : n = w
  · rw [here]
    exact own
  · rw [others n here, table, crew, crew', getElem?_other (by simpa [place] using here)]

theorem Tabled.move {label : Label} (phased : p.Phased) (tabled : p.Tabled)
    (move : Move p label q notes) : q.Tabled := by
  cases move with
  | start idle quiet =>
    obtain ⟨bare, _⟩ := phased.idle idle
    refine ⟨tabled.1, fun untold n => ?_⟩
    rw [tabled.2 untold, bare]
    simp only [List.getElem?_replicate]
    split <;> simp [Worker.new, Stage.tabled?]
  | worker crew place move => exact tabled.worker phased crew place move
  | scheduler keeps move =>
    have frame := move.frame
    rw [Tabled, frame.inFlight, frame.workers, frame.schedulerTold]
    exact tabled
  | stopper phase move =>
    cases move with
    | @cut w deadline worker here stays late =>
      refine ⟨tabled.1, fun untold n => ?_⟩
      rw [tabled.2 untold, List.getElem?_modify]
      cases p.workers[n]? with
      | none => rfl
      | some worker => by_cases same : w = n <;> simp [same]
    | dismiss all => exact ⟨fun _ => rfl, fun untold => by simp at untold⟩
    | _ => exact tabled
  | _ => exact tabled

/-- A table that stands for the stages of some workers holds just their jobs. -/
theorem perm_tabled (workers : List Worker) (table : List (Nat × Job))
    (stands : ∀ w, rows table w = (workers[w]?.bind (·.stage.tabled?)).toList) :
    (table.map (·.2)).Perm (tabled workers) := by
  induction workers using List.reverseRecOn generalizing table with
  | nil =>
    cases table with
    | nil => exact .nil
    | cons entry table =>
      have none := stands entry.1
      simp [rows] at none
  | append_singleton workers last ih =>
    -- The entries of the last worker stand apart from those of the others.
    have others := ih (table.filter (fun entry => !decide (entry.1 = workers.length))) (by
      intro w
      rw [rows_cleared, stands]
      rcases Nat.lt_trichotomy w workers.length with below | same | above
      · simp [Nat.ne_of_lt below, List.getElem?_append_left below]
      · simp [same]
      · simp [Nat.ne_of_gt above, Nat.not_lt_of_gt above,
          List.getElem?_eq_none_iff.mpr (show (workers ++ [last]).length ≤ w by simp; omega)])
    have own := stands workers.length
    simp only [rows, List.getElem?_concat_length, Option.bind_some] at own
    have parted := (List.filter_append_perm (fun entry => decide (entry.1 = workers.length))
      table).map (·.2)
    rw [List.map_append, own] at parted
    have whole : tabled (workers ++ [last]) = tabled workers ++ last.stage.tabled?.toList := by
      cases found : last.stage.tabled? <;> simp [tabled, found]
    rw [whole]
    exact parted.symm.trans (List.perm_append_comm.trans (others.append_right _))

/-- The only move that recovers jobs is the one that tells the scheduler, and it recovers the whole
table. -/
theorem Move.recovers {label : Label} (phased : p.Phased) (move : Move p label q notes) :
    (q.schedulerTold = p.schedulerTold ∧ recoveredJobs notes = [] ∧
        (p.schedulerTold = true → q.workers = p.workers)) ∨
      (p.schedulerTold = false ∧ q.schedulerTold = true ∧ q.workers = p.workers ∧
        notes = p.inFlight.flatMap recovery) := by
  cases move with
  | start idle quiet =>
    have untold := phased.quiet quiet (by simp [idle])
    exact .inl ⟨rfl, rfl, by simp [untold]⟩
  | startAgain begun told =>
    refine .inl ⟨rfl, ?_, fun _ => rfl⟩
    rcases told with rfl | rfl <;> rfl
  | worker crew place move =>
    refine .inl ⟨move.frame.schedulerTold, ?_, by simp [phased.untold crew move]⟩
    cases move <;> rfl
  | scheduler keeps move =>
    refine .inl ⟨move.frame.schedulerTold, ?_, fun _ => move.frame.workers⟩
    cases move <;> rfl
  | stopper phase move =>
    cases move with
    | cut here stays late => exact .inl ⟨rfl, rfl, by simp [(phased.behind _ _ phase).1]⟩
    | dismiss all => exact .inr ⟨(phased.behind _ _ phase).1, rfl, rfl, rfl⟩
    | close => exact .inl ⟨rfl, recoveredJobs_close _ _, fun _ => rfl⟩
    | _ => exact .inl ⟨rfl, rfl, fun _ => rfl⟩
  | _ => exact .inl ⟨rfl, rfl, fun _ => rfl⟩

/-- What was recovered is what the workers, once all are gone, had in the table. -/
theorem Reachable.recovered {config : Config} (run : Reachable config notes p) :
    p.Tabled ∧
      (recoveredJobs notes).Perm (if p.schedulerTold = true then tabled p.workers else []) := by
  refine (run.keeps (P := fun p notes => p.Tabled ∧
    (recoveredJobs notes).Perm (if p.schedulerTold = true then tabled p.workers else [])) ?_ ?_).2
  · exact ⟨⟨fun _ => rfl, fun _ w => by simp [new, rows]⟩, by simp [new, recoveredJobs]⟩
  · intro p notes label q more phased kept move
    obtain ⟨stands, recovered⟩ := kept
    refine ⟨stands.move phased move, ?_⟩
    rw [recoveredJobs_append]
    rcases move.recovers phased with ⟨same, nothing, workers⟩ | ⟨untold, told, workers, rfl⟩
    · rw [nothing, List.append_nil, same]
      by_cases told : p.schedulerTold = true
      · simpa [told, workers told] using recovered
      · simpa [told] using recovered
    · have before : recoveredJobs notes = [] := by simpa [untold] using recovered
      rw [before, List.nil_append, recoveredJobs_recovery, if_pos told, workers]
      exact perm_tabled p.workers p.inFlight (stands.2 untold)

theorem Reachable.unrecovered {config : Config} (run : Reachable config notes p)
    (uncut : ∀ worker ∈ p.workers, worker.cut = false) : recoveredJobs notes = [] := by
  have recovered := run.recovered.2
  by_cases told : p.schedulerTold = true
  · have nothing : tabled p.workers = [] := by
      apply List.filterMap_eq_nil_iff.mpr
      intro worker member
      have left : worker.stage = .left := by
        simpa [Worker.Gone, uncut worker member] using run.phased.gone told worker member
      simp [left, Stage.tabled?]
    simpa [told, nothing] using recovered
  · simpa [told] using recovered

end CouponSale.Pool

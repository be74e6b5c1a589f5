import CouponSale.Proofs.Pool.Tickets
import Mathlib.Algebra.GroupWithZero.Nat

/-!
How often a job is tried. Each job has chances: the attempts that may still be made on it, which are
one more than the retries it has left, and one fewer from the beginning of an attempt on. No move
makes a chance, so the attempts that a job can see are counted when it is accepted.
-/
namespace CouponSale

/-- The job on which a note reports an attempt as begun. -/
def Note.begun? : Note → Option Pool.Job
  | .processing _ job => some job
  | _ => none

namespace Pool

/-- The jobs on which attempts were begun, once for each attempt. -/
def begunJobs (notes : List Note) : List Job := notes.filterMap Note.begun?

theorem begunJobs_append (earlier later : List Note) :
    begunJobs (earlier ++ later) = begunJobs earlier ++ begunJobs later :=
  List.filterMap_append

/-- The attempts that may be made on a job that waits for one, if it is of a kind. -/
def Job.chances (most : Nat) (f : Job → Bool) (job : Job) : Nat :=
  if f job then most - job.task.retries + 1 else 0

/-- The attempts that may follow the present one. -/
def Job.spare (most : Nat) (f : Job → Bool) (job : Job) : Nat :=
  if f job then most - job.task.retries else 0

def Stage.chances (most : Nat) (f : Job → Bool) : Stage → Nat
  | .holding job => job.chances most f
  | .writing job _ | .clearing job (some _) | .failed job _ => job.spare most f
  | .slotted job _ => job.retried.chances most f
  | _ => 0

/-- The attempts that may still be made on the open jobs of a kind. -/
def chances (most : Nat) (f : Job → Bool) (p : Pool) : Nat :=
  (p.queue.map (Job.chances most f)).sum + (p.workers.map (·.stage.chances most f)).sum +
    (p.retrySide.map (·.job.chances most f)).sum

variable {p q : Pool} {notes : List Note} {most : Nat} {f : Job → Bool}

/-- A move makes no chance but those of the jobs it accepts, and an attempt takes one. -/
def Spends (most : Nat) (f : Job → Bool) (p q : Pool) (notes : List Note) : Prop :=
  q.chances most f + (begunJobs notes).countP f ≤
    p.chances most f + ((acceptedJobs notes).map (Job.chances most f)).sum

theorem spare_add_attempt (most : Nat) (f : Job → Bool) (job : Job) :
    job.spare most f + [job].countP f = job.chances most f := by
  unfold Job.spare Job.chances
  by_cases kind : f job = true <;> simp [kind]

theorem spare_of_more {job : Job} (stable : Stable f) (more : job.task.retries < most) :
    job.retried.chances most f = job.spare most f := by
  unfold Job.spare Job.chances
  rw [stable job]
  simp only [Job.retried]
  split <;> omega

theorem WorkerMove.spends {w : Nat} {s : Supply} {draining : Bool} {stage : Stage}
    {before after : List Worker} (stable : Stable f) (limit : p.config.retry.maxRetries = most)
    (crew : p.workers = before ++ ⟨stage, draining, false⟩ :: after) (place : before.length = w)
    (move : WorkerMove p w s draining stage q notes) : Spends most f p q notes := by
  subst place
  have granted := (watch_grantPlace p.scheduler).2
  cases move with
  | @beginWrite job =>
    have one := spare_add_attempt most f job
    simp_all [Spends, chances, retrySide, begunJobs, acceptedJobs, Note.begun?, Note.accepted?,
      Pool.place, Pool.beginWrite, modify_append, Stage.chances, List.filterMap_cons]
    omega
  | @slot job e more free =>
    have same := spare_of_more stable (limit ▸ more)
    simp_all [Spends, chances, retrySide, begunJobs, acceptedJobs, Pool.place, modify_append,
      Stage.chances]
  | _ =>
    simp_all [Spends, chances, retrySide, begunJobs, acceptedJobs, Note.begun?, Note.accepted?,
      Pool.place, Pool.hearStop, Pool.leaveLine, Pool.take, Pool.endWrite, Pool.clear,
      Pool.giveUp, modify_append, Stage.chances, List.filterMap_cons] <;>
    omega

theorem sum_parted (g : Entry → Nat) (waiting : List Entry) (now : Nat) :
    ((waiting.filter (·.readyAt ≤ now)).map g).sum + ((waiting.filter (now < ·.readyAt)).map g).sum =
      (waiting.map g).sum := by
  have later : waiting.filter (fun e => !decide (e.readyAt ≤ now)) =
      waiting.filter (now < ·.readyAt) :=
    List.filter_congr fun e _ => by rw [← decide_not]; exact decide_eq_decide.mpr Nat.not_le
  have parted := (List.filter_append_perm (·.readyAt ≤ now) waiting).map g
  rw [later] at parted
  simpa using parted.sum_nat

theorem SchedulerMove.spends {watch : Watch} {waiting : List Entry}
    (keeps : p.scheduler = ⟨watch, waiting, false⟩)
    (move : SchedulerMove p watch waiting q notes) : Spends most f p q notes := by
  cases move with
  | collect untold empty ready =>
    have parted := sum_parted (·.job.chances most f) waiting p.now
    rw [ready] at parted
    simp_all [Spends, chances, retrySide, begunJobs, acceptedJobs, Watch.due]
    omega
  | @handOver _ entry batch untold =>
    cases batch <;>
      simp_all [Spends, chances, retrySide, begunJobs, acceptedJobs, Note.begun?, Note.accepted?,
        Pool.handOver, Watch.due, List.filterMap_cons] <;>
      omega
  | _ =>
    simp_all [Spends, chances, retrySide, begunJobs, acceptedJobs, Note.begun?, Note.accepted?,
      Pool.schedulerHearStop, Pool.ask, Pool.giveUp, Watch.due, List.filterMap_cons] <;>
    omega

theorem begunJobs_recovery (table : List (Nat × Job)) :
    begunJobs (table.flatMap recovery) = [] := by
  induction table with
  | nil => rfl
  | cons entry table ih => simpa [begunJobs, recovery, Note.begun?] using ih

theorem begunJobs_close (jobs : List Job) (stats : Stats) :
    begunJobs (jobs.map (.deadLettered · .shutdown none) ++ [.poolStopped stats]) = [] := by
  simp [begunJobs, Note.begun?, List.filterMap_cons, Function.comp_def]

theorem chances_cut (workers : List Worker) (w : Nat) (g : Stage → Nat) :
    ((workers.modify w ({ · with cut := true })).map (g ·.stage)) = workers.map (g ·.stage) := by
  have same := filterMap_cut workers w (some ∘ g)
  simpa [List.filterMap_eq_map] using same

theorem StopperMove.spends {stopping : Stopping} (move : StopperMove p stopping q notes) :
    Spends most f p q notes := by
  cases move with
  | dismiss all =>
    simp [Spends, chances, retrySide, begunJobs_recovery, acceptedJobs_recovery, bury]
  | close =>
    simp only [Spends, begunJobs_close, acceptedJobs_close]
    simp [chances, retrySide, bury]
  | _ =>
    simp_all [Spends, chances, retrySide, begunJobs, acceptedJobs, chances_cut, Note.begun?,
      Note.accepted?, List.filterMap_cons]

theorem Move.spends {label : Label} (stable : Stable f)
    (limit : p.config.retry.maxRetries = most) (phased : p.Phased)
    (move : Move p label q notes) : Spends most f p q notes := by
  cases move with
  | start idle quiet =>
    obtain ⟨bare, absent⟩ := phased.idle idle
    simp [Spends, chances, retrySide, begunJobs, acceptedJobs, bare, absent, Watch.due,
      Note.begun?, Note.accepted?, List.filterMap_cons, Worker.new, Stage.chances]
  | startAgain begun told =>
    rcases told with rfl | rfl <;>
      simp [Spends, begunJobs, acceptedJobs, Note.begun?, Note.accepted?, List.filterMap_cons]
  | worker crew place move => exact move.spends stable limit crew place
  | scheduler keeps move => exact move.spends keeps
  | stopper phase move => exact move.spends
  | _ =>
    simp [Spends, chances, retrySide, begunJobs, acceptedJobs, Pool.drop, Note.begun?,
      Note.accepted?, List.filterMap_cons] <;>
    omega

/-- Over a whole run, the attempts made and the chances left are no more than the chances that the
accepted jobs came with. -/
theorem Reachable.spends {config : Config} (stable : Stable f) (run : Reachable config notes p) :
    p.chances config.retry.maxRetries f + (begunJobs notes).countP f ≤
      ((acceptedJobs notes).map (Job.chances config.retry.maxRetries f)).sum := by
  have spends := (run.keeps (P := fun p notes =>
    p.chances p.config.retry.maxRetries f + (begunJobs notes).countP f ≤
      ((acceptedJobs notes).map (Job.chances p.config.retry.maxRetries f)).sum) ?_ ?_).2
  · rwa [run.config] at spends
  · simp [chances, new, retrySide, Watch.due, begunJobs]
  · intro p notes label q more phased kept move
    have spends := move.spends stable rfl phased
    unfold Spends at spends
    rw [move.config, begunJobs_append, acceptedJobs_append, List.countP_append, List.map_append,
      List.sum_append]
    omega

/-- Among jobs with tickets of their own, one ticket brings no more chances than one job has. -/
theorem sum_chances_le {jobs : List Job} (most ticket : Nat) (apart : (jobs.map Job.ticket).Nodup) :
    (jobs.map (Job.chances most (fun job => job.ticket = ticket))).sum ≤ most + 1 := by
  induction jobs with
  | nil => simp
  | cons job jobs ih =>
    rw [List.map_cons, List.nodup_cons] at apart
    rw [List.map_cons, List.sum_cons]
    by_cases here : job.ticket = ticket
    · have none : ∀ other ∈ jobs, other.chances most (fun job => job.ticket = ticket) = 0 := by
        intro other member
        have differs : other.ticket ≠ ticket := by
          rintro rfl
          exact apart.1 (here ▸ List.mem_map_of_mem member)
        simp [Job.chances, differs]
      have rest : (jobs.map (Job.chances most (fun job => job.ticket = ticket))).sum = 0 := by
        rw [List.sum_eq_zero_iff_forall_eq_nat]
        intro n member
        obtain ⟨other, there, rfl⟩ := List.mem_map.mp member
        exact none other there
      rw [rest]
      simp [Job.chances, here]
    · have none : job.chances most (fun job => job.ticket = ticket) = 0 := by
        simp [Job.chances, here]
      rw [none, Nat.zero_add]
      exact ih apart.2

/-- No more attempts are made on a job than one and its retries. -/
theorem Reachable.attempts_le {config : Config} (run : Reachable config notes p) (ticket : Nat) :
    (begunJobs notes).countP (fun job => job.ticket = ticket) ≤ config.retry.maxRetries + 1 := by
  have spends := run.spends (ticket_stable ticket)
  have apart : ((acceptedJobs notes).map Job.ticket).Nodup := by
    rw [run.tickets]
    exact List.nodup_range
  have bound := sum_chances_le config.retry.maxRetries ticket apart
  omega

end Pool
end CouponSale

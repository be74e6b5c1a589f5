import CouponSale.Proofs.Pool.Phases

/-!
The accounts of a pool. A job is open from its acceptance until a note settles it, and is at one
place meanwhile. Jobs are counted by any property that a retry does not change, so one law
accounts for tickets, for claims and for sheer numbers. A job that was recovered from a worker cut
off in the middle of its write is settled beside the one that stays in the dead worker's hands;
that is the only excess.
-/
namespace CouponSale

/-- The job that a note settles. -/
def Note.settled? : Note → Option Pool.Job
  | .persisted _ job | .alreadyPersisted _ job | .deadLettered job _ _ => some job
  | _ => none

/-- The job that a note accepts. -/
def Note.accepted? : Note → Option Pool.Job
  | .accepted job => some job
  | _ => none

/-- The job that a note recovers from a worker that was cut off. -/
def Note.recovered? : Note → Option Pool.Job
  | .cutWhileWriting _ job => some job
  | _ => none

namespace Pool

def settledJobs (notes : List Note) : List Job := notes.filterMap Note.settled?

def acceptedJobs (notes : List Note) : List Job := notes.filterMap Note.accepted?

def recoveredJobs (notes : List Note) : List Job := notes.filterMap Note.recovered?

theorem settledJobs_append (earlier later : List Note) :
    settledJobs (earlier ++ later) = settledJobs earlier ++ settledJobs later :=
  List.filterMap_append

theorem acceptedJobs_append (earlier later : List Note) :
    acceptedJobs (earlier ++ later) = acceptedJobs earlier ++ acceptedJobs later :=
  List.filterMap_append

theorem recoveredJobs_append (earlier later : List Note) :
    recoveredJobs (earlier ++ later) = recoveredJobs earlier ++ recoveredJobs later :=
  List.filterMap_append

/-- The job at a stage that nothing has settled yet. -/
def Stage.open? : Stage → Option Job
  | .holding job | .writing job _ | .clearing job (some _) | .failed job _ | .slotted job _ =>
    some job
  | _ => none

/-- The open jobs in the hands of some workers, one hand after the other. -/
def inHands (workers : List Worker) : List Job := workers.filterMap (·.stage.open?)

/-- The entries on the retry side: in the retry queue, waiting at the scheduler, and in the batch
that it hands over. -/
def retrySide (p : Pool) : List Entry :=
  p.channel ++ p.scheduler.waiting ++ p.scheduler.watch.due

/-- The jobs that were accepted and not settled, place by place. -/
def openJobs (p : Pool) : List Job :=
  p.queue ++ inHands p.workers ++ p.retrySide.map Entry.job

/-- A property of jobs that a retry does not change. -/
def Stable (f : Job → Bool) : Prop := ∀ job : Job, f job.retried = f job

theorem ticket_stable (ticket : Nat) : Stable (fun job => job.ticket = ticket) := fun _ => rfl

/-- Is about a user and a coupon. -/
def Job.isFor (user : UserId) (coupon : CouponId) (job : Job) : Bool :=
  job.task.user = user ∧ job.task.coupon = coupon

theorem isFor_stable (user : UserId) (coupon : CouponId) : Stable (·.isFor user coupon) :=
  fun _ => rfl

theorem all_stable : Stable (fun _ => true) := fun _ => rfl

@[simp] theorem inHands_append (before after : List Worker) :
    inHands (before ++ after) = inHands before ++ inHands after :=
  List.filterMap_append

@[simp] theorem inHands_cons (worker : Worker) (workers : List Worker) :
    inHands (worker :: workers) = worker.stage.open?.toList ++ inHands workers := by
  cases held : worker.stage.open? <;> simp [inHands, held]

theorem inHands_new (n : Nat) : inHands (List.replicate n .new) = [] := by
  simp [inHands, Worker.new, Stage.open?]

theorem filterMap_cut {α : Type} (workers : List Worker) (w : Nat) (g : Stage → Option α) :
    (workers.modify w ({ · with cut := true })).filterMap (g ·.stage) =
      workers.filterMap (g ·.stage) := by
  induction workers generalizing w with
  | nil => simp
  | cons worker workers ih => cases w <;> simp [List.filterMap_cons, ih]

theorem inHands_cut (workers : List Worker) (w : Nat) :
    inHands (workers.modify w ({ · with cut := true })) = inHands workers :=
  filterMap_cut workers w Stage.open?

/-- Read by what each recovery reports once, a recovered table is the table. -/
theorem filterMap_recovery {read : Note → Option Job}
    (once : ∀ entry, (recovery entry).filterMap read = [entry.2]) (table : List (Nat × Job)) :
    (table.flatMap recovery).filterMap read = table.map (·.2) := by
  induction table with
  | nil => rfl
  | cons entry table ih =>
    rw [List.flatMap_cons, List.filterMap_append, once, ih]
    rfl

theorem settledJobs_recovery (table : List (Nat × Job)) :
    settledJobs (table.flatMap recovery) = table.map (·.2) :=
  filterMap_recovery (fun _ => rfl) table

theorem recoveredJobs_recovery (table : List (Nat × Job)) :
    recoveredJobs (table.flatMap recovery) = table.map (·.2) :=
  filterMap_recovery (fun _ => rfl) table

theorem acceptedJobs_recovery (table : List (Nat × Job)) :
    acceptedJobs (table.flatMap recovery) = [] := by
  induction table with
  | nil => rfl
  | cons entry table ih => simpa [acceptedJobs, recovery, Note.accepted?] using ih

variable {p q : Pool} {notes : List Note} {f : Job → Bool}

/-- A move neither makes nor loses a job: what was open and what it accepts is open or settled
after it, and what it recovers is settled on top. -/
def Balanced (f : Job → Bool) (p q : Pool) (notes : List Note) : Prop :=
  q.openJobs.countP f + (settledJobs notes).countP f =
    p.openJobs.countP f + (acceptedJobs notes).countP f + (recoveredJobs notes).countP f

theorem WorkerMove.balanced {w : Nat} {s : Supply} {draining : Bool} {stage : Stage}
    {before after : List Worker} (stable : Stable f)
    (crew : p.workers = before ++ ⟨stage, draining, false⟩ :: after) (place : before.length = w)
    (move : WorkerMove p w s draining stage q notes) : Balanced f p q notes := by
  subst place
  have granted := (watch_grantPlace p.scheduler).2
  cases move <;>
    simp_all [Balanced, openJobs, retrySide, settledJobs, acceptedJobs, recoveredJobs,
      Pool.place, Pool.hearStop, Pool.leaveLine, Pool.take, Pool.beginWrite, Pool.endWrite,
      Pool.clear, Pool.giveUp, modify_append, Note.settled?, Note.accepted?, Note.recovered?,
      Stage.open?, List.filterMap_cons, List.countP_cons, stable _] <;>
    omega

theorem SchedulerMove.balanced {watch : Watch} {waiting : List Entry}
    (keeps : p.scheduler = ⟨watch, waiting, false⟩)
    (move : SchedulerMove p watch waiting q notes) : Balanced f p q notes := by
  cases move with
  | collect untold empty ready =>
    -- The waiting entries are those that are ready and those that are not.
    have parted := List.countP_eq_countP_filter_add waiting (f ∘ Entry.job) (·.readyAt ≤ p.now)
    have later : waiting.filter (fun e => !decide (e.readyAt ≤ p.now)) =
        waiting.filter (p.now < ·.readyAt) :=
      List.filter_congr (fun e _ => by rw [← decide_not]; exact decide_eq_decide.mpr Nat.not_le)
    rw [later, ready, List.countP_cons] at parted
    simp_all [Balanced, openJobs, retrySide, settledJobs, acceptedJobs, recoveredJobs, Watch.due,
      List.countP_cons]
    omega
  | @handOver _ entry batch untold =>
    cases batch <;>
      simp_all [Balanced, openJobs, retrySide, settledJobs, acceptedJobs, recoveredJobs,
        Pool.handOver, Note.settled?, Note.accepted?, Note.recovered?, Watch.due,
        List.filterMap_cons, List.countP_cons] <;>
      omega
  | _ =>
    simp_all [Balanced, openJobs, retrySide, settledJobs, acceptedJobs, recoveredJobs,
      Pool.schedulerHearStop, Pool.ask, Pool.giveUp, Note.settled?, Note.accepted?,
      Note.recovered?, Watch.due, List.filterMap_cons, List.countP_cons] <;>
    omega

theorem settledJobs_close (jobs : List Job) (stats : Stats) :
    settledJobs (jobs.map (.deadLettered · .shutdown none) ++ [.poolStopped stats]) = jobs := by
  simp [settledJobs, Note.settled?, List.filterMap_cons, Function.comp_def]

theorem acceptedJobs_close (jobs : List Job) (stats : Stats) :
    acceptedJobs (jobs.map (.deadLettered · .shutdown none) ++ [.poolStopped stats]) = [] := by
  simp [acceptedJobs, Note.accepted?, List.filterMap_cons, Function.comp_def]

theorem recoveredJobs_close (jobs : List Job) (stats : Stats) :
    recoveredJobs (jobs.map (.deadLettered · .shutdown none) ++ [.poolStopped stats]) = [] := by
  simp [recoveredJobs, Note.recovered?, List.filterMap_cons, Function.comp_def]

theorem StopperMove.balanced {stopping : Stopping} (move : StopperMove p stopping q notes) :
    Balanced f p q notes := by
  cases move with
  | dismiss all =>
    simp [Balanced, openJobs, retrySide, settledJobs_recovery, acceptedJobs_recovery,
      recoveredJobs_recovery, bury]
  | close =>
    simp only [Balanced, settledJobs_close, acceptedJobs_close, recoveredJobs_close]
    simp [openJobs, retrySide, bury]
    omega
  | _ =>
    simp_all [Balanced, openJobs, retrySide, settledJobs, acceptedJobs, recoveredJobs, inHands_cut,
      Note.settled?, Note.accepted?, Note.recovered?, List.filterMap_cons]

theorem Move.balanced {label : Label} (stable : Stable f) (phased : p.Phased)
    (move : Move p label q notes) : Balanced f p q notes := by
  cases move with
  | start idle quiet =>
    obtain ⟨bare, absent⟩ := phased.idle idle
    simp [Balanced, openJobs, retrySide, settledJobs, acceptedJobs, recoveredJobs, inHands_new,
      bare, absent, Watch.due, Note.settled?, Note.accepted?, Note.recovered?,
      List.filterMap_cons]
    simp [inHands]
  | startAgain begun told =>
    rcases told with rfl | rfl <;>
      simp [Balanced, settledJobs, acceptedJobs, recoveredJobs, Note.settled?, Note.accepted?,
        Note.recovered?, List.filterMap_cons]
  | worker crew place move => exact move.balanced stable crew place
  | scheduler keeps move => exact move.balanced keeps
  | stopper phase move => exact move.balanced
  | _ =>
    simp [Balanced, openJobs, retrySide, settledJobs, acceptedJobs, recoveredJobs, Pool.drop,
      Note.settled?, Note.accepted?, Note.recovered?, List.filterMap_cons, List.countP_cons] <;>
    omega

/-- The law of accounts for a whole run: what was accepted is open or settled, and what was
recovered is settled on top. -/
theorem Reachable.balanced {config : Config} (stable : Stable f)
    (run : Reachable config notes p) :
    p.openJobs.countP f + (settledJobs notes).countP f =
      (acceptedJobs notes).countP f + (recoveredJobs notes).countP f := by
  refine (run.keeps (P := fun p notes => p.openJobs.countP f + (settledJobs notes).countP f =
    (acceptedJobs notes).countP f + (recoveredJobs notes).countP f) ?_ ?_).2
  · simp [new, openJobs, retrySide, inHands, Watch.due, settledJobs, acceptedJobs, recoveredJobs]
  · intro p notes label q more phased kept move
    have balanced := move.balanced stable phased
    simp only [Balanced] at balanced
    simp only [settledJobs_append, acceptedJobs_append, recoveredJobs_append, List.countP_append]
    omega

end Pool
end CouponSale

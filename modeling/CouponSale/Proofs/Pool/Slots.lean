import CouponSale.Proofs.Pool.Chances

/-!
Retry slots. A slot belongs to a worker that has a failed job to hand over, or to an entry on the
retry side; so the count of slots is exact, no more are taken than there are, and a worker that
holds one never finds the retry queue full. Until the scheduler is told to stop, the worker finds
the queue open as well.
-/
namespace CouponSale.Pool

/-- The job at a stage that holds a retry slot. -/
def Stage.slot? : Stage → Option Job
  | .slotted job _ => some job
  | _ => none

/-- The jobs in the hands of some workers that hold retry slots. -/
def slotted (workers : List Worker) : List Job := workers.filterMap (·.stage.slot?)

@[simp] theorem slotted_append (before after : List Worker) :
    slotted (before ++ after) = slotted before ++ slotted after :=
  List.filterMap_append

@[simp] theorem slotted_cons (worker : Worker) (workers : List Worker) :
    slotted (worker :: workers) = worker.stage.slot?.toList ++ slotted workers := by
  cases held : worker.stage.slot? <;> simp [slotted, held]

/-- What holds of the slots of a pool. -/
structure Slots (p : Pool) : Prop where
  counted : p.slots = p.retrySide.length + (slotted p.workers).length
  within : p.slots ≤ p.config.retryRoom
  opened : p.schedulerTold = false → p.channelOpen = true

variable {p q : Pool} {notes : List Note}

theorem new_slots (config : Config) : (new config).Slots := by
  constructor <;> simp [new, retrySide, slotted, Watch.due]

theorem WorkerMove.slots {w : Nat} {s : Supply} {draining : Bool} {stage : Stage}
    {before after : List Worker} (slots : p.Slots)
    (crew : p.workers = before ++ ⟨stage, draining, false⟩ :: after) (place : before.length = w)
    (move : WorkerMove p w s draining stage q notes) : q.Slots := by
  subst place
  have frame := move.frame
  have granted := (watch_grantPlace p.scheduler).2
  obtain ⟨counted, within, opened⟩ := slots
  refine ⟨?_, ?_, by rw [frame.schedulerTold, frame.channelOpen]; exact opened⟩
  all_goals
    cases move <;>
      simp_all [retrySide, Pool.place, Pool.hearStop, Pool.leaveLine, Pool.take, Pool.beginWrite,
        Pool.endWrite, Pool.clear, Pool.giveUp, modify_append, Stage.slot?] <;>
      omega

theorem SchedulerMove.slots {watch : Watch} {waiting : List Entry} (slots : p.Slots)
    (keeps : p.scheduler = ⟨watch, waiting, false⟩)
    (move : SchedulerMove p watch waiting q notes) : q.Slots := by
  obtain ⟨counted, within, opened⟩ := slots
  have parted : (waiting.filter (·.readyAt ≤ p.now)).length +
      (waiting.filter (p.now < ·.readyAt)).length = waiting.length := by
    simpa [List.map_const', List.sum_replicate_nat] using sum_parted (fun _ => 1) waiting p.now
  cases move with
  | @handOver _ entry batch untold =>
    constructor <;>
      cases batch <;> simp_all [retrySide, Pool.handOver, Watch.due] <;> omega
  | _ =>
    constructor <;>
      simp_all [retrySide, Pool.schedulerHearStop, Pool.ask, Pool.giveUp, Watch.due] <;> omega

theorem slotted_cut (workers : List Worker) (w : Nat) :
    slotted (workers.modify w ({ · with cut := true })) = slotted workers :=
  filterMap_cut workers w Stage.slot?

theorem StopperMove.slots {stopping : Stopping} (phased : p.Phased) (slots : p.Slots)
    (phase : p.stopping = stopping) (move : StopperMove p stopping q notes) : q.Slots := by
  obtain ⟨counted, within, opened⟩ := slots
  cases move with
  | cut here stays late =>
    refine ⟨?_, within, opened⟩
    rw [slotted_cut]
    exact counted
  | dismiss all => exact ⟨counted, within, by simp⟩
  | cutScheduler started stays late =>
    have told := phased.told (.inl ⟨_, phase⟩)
    exact ⟨counted, within, by simp [told]⟩
  | close =>
    have told := phased.told (.inr (.inl phase))
    exact ⟨counted, within, by simp [told, bury]⟩
  | _ => exact ⟨counted, within, opened⟩

theorem Move.slots {label : Label} (phased : p.Phased) (slots : p.Slots)
    (move : Move p label q notes) : q.Slots := by
  cases move with
  | start idle quiet =>
    obtain ⟨counted, within, opened⟩ := slots
    obtain ⟨bare, absent⟩ := phased.idle idle
    refine ⟨?_, within, opened⟩
    simpa [retrySide, bare, absent, Watch.due, slotted, Worker.new, Stage.slot?] using counted
  | worker crew place move => exact move.slots slots crew place
  | scheduler keeps move => exact move.slots slots keeps
  | stopper phase move => exact move.slots phased slots phase
  | _ => exact ⟨slots.counted, slots.within, slots.opened⟩

theorem Reachable.slots {config : Config} (run : Reachable config notes p) : p.Slots :=
  (run.keeps (P := fun p _ => p.Slots) (new_slots config)
    fun phased slots move => move.slots phased slots).2

/-- A worker that holds a slot finds the retry queue open and with room, while it may still move. -/
theorem Slots.room {draining cut : Bool} {job : Job} {e : Failure} {before after : List Worker}
    (slots : p.Slots) (untold : p.schedulerTold = false)
    (crew : p.workers = before ++ ⟨.slotted job e, draining, cut⟩ :: after) :
    p.channelOpen = true ∧ p.channel.length < p.config.retryRoom := by
  obtain ⟨counted, within, opened⟩ := slots
  refine ⟨opened untold, ?_⟩
  simp only [retrySide, crew, slotted_append, slotted_cons, Stage.slot?, Option.toList_some,
    List.length_append, List.length_singleton] at counted
  omega

end CouponSale.Pool

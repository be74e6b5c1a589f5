import CouponSale.Proofs.Pool.Lifecycle
import CouponSale.Proofs.Pool.Slots
import CouponSale.Proofs.Pool.Stop

/-!
Bounds of a pool. The primary queue, with the place that the scheduler may hold in it, never
outgrows its capacity; each worker writes one job at a time; each retry slot belongs to one failed
job. So a pool never has more open jobs than all its places together. A worker that holds a slot
always finds room in the retry queue, and every slot that is given back was taken before.
-/
namespace CouponSale

/-- Takes a job from the retry side, when the scheduler reports it. -/
def Note.releases : Note → Bool
  | .requeued _ | .deadLettered _ _ _ => true
  | _ => false

namespace Pool

/-- Has put a write to the store, whose answer is still to come. -/
def Stage.writes : Stage → Bool
  | .writing _ _ => true
  | _ => false

/-- The writes that workers have put to the store and that are still to be answered. -/
def writers (p : Pool) : Nat := p.workers.countP (·.stage.writes)

/-- The retry slots that a move gives back: the scheduler does so for each job that it hands over
or gives up. -/
def released : Label → List Note → Nat
  | .scheduler, notes => notes.countP Note.releases
  | _, _ => 0

variable {config : Config} {p q : Pool} {notes : List Note} {label : Label}

theorem hasRoom_iff : p.hasRoom = true ↔ p.queued < p.config.room := by
  simp [hasRoom]

theorem reserved_le_one (p : Pool) : p.reserved ≤ 1 := by
  unfold reserved
  split
  · split <;> omega
  · omega

/-- Without a place granted the scheduler holds none. -/
theorem reserved_eq_zero
    (none : ∀ entry batch, p.scheduler.watch ≠ .handing entry batch .granted) :
    p.reserved = 0 := by
  unfold reserved
  split
  · rename_i entry batch held
    exact absurd held (none entry batch)
  · rfl

theorem WorkerMove.queued {w : Nat} {s : Supply} {draining : Bool} {stage : Stage}
    (move : WorkerMove p w s draining stage q notes) : q.queued ≤ p.queued := by
  cases move with
  | @take job rest next first =>
    -- The place of the job taken is free, or goes to the scheduler.
    have one := reserved_le_one (p.take w job rest)
    have taken : (p.take w job rest).queue = rest := rfl
    simp only [Pool.queued, taken, next, List.length_cons]
    omega
  | _ => exact Nat.le_refl _

theorem SchedulerMove.queued {watch : Watch} {waiting : List Entry}
    (keeps : p.scheduler = ⟨watch, waiting, false⟩) (within : p.queued ≤ p.config.room)
    (move : SchedulerMove p watch waiting q notes) : q.queued ≤ p.config.room := by
  have fewer : p.queue.length ≤ p.config.room := Nat.le_trans (Nat.le_add_right _ _) within
  cases move with
  | @ask _ entry batch untold =>
    have none : p.reserved = 0 := reserved_eq_zero (by simp [keeps])
    have one := reserved_le_one (p.ask entry batch)
    by_cases room : p.hasRoom = true
    · have free := hasRoom_iff.mp room
      simp only [Pool.queued, none, Nat.add_zero] at free ⊢
      exact Nat.le_trans (Nat.add_le_add_left one _) free
    · have waits : (p.ask entry batch).reserved = 0 := reserved_eq_zero (by simp [Pool.ask, room])
      rw [Pool.queued, waits]
      exact fewer
  | @handOver _ entry batch untold =>
    have held : p.reserved = 1 := by simp [reserved, keeps]
    have given : (p.handOver entry batch).1.reserved = 0 := by
      apply reserved_eq_zero
      cases batch <;> simp [Pool.handOver]
    have longer : (p.handOver entry batch).1.queue.length = p.queue.length + 1 := by
      simp [Pool.handOver]
    simp only [Pool.queued, held, given, longer] at within ⊢
    exact within
  | _ =>
    rw [Pool.queued, reserved_eq_zero (by simp [Pool.schedulerHearStop, Pool.giveUp])]
    exact fewer

theorem StopperMove.queued {stopping : Stopping} (move : StopperMove p stopping q notes) :
    q.queued ≤ p.queued := by
  cases move with
  | cutScheduler started stays late =>
    apply Nat.add_le_add_left
    simp only [reserved]
    split <;> simp
  | close => exact Nat.add_le_add_right (Nat.zero_le _) _
  | _ => exact Nat.le_refl _

/-- No move outgrows the primary queue. -/
theorem Move.queued (within : p.queued ≤ p.config.room) (move : Move p label q notes) :
    q.queued ≤ q.config.room := by
  rw [move.config]
  cases move with
  | accept isOpen room =>
    have free := hasRoom_iff.mp room
    simp only [Pool.queued, List.length_append, List.length_singleton] at free ⊢
    calc p.queue.length + 1 + p.reserved
        = p.queue.length + p.reserved + 1 := Nat.add_right_comm _ _ _
      _ ≤ p.config.room := free
  | start idle quiet =>
    have fewer : p.queue.length ≤ p.config.room := Nat.le_trans (Nat.le_add_right _ _) within
    rw [Pool.queued, reserved_eq_zero (by simp)]
    exact fewer
  | worker crew place move => exact Nat.le_trans move.queued within
  | scheduler keeps move => exact move.queued keeps within
  | stopper phase move => exact Nat.le_trans move.queued within
  | _ => exact within

theorem Reachable.queued (run : Reachable config notes p) : p.queued ≤ p.config.room := by
  refine (run.keeps (P := fun p _ => p.queued ≤ p.config.room) (Nat.zero_le _) ?_).2
  intro p notes label q more _ within move
  exact move.queued within

theorem WorkerMove.released {w : Nat} {s : Supply} {draining : Bool} {stage : Stage}
    {before after : List Worker} (slots : p.Slots) (untold : p.schedulerTold = false)
    (crew : p.workers = before ++ ⟨stage, draining, false⟩ :: after)
    (move : WorkerMove p w s draining stage q notes) :
    q.slots = p.slots ∨ q.slots = p.slots + 1 := by
  cases move with
  | slot more free => exact .inr rfl
  | refused closed =>
    have room := slots.room untold crew
    simp [closed] at room
  | overflow isOpen full =>
    have room := slots.room untold crew
    exact absurd room.2 (Nat.not_lt.mpr full)
  | _ => exact .inl rfl

theorem SchedulerMove.released {watch : Watch} {waiting : List Entry} (slots : p.Slots)
    (keeps : p.scheduler = ⟨watch, waiting, false⟩)
    (move : SchedulerMove p watch waiting q notes) :
    q.slots + notes.countP Note.releases = p.slots := by
  have counted := slots.counted
  cases move with
  | @handOver _ entry batch untold =>
    have taken : 0 < p.slots := by
      simp only [retrySide, keeps, Watch.due, List.length_append, List.length_cons] at counted
      omega
    exact Nat.sub_add_cancel taken
  | @giveUp entry rest =>
    have taken : 0 < p.slots := by
      simp only [retrySide, keeps, List.length_append, List.length_cons] at counted
      omega
    exact Nat.sub_add_cancel taken
  | _ => rfl

/-- A slot that is given back was taken before: the count goes down by what is released, or a
worker takes a slot. -/
theorem Move.released (phased : p.Phased) (slots : p.Slots) (move : Move p label q notes) :
    q.slots + released label notes = p.slots ∨
      (∃ w s, label = .worker w s) ∧ q.slots = p.slots + 1 := by
  cases move with
  | @worker w s stage draining _ _ before after crew place move =>
    rcases move.released slots (phased.untold crew move) crew with same | more
    · exact .inl same
    · exact .inr ⟨⟨w, s, rfl⟩, more⟩
  | scheduler keeps move => exact .inl (move.released slots keeps)
  | stopper phase move => cases move <;> exact .inl rfl
  | _ => exact .inl rfl

/-- A worker with a slot that was not cut off puts its job into the retry queue, whatever it is
given. -/
theorem Slots.schedules {w : Nat} {job : Job} {e : Failure} {draining : Bool} (phased : p.Phased)
    (slots : p.Slots) (here : p.workers[w]? = some ⟨.slotted job e, draining, false⟩)
    (s : Supply) :
    ∃ q, p.workerStep? w s =
      some (q, [.retryScheduled job e (p.config.retry.delayMillis job.task.retries s.draw)]) := by
  have moves : p.workerStep? w s = some (p.scheduleRetry w job e s.draw) := by
    simp [workerStep?, here, moveWorker?]
  cases workerStep?_move moves with
  | @worker _ _ stage draining' _ _ before after crew place move =>
    have same : some (⟨.slotted job e, draining, false⟩ : Worker) =
        some ⟨stage, draining', false⟩ := by
      rw [← here, crew, ← place]
      simp
    obtain ⟨rfl, rfl⟩ : .slotted job e = stage ∧ draining = draining' := by simpa using same
    obtain ⟨isOpen, room⟩ := slots.room (phased.untold crew move) crew
    rw [moves]
    simp [scheduleRetry, Pool.place, isOpen, room]

theorem submit_full_iff (within : p.queued ≤ p.config.room) (task : Task) :
    (p.submit task).1 = .error .queueFull ↔ p.closed = false ∧ p.queued = p.config.room := by
  cases shut : p.closed with
  | true => simp [submit, shut]
  | false =>
    by_cases room : p.hasRoom = true
    · have free := hasRoom_iff.mp room
      simp [submit, shut, room, Nat.ne_of_lt free]
    · have full : p.config.room ≤ p.queued :=
        Nat.le_of_not_lt fun free => room (hasRoom_iff.mpr free)
      simp [submit, shut, room, Nat.le_antisymm within full]

/-- The open jobs fit into the places that there are for jobs. -/
theorem Reachable.open_le (run : Reachable config notes p) :
    p.openJobs.length ≤ config.room + config.crew + config.retryRoom := by
  have queued := run.queued
  have hired := run.hired.within run.phased
  have counted := run.slots.counted
  have within := run.slots.within
  have held : (inHands p.workers).length ≤ p.workers.length := List.length_filterMap_le _ _
  rw [run.config] at queued hired within
  simp only [openJobs, List.length_append, List.length_map]
  rw [Pool.queued] at queued
  omega

/-- Bounds of every reachable pool. The count of slots is the number of entries in the retry queue,
waiting at the scheduler and in its batch, and of workers that hold one, and no more than there are;
the primary queue keeps to its capacity with the place reserved; there are no more writes than
workers, and no more unsettled tasks than places. So a worker with a slot never finds the retry
queue full or closed, no slot is given back that was not taken, and a task is refused by an open
pool just when every place of the primary queue is taken. This speaks of the program as long as
nobody was cut off: what a worker or the scheduler then held is gone with it, without giving its
slots back, while it is kept here as it was. -/
theorem Reachable.bounded (run : Reachable config notes p) :
    p.slots = p.channel.length + p.scheduler.waiting.length + p.scheduler.watch.due.length
        + (slotted p.workers).length ∧
      p.slots ≤ config.retryRoom ∧
      p.queue.length + p.reserved ≤ config.room ∧
      p.writers ≤ config.crew ∧
      p.stats.submitted ≤ p.stats.settled + (config.room + config.crew + config.retryRoom) ∧
      (∀ w job e draining, p.workers[w]? = some ⟨.slotted job e, draining, false⟩ →
        ∀ supply, ∃ q delay, p.step? (.worker w supply) =
          some (q, [.retryScheduled job e delay])) ∧
      (∀ label q more, p.step? label = some (q, more) →
        q.slots + released label more = p.slots ∨
          (∃ w supply, label = .worker w supply) ∧ q.slots = p.slots + 1) ∧
      ∀ task, (p.submit task).1 = .error .queueFull ↔
        p.closed = false ∧ p.queue.length + p.reserved = config.room := by
  have phased := run.phased
  have slots := run.slots
  have same := run.config
  refine ⟨?_, ?_, ?_, ?_, ?_, ?_, ?_, ?_⟩
  · simpa [retrySide, Nat.add_assoc] using slots.counted
  · exact same ▸ slots.within
  · exact same ▸ run.queued
  · have writing : p.writers ≤ p.workers.length := List.countP_le_length
    exact same ▸ Nat.le_trans writing (run.hired.within phased)
  · have balanced := run.balanced all_stable
    have tickets := congrArg List.length run.tickets
    have settled := run.settled
    have places := run.open_le
    simp only [List.countP_true, List.length_map, List.length_range] at balanced tickets
    omega
  · intro w job e draining here supply
    obtain ⟨q, scheduled⟩ := slots.schedules phased here supply
    exact ⟨q, _, scheduled⟩
  · intro label q more step
    exact (step?_move step).released phased slots
  · intro task
    exact same ▸ submit_full_iff run.queued task

/-- One worker, and one place in each queue. -/
def cramped : Config :=
  { Config.standard with workers := 1, queueCapacity := 1, retryCapacity := 1 }

/-- The first task fails and waits for its retry, the second is being written, and the third
waits in the primary queue. -/
def crampedRun : List Label :=
  let submits (user : Int) : Label := .submit (.fresh ⟨user⟩ ⟨1⟩)
  let works (moves : Nat) : List Label :=
    .replicate moves (.worker 0 ⟨none, .error (.database "down"), .one⟩)
  submits 1 :: .start :: works 8 ++ submits 2 :: works 3 ++ [submits 3]

/-- After that run every bound is met. -/
theorem bounded_crampedRun : ∃ notes p, Reachable cramped notes p ∧
    p.slots = cramped.retryRoom ∧ p.queue.length + p.reserved = cramped.room ∧
    p.writers = cramped.crew ∧
    p.stats.submitted = p.stats.settled + (cramped.room + cramped.crew + cramped.retryRoom) ∧
    p.closed = false ∧ ∀ task, (p.submit task).1 = .error .queueFull := by
  have run : ∃ notes p, Reachable cramped notes p ∧ p.slots = cramped.retryRoom ∧
      p.queue.length + p.reserved = cramped.room ∧ p.writers = cramped.crew ∧
      p.stats.submitted = p.stats.settled + (cramped.room + cramped.crew + cramped.retryRoom) ∧
      p.closed = false :=
    ⟨_, _, ⟨crampedRun, rfl⟩, rfl, rfl, rfl, rfl, rfl⟩
  obtain ⟨notes, p, run, slots, full, writing, unsettled, isOpen⟩ := run
  obtain ⟨_, _, _, _, _, _, _, refuses⟩ := run.bounded
  exact ⟨notes, p, run, slots, full, writing, unsettled, isOpen,
    fun task => (refuses task).mpr ⟨isOpen, full⟩⟩

end Pool
end CouponSale

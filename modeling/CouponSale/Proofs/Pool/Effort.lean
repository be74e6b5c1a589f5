import CouponSale.Proofs.Pool.Chances
import CouponSale.Proofs.Pool.Tended
import CouponSale.Proofs.Runs
import Mathlib.Algebra.Order.BigOperators.Group.List
import Mathlib.Algebra.Order.Group.Nat

/-!
A pool that is left alone comes to rest. Jobs go round from the workers to the retry side and back,
but each round costs an attempt, and between two attempts a job only moves on. So the chances left
and the way to the next attempt make up an effort that every move of a worker or of the scheduler
lowers; and waiting lowers the time that is left until the timers have run.
-/
namespace CouponSale.Pool

/-- When the write of a worker is answered. -/
def Stage.due? : Stage → Option Nat
  | .writing _ due => due
  | _ => none

/-- When the entries are ready that an idle scheduler waits for. -/
def Scheduler.alarms (s : Scheduler) : List Nat :=
  match s.watch with
  | .idle => s.waiting.map Entry.readyAt
  | _ => []

/-- The times at which somebody who waits for the clock goes on. -/
def timers (p : Pool) : List Nat := p.workers.filterMap (·.stage.due?) ++ p.scheduler.alarms

/-- A pool to which nothing is submitted and which nobody stops: the workers and the scheduler move,
and time passes as long as a timer runs. -/
def alone? (p : Pool) : Label → Option Moved
  | .worker w s => p.workerStep? w s
  | .scheduler => p.schedulerStep?
  | .wait ms =>
    if 0 < ms ∧ ∃ time ∈ p.timers, p.now < time then some ({ p with now := p.now + ms }, [])
    else none
  | _ => none

/-- The moves of a job or of a worker before the next attempt or rest. -/
def Stage.rank : Stage → Nat
  | .writing _ _ => 13
  | .clearing _ (some _) => 12
  | .failed _ _ => 11
  | .slotted _ _ => 10
  | .fresh | .clearing _ none => 2
  | .resting => 1
  | _ => 0

def Watch.rank : Watch → Nat
  | .handing _ _ .wanted => 2
  | .fresh | .handing _ _ .awaited => 1
  | _ => 0

/-- The way of everybody to the next attempt. -/
def rank (p : Pool) : Nat :=
  p.queue.length + (p.workers.map (·.stage.rank)).sum + 8 * p.channel.length +
    7 * p.scheduler.waiting.length + 4 * p.scheduler.watch.due.length + p.scheduler.watch.rank

def effort (p : Pool) : Nat :=
  14 * p.chances p.config.retry.maxRetries (fun _ => true) + p.rank

/-- The time until the timers have run, one by one. -/
def delay (p : Pool) : Nat := (p.timers.map (· - p.now)).sum

variable {p q : Pool} {w : Nat} {s : Supply} {stage : Stage} {notes : List Note}
  {before after : List Worker}

theorem rank_grantPlace (s : Scheduler) : (grantPlace s).watch.rank ≤ s.watch.rank := by
  unfold grantPlace
  split
  · rename_i entry batch held
    rw [held]
    simp [Watch.rank]
  · exact Nat.le_refl _

/-- A worker goes on, unless it begins an attempt. -/
theorem WorkerMove.rank_lt (untold : p.workersTold = false)
    (crew : p.workers = before ++ ⟨stage, false, false⟩ :: after) (place : before.length = w)
    (move : WorkerMove p w s false stage q notes) :
    q.rank < p.rank + 14 * (begunJobs notes).length := by
  subst place
  cases move with
  | hear told | hearInLine told => simp [untold] at told
  | leave empty told => contradiction
  | @take job rest next first =>
    have granted := rank_grantPlace p.scheduler
    have same := watch_grantPlace p.scheduler
    simp [rank, crew, next, same, modify_append, Pool.take, Pool.place, Pool.leaveLine, Stage.rank,
      begunJobs]
    omega
  | _ =>
    simp [rank, crew, modify_append, Pool.place, Pool.beginWrite, Pool.endWrite, Pool.clear,
      Pool.giveUp, Stage.rank, begunJobs, Note.begun?, List.filterMap_cons] <;>
    omega

theorem SchedulerMove.rank_lt {watch : Watch} {waiting : List Entry}
    (untold : p.schedulerTold = false) (keen : watch ≠ .closing)
    (keeps : p.scheduler = ⟨watch, waiting, false⟩)
    (move : SchedulerMove p watch waiting q notes) : q.rank < p.rank := by
  cases move with
  | hear listens told => simp [untold] at told
  | giveUp | leave => contradiction
  | collect untold empty ready =>
    have parted := sum_parted (fun _ => 1) waiting p.now
    rw [ready] at parted
    simp [rank, keeps, Watch.due, Watch.rank] at parted ⊢
    omega
  | ask =>
    simp [rank, keeps, Pool.ask, Watch.due]
    split <;> simp [Watch.rank]
  | @handOver _ entry batch =>
    cases batch <;> simp [rank, keeps, Pool.handOver, Watch.due, Watch.rank] <;> omega
  | _ => simp [rank, *, Watch.due, Watch.rank] <;> omega

/-- In a pool that is attended, every move of a worker or of the scheduler lowers the effort. -/
theorem WorkerMove.effort_lt (untold : p.workersTold = false)
    (crew : p.workers = before ++ ⟨stage, false, false⟩ :: after) (place : before.length = w)
    (move : WorkerMove p w s false stage q notes) : q.effort < p.effort := by
  have spends : Spends p.config.retry.maxRetries (fun _ => true) p q notes :=
    move.spends all_stable rfl crew place
  have lower := move.rank_lt untold crew place
  have none : acceptedJobs notes = [] := by
    cases move <;> rfl
  unfold Spends at spends
  rw [none, List.countP_true, List.map_nil, List.sum_nil] at spends
  rw [effort, effort, move.frame.config]
  omega

theorem SchedulerMove.effort_lt {watch : Watch} {waiting : List Entry}
    (untold : p.schedulerTold = false) (keen : watch ≠ .closing)
    (keeps : p.scheduler = ⟨watch, waiting, false⟩)
    (move : SchedulerMove p watch waiting q notes) : q.effort < p.effort := by
  have spends : Spends p.config.retry.maxRetries (fun _ => true) p q notes := move.spends keeps
  have lower := move.rank_lt untold keen keeps
  have none : acceptedJobs notes = [] := by
    cases move <;> rfl
  unfold Spends at spends
  rw [none, List.map_nil, List.sum_nil] at spends
  rw [effort, effort, move.frame.config]
  omega

theorem delay_lt {ms : Nat} (some : 0 < ms) (runs : ∃ time ∈ p.timers, p.now < time) :
    ({ p with now := p.now + ms } : Pool).delay < p.delay := by
  apply List.sum_lt_sum
  · intro time _
    show time - (p.now + ms) ≤ time - p.now
    omega
  · obtain ⟨time, member, runs⟩ := runs
    refine ⟨time, member, ?_⟩
    show time - (p.now + ms) < time - p.now
    omega

/-- What is left to do in a pool, before what is left to wait. -/
def Nearer (q p : Pool) : Prop :=
  Prod.Lex (· < ·) (· < ·) (q.effort, q.delay) (p.effort, p.delay)

theorem nearer_wf : WellFounded Nearer :=
  InvImage.wf (fun p : Pool => (p.effort, p.delay))
    (WellFounded.prod_lex Nat.lt_wfRel.wf Nat.lt_wfRel.wf)

/-- A pool that is attended and left alone stays attended, and comes nearer to its rest. -/
theorem Tended.alone {label : Label} (tended : p.Tended)
    (step : p.alone? label = some (q, notes)) : q.Tended ∧ q.Nearer p := by
  cases label with
  | worker w s =>
    cases workerStep?_move step with
    | worker crew place move =>
      obtain rfl := (tended.crew _ (crew ▸ List.mem_append_right _ List.mem_cons_self)).1
      exact ⟨tended.worker crew place move,
        .left _ _ (move.effort_lt tended.workersTold crew place)⟩
  | scheduler =>
    cases schedulerStep?_move step with
    | scheduler keeps move =>
      have keen := tended.watching.1
      rw [keeps] at keen
      exact ⟨tended.scheduler keeps move,
        .left _ _ (move.effort_lt tended.schedulerTold keen keeps)⟩
  | wait ms =>
    simp only [alone?] at step
    split at step
    · rename_i runs
      cases step
      exact ⟨tended.aside rfl rfl rfl rfl rfl rfl rfl (Nat.le_refl _),
        .right _ (delay_lt runs.1 runs.2)⟩
    · contradiction
  | _ => cases step

/-- No run of a pool left alone goes on for ever. -/
theorem Tended.rests (tended : p.Tended) (run : Nat → Pool) (start : run 0 = p) :
    ∃ n, ∀ label notes, (run n).alone? label ≠ some (run (n + 1), notes) :=
  rests_of_nearer nearer_wf (fun tended step => tended.alone step) run (start ▸ tended)

end CouponSale.Pool

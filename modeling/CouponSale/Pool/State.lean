import CouponSale.Pool.Config
import CouponSale.Task

/-!
The state of a worker pool. Workers, the retry scheduler and a stop in progress are at one of a
few stages; between two stages an actor never waits. The primary queue and the retry queue are
bounded, a retry slot being held from a failure until the task is handed back. Idle workers form
a line for the primary queue, of which only the head listens.
-/
namespace CouponSale

structure Pool.Stats where
  /-- Tasks accepted, each counted at its first submission. -/
  submitted : Nat
  /-- Tasks refused because the primary queue was full or closed. -/
  dropped : Nat
  persisted : Nat
  alreadyPersisted : Nat
  /-- Moves into the retry queue. -/
  retried : Nat
  deadLettered : Nat
  deriving DecidableEq, Repr, Inhabited

namespace Pool

def Stats.zero : Stats := ⟨0, 0, 0, 0, 0, 0⟩

/-- Tasks that reached an end. -/
def Stats.settled (s : Stats) : Nat := s.persisted + s.alreadyPersisted + s.deadLettered

/-- An accepted task with the number of its acceptance. -/
structure Job where
  ticket : Nat
  task : Task
  deriving DecidableEq, Repr, Inhabited

/-- A job that waits for its retry. -/
structure Entry where
  job : Job
  /-- When the job may go back to the primary queue. -/
  readyAt : Nat
  lastError : String
  deriving DecidableEq, Repr, Inhabited

inductive Stage where
  /-- Started, not yet run. -/
  | fresh
  /-- At the top of its loop. -/
  | resting
  /-- In line for the primary queue. -/
  | lined
  /-- Has taken a job that is not yet in the table of jobs in flight. -/
  | holding (job : Job)
  /-- Has put the write to the store, whose answer comes at time `due`, or without a wait. -/
  | writing (job : Job) (due : Option Nat)
  /-- The store has answered; the job is still in the table of jobs in flight. -/
  | clearing (job : Job) (failure : Option Failure)
  /-- A failed job, out of the table and without a retry slot. -/
  | failed (job : Job) (failure : Failure)
  /-- A failed job that holds a retry slot. -/
  | slotted (job : Job) (failure : Failure)
  /-- Has ended by itself. -/
  | left
  deriving DecidableEq, Repr, Inhabited

/-- A worker. One that was cut off keeps the stage at which it was. -/
structure Worker where
  stage : Stage
  /-- Has heard of the stop and only empties the queue. -/
  draining : Bool
  cut : Bool
  deriving DecidableEq, Repr, Inhabited

def Worker.new : Worker := ⟨.fresh, false, false⟩

/-- How far the scheduler has come to a place in the primary queue. -/
inductive Place where
  /-- It has not asked yet. -/
  | wanted
  /-- It has asked, and the next place that is freed will be its own. -/
  | awaited
  /-- It holds one. -/
  | granted
  deriving DecidableEq, Repr, Inhabited

inductive Watch where
  /-- Never started. -/
  | absent
  | fresh
  /-- Waits for a new entry or for the first waiting one to become ready. -/
  | idle
  /-- Hands an entry that is due to the primary queue, where it needs a place; the entries of the
  same batch follow. -/
  | handing (entry : Entry) (batch : List Entry) (place : Place)
  /-- Gives up what still waits. -/
  | closing
  /-- Has ended by itself. -/
  | left
  deriving DecidableEq, Repr, Inhabited

/-- The retry scheduler. One that was cut off keeps its stage and what waited there. -/
structure Scheduler where
  watch : Watch
  waiting : List Entry
  cut : Bool
  deriving DecidableEq, Repr, Inhabited

inductive Life where
  | idle
  | running
  | stopped
  deriving DecidableEq, Repr, Inhabited

inductive Stopping where
  | no
  /-- Waits for a worker to end, until the deadline. -/
  | awaiting (worker deadline : Nat)
  /-- Waits for the scheduler to end, until the deadline. -/
  | dismissing (deadline : Nat)
  /-- All background tasks are gone. -/
  | closing
  deriving DecidableEq, Repr, Inhabited

end Pool

structure Pool where
  config : Pool.Config
  life : Pool.Life
  /-- Milliseconds since the beginning. -/
  now : Nat
  /-- The primary queue, the next job first. -/
  queue : List Pool.Job
  /-- The primary queue takes no more jobs. -/
  closed : Bool
  workers : List Pool.Worker
  /-- The workers in line for the primary queue. -/
  line : List Nat
  /-- The job each worker is writing, for a stop to recover. -/
  inFlight : List (Nat × Pool.Job)
  /-- The retry queue, the next entry first. -/
  channel : List Pool.Entry
  /-- The retry queue has a reader. -/
  channelOpen : Bool
  scheduler : Pool.Scheduler
  /-- Retry slots taken. -/
  slots : Nat
  stats : Pool.Stats
  /-- The workers have been told to stop. -/
  workersTold : Bool
  /-- The scheduler has been told to stop. -/
  schedulerTold : Bool
  stopping : Pool.Stopping
  deriving DecidableEq, Repr, Inhabited

namespace Pool

/-- A pool with both queues empty and nothing started. -/
def new (config : Config) : Pool where
  config := config
  life := .idle
  now := 0
  queue := []
  closed := false
  workers := []
  line := []
  inFlight := []
  channel := []
  channelOpen := true
  scheduler := ⟨.absent, [], false⟩
  slots := 0
  stats := .zero
  workersTold := false
  schedulerTold := false
  stopping := .no

/-- The places of the primary queue that the scheduler holds. -/
def reserved (p : Pool) : Nat :=
  match p.scheduler.watch with
  | .handing _ _ .granted => if p.scheduler.cut then 0 else 1
  | _ => 0

/-- The places of the primary queue in use. -/
def queued (p : Pool) : Nat := p.queue.length + p.reserved

def hasRoom (p : Pool) : Bool := p.queued < p.config.room

def place (p : Pool) (w : Nat) (stage : Stage) : Pool :=
  { p with workers := p.workers.modify w ({ · with stage }) }

/-- The job a worker at this stage has in its hands. -/
def Stage.held? : Stage → Option Job
  | .holding job | .writing job _ | .clearing job _ | .failed job _ | .slotted job _ => some job
  | _ => none

/-- The entries of a batch being handed over. -/
def Watch.due : Watch → List Entry
  | .handing entry batch _ => entry :: batch
  | _ => []

end Pool
end CouponSale

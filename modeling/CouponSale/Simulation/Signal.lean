import CouponSale.Simulation.State

/-!
Whom a move wakes, and timers. A move wakes those that it concerns and nobody else: the scheduler
that gets a place, the worker that comes to the front of the line, who listens for what arrives,
and everyone who is told to stop or is started.
-/
namespace CouponSale.Simulation

variable {σ : Type}

def workersOf (p : Pool) : List Actor := (List.range p.workers.length).map .worker

/-- The actors that a move wakes by leaving the pool as it is `after`, in order. -/
def woken (s : Simulation σ) (moving : Actor) (after : Pool) : List Actor :=
  let before := s.sale.pool
  let granted := if before.reserved < after.reserved then [.scheduler] else []
  let front := if before.line.head? = after.line.head? then []
    else (after.line.head?.map .worker).toList
  let entry := if s.listeners.entry ∧ before.channel.length < after.channel.length
    then [.scheduler] else []
  let job := if before.queue.length < after.queue.length
    then (s.listeners.job.map .worker).toList else []
  let told := if before.workersTold = after.workersTold then [] else after.line.map .worker
  let dismissed := if before.schedulerTold = after.schedulerTold then [] else [.scheduler]
  let started := if before.workers.isEmpty then workersOf after else []
  let watching := if before.scheduler.watch = .absent ∧ after.scheduler.watch ≠ .absent
    then [.scheduler] else []
  (granted ++ front ++ entry ++ job ++ told ++ dismissed ++ started ++ watching).filter
    (· ≠ moving)

/-- Who still listens after a move that leaves the pool as it is `after`. -/
def stillListening (s : Simulation σ) (after : Pool) : Listeners where
  job := if s.sale.pool.queue.length < after.queue.length then none else s.listeners.job
  entry := s.listeners.entry && decide (after.channel.length ≤ s.sale.pool.channel.length)

/-- The answers to claims among some notes. -/
def answersIn (notes : List Note) : List (Nat × Answer Outcome) :=
  notes.filterMap fun
    | .answered number answer => some (number, answer)
    | _ => none

/-- Takes up what a move left behind, and wakes those whom it concerns. -/
def take (s : Simulation σ) (moving : Actor) (moved : Sale.Moved σ) : Simulation σ :=
  let after := moved.1.pool
  { s with
    sale := moved.1
    inside := s.inside.filter (after.line.contains ·)
    listeners := s.stillListening after
    answers := (answersIn moved.2).reverse ++ s.answers
    notes := moved.2.reverse ++ s.notes }.lineUp (s.woken moving after)

/-- When the actor's own timer ends its wait. -/
def deadline? (s : Simulation σ) : Actor → Option Nat
  | .worker w =>
    match (s.sale.pool.workers[w]?).map Pool.Worker.stage with
    | some (.writing _ due) => due
    | _ => none
  | .scheduler =>
    match s.sale.pool.scheduler.watch with
    | .idle => Pool.firstReady? s.sale.pool.scheduler.waiting
    | _ => none
  | .claim number => callDeadline? number
  | .caller =>
    match s.errand with
    | .claim number => callDeadline? number
    | .drain (.waiting look deadline) => some (min look deadline)
    | .sleep wakeAt => some wakeAt
    | .ask _ due => some due
    | .stop =>
      match s.sale.pool.stopping with
      | .awaiting _ deadline | .dismissing deadline => some deadline
      | _ => none
    | _ => none
where
  callDeadline? (number : Nat) : Option Nat :=
    match (s.sale.call? number).map Call.stage with
    | some (.asking due expiry) => some (min due expiry)
    | _ => none

def dropTimer (s : Simulation σ) (a : Actor) : Simulation σ :=
  { s with timers := s.timers.filter (·.2 ≠ a) }

/-- Sets the timer of an actor that has to wait. One that runs already keeps its place. -/
def setTimer (s : Simulation σ) (a : Actor) : Simulation σ :=
  match s.deadline? a with
  | some d =>
    if s.timers.contains (d, a) then s
    else
      let s := s.dropTimer a
      if s.now < d then { s with timers := s.timers ++ [(d, a)] } else s
  | none => s.dropTimer a

end CouponSale.Simulation

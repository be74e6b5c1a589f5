import CouponSale.Simulation.Signal

/-!
Turns. An actor moves until it has to wait, but its strength is limited: getting something that
it asked for (the queue, a job, an entry, a place, the end of a pause, the table of jobs in
flight, the news of a stop) costs one, and without strength it can ask for nothing more. Then it
is set aside and goes on in the next round with new strength.
-/
namespace CouponSale.Simulation

variable {σ : Type}

/-- The strength of an actor at the start of its turn. -/
def fullStrength : Nat := 128

/-- What a move takes out of an actor. -/
inductive Toll where
  /-- The move asks for nothing. -/
  | free
  /-- The move asks for something. -/
  | asks
  /-- The move gets something. -/
  | gets
  deriving DecidableEq, Repr, Inhabited

/-- The strength left after a move; `none` when there is not enough for it. -/
def Toll.pay? : Toll → Nat → Option Nat
  | .free, strength => some strength
  | .asks, 0 | .gets, 0 => none
  | .asks, strength + 1 => some (strength + 1)
  | .gets, strength + 1 => some strength

/-- What an actor does next. -/
inductive Next (σ : Type) where
  | move (toll : Toll) (after : Simulation σ)
  | wait (after : Simulation σ)
  | over

/-- Moves an actor until it waits, ends or is set aside, no more often than the first number
says; the second is its strength. -/
def moveAll (a : Actor) (next : Simulation σ → Next σ) :
    Nat → Nat → Simulation σ → Simulation σ
  | 0, _, s => s
  | fuel + 1, strength, s =>
    match next s with
    | .move toll after =>
      match toll.pay? strength with
      | some left => moveAll a next fuel left (after.dropTimer a)
      | none => s.setAside a
    | .wait after => if (Toll.asks.pay? strength).isSome then after.setTimer a else s.setAside a
    | .over => s.dropTimer a

/-! Workers -/

def workerToll (p : Pool) (worker : Pool.Worker) : Toll :=
  match worker.stage with
  | .fresh | .failed _ _ | .slotted _ _ | .left => .free
  | .resting => if p.hasNews worker then .gets else .asks
  | .lined => if worker.draining then .free else .gets
  | .holding _ | .clearing _ _ => .gets
  | .writing _ due => if due.isSome then .gets else .free

/-- The worker is in front of the line and has yet to get hold of the queue. -/
def mayEnter (s : Simulation σ) (w : Nat) (worker : Pool.Worker) : Bool :=
  s.sale.pool.line.head? = some w && s.inside ≠ some w && !s.sale.pool.hasNews worker

/-- What a worker does next. One that finds the queue empty listens for a job. -/
def workerNext [Backend σ] (w : Nat) (s : Simulation σ) : Next σ :=
  match s.sale.pool.workers[w]? with
  | none => .over
  | some worker =>
    if worker.cut || worker.stage = .left then .over
    else if s.mayEnter w worker then .move .gets { s with inside := some w }
    else
      match s.sale.workerStep? w .one with
      | some moved => .move (workerToll s.sale.pool worker) (s.take (.worker w) moved)
      | none =>
        if s.inside = some w then
          .wait { s with listeners := { s.listeners with job := some w } }
        else .wait s

/-- More moves than a worker makes in a turn. -/
def workerMoves : Nat := 8 * (fullStrength + 2)

/-! The scheduler -/

def schedulerToll (p : Pool) : Toll :=
  match p.scheduler.watch with
  | .absent | .fresh | .closing | .left => .free
  | .handing _ _ .wanted => if p.schedulerTold then .gets else .asks
  | .idle | .handing _ _ _ => .gets

/-- An idle scheduler that finds no entry listens for one. -/
def lookForEntry (s : Simulation σ) : Simulation σ :=
  let p := s.sale.pool
  if p.scheduler.watch = .idle && !p.schedulerTold && p.channel.isEmpty then
    { s with listeners := { s.listeners with entry := true } }
  else s

/-- What the scheduler does next. -/
def schedulerNext [Backend σ] (s : Simulation σ) : Next σ :=
  let p := s.sale.pool
  match p.schedulerStep? with
  | some moved => .move (schedulerToll p) (s.lookForEntry.take .scheduler (s.sale.absorb moved))
  | none =>
    match p.scheduler.cut, p.scheduler.watch with
    | false, .idle | false, .handing _ _ _ => .wait s.lookForEntry
    | _, _ => .over

/-- More moves than the scheduler makes in a turn. -/
def schedulerMoves (p : Pool) : Nat :=
  3 * (fullStrength + p.channel.length + p.scheduler.waiting.length
    + p.scheduler.watch.due.length + 3)

/-! Claims -/

def claimNext [Backend σ] (a : Actor) (number : Nat) (s : Simulation σ) : Next σ :=
  match s.sale.callStep? number with
  | some moved => .move .free (s.take a moved)
  | none => if (s.sale.call? number).isSome then .wait s else .over

def moveClaim [Backend σ] (a : Actor) (number : Nat) (s : Simulation σ) : Simulation σ :=
  moveAll a (claimNext a number) 3 fullStrength s

def openRequest [Backend σ] (s : Simulation σ) (number : Nat) : Simulation σ :=
  match s.requests.find? (·.number = number) with
  | some r =>
    { s with requests := s.requests.filter (·.number ≠ number) }.take (.claim number)
      (s.sale.openCall number r.user r.coupon none)
  | none => s

def turnOf [Backend σ] (s : Simulation σ) (a : Actor) : Simulation σ :=
  match a with
  | .caller => s
  | .claim number => (s.openRequest number).moveClaim a number
  | .worker w => moveAll a (workerNext w) workerMoves fullStrength s
  | .scheduler => moveAll a schedulerNext (schedulerMoves s.sale.pool) fullStrength s

end CouponSale.Simulation

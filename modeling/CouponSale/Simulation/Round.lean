import CouponSale.Simulation.Turn

/-!
Rounds. At the start of a round the caller moves, and then the actors in line take their turns,
no more than sixty-one. Those who were set aside line up again for the next round, the latest
first. When nobody can move any more the clock jumps to the next timer, which starts a round as
well. The caller's strength is limited like any other's.
-/
namespace CouponSale.Simulation

variable {σ : Type} [Backend σ]

/-- The turns of a round. -/
def roundTurns : Nat := 61

/-! The caller -/

def spawn (s : Simulation σ) (user : UserId) (coupon : CouponId) : Simulation σ :=
  { s with
    requests := s.requests ++ [⟨s.nextNumber, user, coupon⟩]
    nextNumber := s.nextNumber + 1
    ready := s.ready ++ [.claim s.nextNumber] }

def spawnUsers (coupon : CouponId) : Nat → Nat → Simulation σ → Simulation σ
  | 0, _, s => s
  | count + 1, next, s =>
    spawnUsers coupon count (next + 1) (s.spawn ⟨(next : Int)⟩ coupon)

/-- The moves of a stop. They pause after a task was cut off, until that task is gone. -/
def stopTurn : Nat → Simulation σ → Simulation σ
  | 0, s => s
  | fuel + 1, s =>
    if s.sale.pool.stopping = .no then { s with errand := .free }
    else
      match s.sale.pool.stopStep? with
      | none => s
      | some moved =>
        let cut := moved.2.any fun
          | .backgroundCut _ => true
          | _ => false
        let s := s.take .caller (s.sale.absorb moved)
        if cut then s else stopTurn fuel s

/-- The caller has something to do. -/
def callerReady (s : Simulation σ) : Bool :=
  match s.errand with
  | .free | .drain (.ended _) | .told _ => false
  | .claim number => (s.sale.callStep? number).isSome || (s.sale.call? number).isNone
  | .answers count => s.answers.length = count
  | .burst b => 0 < b.startable s.answers.length || 0 < b.joinable s.answers.length
  | .drain (.waiting look deadline) => min look deadline ≤ s.now
  | .stop => s.sale.pool.stopping = .no || s.sale.pool.stopStep?.isSome
  | .sleep wakeAt => wakeAt ≤ s.now
  | .ask _ due => due ≤ s.now

def put (s : Simulation σ) : Question → Told × Simulation σ
  | .reserve coupon user =>
    let (answer, stores) := Backend.reserve s.sale.stores coupon user
    (.reserved answer, { s with sale := { s.sale with stores } })
  | .write user coupon =>
    let (answer, stores) := Backend.write s.sale.stores user coupon
    (.written answer, { s with sale := { s.sale with stores } })

/-- The moves of a burst: users are started while there are places, and when all are started the
answers are counted; each of both gets something. -/
def burstTurn (s : Simulation σ) (b : Burst) : Simulation σ :=
  let starts := min (b.startable s.answers.length) fullStrength
  let s := spawnUsers b.coupon starts b.next s
  let b := b.start starts
  let b := b.join (min (b.joinable s.answers.length) (fullStrength - starts))
  if b.isOver then
    let tally := Tally.ofAnswers (s.answers.map (·.2))
    { s with errand := .free, notes := .burstFinished b.coupon tally :: s.notes }
  else { s with errand := .burst b }

def callerTurn (s : Simulation σ) : Simulation σ :=
  match s.errand with
  | .free | .told _ => s
  | .claim number =>
    let s := s.moveClaim .caller number
    if (s.sale.call? number).isNone then { s with errand := .free } else s
  | .answers count => if s.answers.length = count then { s with errand := .free } else s
  | .burst b => s.burstTurn b
  | .drain vigil => { s with errand := .drain (s.sale.pool.lookAt vigil) }
  | .stop => stopTurn (2 * s.sale.pool.workers.length + 4) s
  | .sleep wakeAt => if wakeAt ≤ s.now then { s with errand := .free } else s
  | .ask question due =>
    if due ≤ s.now then
      let (answer, s) := s.put question
      { s with errand := .told answer }
    else s

/-! Rounds and the clock -/

def newRound (s : Simulation σ) : Simulation σ :=
  let s := { s with aside := [], quota := roundTurns }.lineUp s.aside
  s.callerTurn.setTimer .caller

/-- The clock jumps to the next timer, which lines up everyone whose timer has run out. -/
def jump? (s : Simulation σ) : Option (Simulation σ) :=
  (s.timers.map (·.1)).min?.map fun time =>
    let out := (s.timers.filter (·.1 ≤ time)).map (·.2)
    let s := { s with
      sale := s.sale.wait (time - s.now), timers := s.timers.filter (time < ·.1) }
    (s.lineUp (out.filter (· ≠ .caller))).newRound

/-- The next turn, or the next round; `none` once the errand is over and everyone waits. -/
def turn? (s : Simulation σ) : Option (Simulation σ) :=
  match s.ready, s.quota with
  | a :: rest, quota + 1 => some ({ s with ready := rest, quota }.turnOf a)
  | _ :: _, 0 => some s.newRound
  | [], _ =>
    if !s.aside.isEmpty then some s.newRound
    else if s.errand.isDone then none
    else if s.callerReady then some s.newRound
    else s.jump?

def turns : Nat → Simulation σ → Simulation σ
  | 0, s => s
  | fuel + 1, s =>
    match s.turn? with
    | some s => turns fuel s
    | none => s

/-- More turns than it takes to finish an errand. Each job is tried a bounded number of times, and
each try wakes everyone a bounded number of times; beside that the clock jumps to looks at the
pool. -/
def turnsLeft (s : Simulation σ) : Nat :=
  let p := s.sale.pool
  let claims := match s.errand with
    | .burst b => b.users
    | .answers count => count
    | _ => 1
  let looks := match s.errand with
    | .drain (.waiting _ deadline) => deadline - s.now
    | _ => 0
  let jobs := p.stats.submitted + claims + 1
  256 * (p.workers.length + 2) * jobs * (p.config.retry.maxRetries + 2) + 4 * looks

/-- Runs an errand to its end, and then everyone else until they wait. -/
def run (s : Simulation σ) (errand : Errand) : Simulation σ :=
  let s := { s with errand, answers := [] }.newRound
  turns s.turnsLeft s

end CouponSale.Simulation

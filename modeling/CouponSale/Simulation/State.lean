import CouponSale.Pool.Drain
import CouponSale.Sale.Burst
import CouponSale.Sale.Step

/-!
A sale in virtual time. The clock stands still while anyone can move; then it jumps to the next
timer. Actors that can move stand in a line and take turns; an actor whose turn is cut short is
set aside. The caller, who runs one errand after the other, moves at the start of each round of
turns.
-/
namespace CouponSale

/-- Someone who moves by turns. -/
inductive Actor where
  /-- Who runs the errands. -/
  | caller
  /-- A claim that runs on its own. -/
  | claim (number : Nat)
  | worker (w : Nat)
  | scheduler
  deriving DecidableEq, Repr, Inhabited

/-- A question that the caller puts to a store itself. -/
inductive Question where
  | reserve (coupon : CouponId) (user : UserId)
  | write (user : UserId) (coupon : CouponId)
  deriving DecidableEq, Repr, Inhabited

inductive Told where
  | reserved (answer : Answer Reservation)
  | written (answer : Answer Persisted)
  deriving Repr, Inhabited

/-- What the caller waits for. -/
inductive Errand where
  | free
  /-- A claim that the caller makes itself. -/
  | claim (number : Nat)
  /-- The answers to so many claims that run on their own. -/
  | answers (count : Nat)
  | burst (burst : Burst)
  /-- A drained pool. -/
  | drain (vigil : Pool.Vigil)
  | stop
  | sleep (wakeAt : Nat)
  /-- The answer of a store, which comes at time `due`. -/
  | ask (question : Question) (due : Nat)
  /-- The answer that came. -/
  | told (answer : Told)
  deriving Repr, Inhabited

def Errand.isDone : Errand → Bool
  | free | drain (.ended _) | told _ => true
  | _ => false

/-- A claim that was started on its own and has not moved yet. -/
structure Request where
  number : Nat
  user : UserId
  coupon : CouponId
  deriving DecidableEq, Repr, Inhabited

/-- Who waits to hear of something new. Who has heard does not listen any more. -/
structure Listeners where
  /-- The worker that listens for a job in the primary queue. -/
  job : Option Nat
  /-- The scheduler listens for an entry in the retry queue. -/
  entry : Bool
  deriving DecidableEq, Repr, Inhabited

/-- A sale in virtual time. -/
structure Simulation (σ : Type) where
  sale : Sale σ
  /-- The actors that can move, the next one first. -/
  ready : List Actor
  /-- The actors whose turn was cut short in this round, the latest first. -/
  aside : List Actor
  /-- The turns left in this round. -/
  quota : Nat
  /-- The worker in front of the line for the primary queue, once it has got hold of the queue. -/
  inside : Option Nat
  listeners : Listeners
  /-- The timers that run, in the order they were set. -/
  timers : List (Nat × Actor)
  errand : Errand
  requests : List Request
  /-- The answers to the claims of the errand, the latest first. -/
  answers : List (Nat × Answer Outcome)
  nextNumber : Nat
  notes : List Note
  deriving Inhabited

namespace Simulation

variable {σ : Type}

def new (sale : Sale σ) : Simulation σ where
  sale := sale
  ready := []
  aside := []
  quota := 0
  inside := none
  listeners := ⟨none, false⟩
  timers := []
  errand := .free
  requests := []
  answers := []
  nextNumber := 0
  notes := []

def now (s : Simulation σ) : Nat := s.sale.now

/-- Lines up an actor, unless it stands in line already. -/
def lineUpOne (s : Simulation σ) (a : Actor) : Simulation σ :=
  if s.ready.contains a then s else { s with ready := s.ready ++ [a] }

/-- Lines up some actors in order. -/
def lineUp (s : Simulation σ) (actors : List Actor) : Simulation σ := actors.foldl lineUpOne s

/-- Cuts a turn short. -/
def setAside (s : Simulation σ) (a : Actor) : Simulation σ := { s with aside := a :: s.aside }

end Simulation
end CouponSale

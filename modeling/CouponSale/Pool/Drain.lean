import CouponSale.Pool.State

/-!
Waiting until a pool is drained. Who waits does not look into the queues but compares two counters,
now and again, until as many tasks have reached an end as were accepted, or patience runs out.
-/
namespace CouponSale.Pool

/-- How often a wait for a drained pool looks, in milliseconds. -/
def lookEvery : Nat := 10

def isDrained (p : Pool) : Bool := p.stats.submitted ≤ p.stats.settled

/-- A wait for a drained pool. -/
inductive Vigil where
  /-- The next look at the pool, and the end of the wait. -/
  | waiting (look deadline : Nat)
  | ended (inTime : Bool)
  deriving DecidableEq, Repr, Inhabited

/-- Begins to wait, no longer than one has patience. -/
def watch (p : Pool) (patience : Span) : Vigil := .waiting p.now (p.now + patience.limit)

/-- What becomes of a wait when it is its turn: a look that is due comes before the end. -/
def lookAt (p : Pool) : Vigil → Vigil
  | .waiting look deadline =>
    if look ≤ p.now ∧ p.isDrained then .ended true
    else if deadline ≤ p.now then .ended false
    else if look ≤ p.now then .waiting (p.now + lookEvery) deadline
    else .waiting look deadline
  | .ended inTime => .ended inTime

end CouponSale.Pool

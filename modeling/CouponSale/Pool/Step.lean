import CouponSale.Pool.Reschedule
import CouponSale.Pool.Shutdown
import CouponSale.Pool.Work
import CouponSale.Run

/-!
The pool as a labelled machine. A label names who moves and what the outside supplies; every
order of labels is a run. Time passes at a label of its own.
-/
namespace CouponSale.Pool

inductive Label where
  | submit (task : Task)
  | start
  | stop
  | worker (w : Nat) (supply : Supply)
  | scheduler
  | stopper
  /-- Some milliseconds pass. -/
  | wait (ms : Nat)

/-- The move a label stands for; `none` where it is not possible. A start and a stop exclude each
other. -/
def step? (p : Pool) : Label → Option Moved
  | .submit task => some (p.submit task).2
  | .start => if p.stopping = .no then some p.start.2 else none
  | .stop => if p.stopping = .no then some p.stop else none
  | .worker w supply => p.workerStep? w supply
  | .scheduler => p.schedulerStep?
  | .stopper => p.stopStep?
  | .wait ms => some ({ p with now := p.now + ms }, [])

/-- A pool that a run from a new pool leads to. -/
def Reachable (config : Config) (notes : List Note) (p : Pool) : Prop :=
  Leads step? (new config) notes p

end CouponSale.Pool

import CouponSale.Sale.Claim
import CouponSale.Sale.Coupons

/-!
The sale as a labelled machine. A label names who moves; the stores supply what the pool asks
for, so that every order of labels is a run of the whole sale.
-/
namespace CouponSale.Sale

variable {σ : Type} [Backend σ]

/-- The move of a worker, the store being asked when a write begins and when it ends. -/
def workerStep? (s : Sale σ) (w : Nat) (draw : Binary64) : Option (Moved σ) :=
  let idle : Pool.Supply := ⟨none, .ok .written, draw⟩
  match (s.pool.workers[w]?).map Pool.Worker.stage with
  | some (.holding _) =>
    let supply := { idle with latency := Backend.writeLatency s.stores }
    (s.pool.workerStep? w supply).map
      ({ s with stores := Backend.beginWrite s.stores }.absorb ·)
  | some (.writing job due) =>
    if due.all (· ≤ s.now) then
      let (result, stores) := Backend.write s.stores job.task.user job.task.coupon
      (s.pool.workerStep? w { idle with result }).map ({ s with stores }.absorb ·)
    else none
  | _ => (s.pool.workerStep? w idle).map s.absorb

inductive Label where
  | claim (number : Nat) (user : UserId) (coupon : CouponId) (admin : Option UserId)
  | call (number : Nat)
  | worker (w : Nat) (draw : Binary64)
  | scheduler
  | stopper
  | submit (task : Task)
  | start
  | stop
  /-- Writes a new coupon. -/
  | create (coupon : NewCoupon) (now : Moment)
  /-- Seeds the counter of a coupon that was written. -/
  | seed (coupon : CouponId)
  | reseed (coupon : CouponId)
  /-- Some milliseconds pass. -/
  | wait (ms : Nat)

def wait (s : Sale σ) (ms : Nat) : Sale σ :=
  { s with pool := { s.pool with now := s.pool.now + ms } }

/-- The move a label stands for; `none` where it is not possible. Claims in progress have
different numbers. -/
def step? (s : Sale σ) : Label → Option (Moved σ)
  | .claim number user coupon admin =>
    if (s.call? number).isSome then none else some (s.openCall number user coupon admin)
  | .call number => s.callStep? number
  | .worker w draw => s.workerStep? w draw
  | .scheduler => (s.pool.step? .scheduler).map s.absorb
  | .stopper => (s.pool.step? .stopper).map s.absorb
  | .submit task => (s.pool.step? (.submit task)).map s.absorb
  | .start => (s.pool.step? .start).map s.absorb
  | .stop => (s.pool.step? .stop).map s.absorb
  | .create coupon now => some (s.openCoupon coupon now)
  | .seed coupon => s.finishCoupon? coupon
  | .reseed coupon => some (s.reseed coupon).2
  | .wait ms => some (s.wait ms, [])

/-- A sale that a run leads to from one over fresh stores. -/
def Reachable (config : Pool.Config) (reserveTimeout : Span) (stores : σ) (notes : List Note)
    (s : Sale σ) : Prop :=
  Leads step? (new config reserveTimeout stores) notes s

end CouponSale.Sale

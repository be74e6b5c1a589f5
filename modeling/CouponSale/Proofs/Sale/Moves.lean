import CouponSale.Proofs.Runs
import CouponSale.Sale.Step

/-!
The moves of a sale as a relation, one constructor for each thing that can happen, with what was so
when it happened. A move of the pool is one of the sale, the stores being asked where a write
begins or ends.
-/
namespace CouponSale.Sale

/-- The pool's part in a move that leaves the counter and the ledger alone. -/
def Label.pool? : Label → Option Pool.Label
  | .scheduler => some .scheduler
  | .stopper => some .stopper
  | .submit task => some (.submit task)
  | .start => some .start
  | .stop => some .stop
  | _ => none

variable {σ : Type} [Backend σ]

/-- What a worker is given where it does not end a write. -/
def idleSupply (draw : Binary64) : Pool.Supply := ⟨none, .ok .written, draw⟩

/-- The stage of a worker of the pool. -/
def stage? (s : Sale σ) (w : Nat) : Option Pool.Stage := (s.pool.workers[w]?).map Pool.Worker.stage

/-- A move of a sale. -/
inductive Move (s : Sale σ) : Label → Sale σ → List Note → Prop where
  | refuse {call : Call} (known : s.soldOut.check call.coupon = true) :
      Move s (.claim call.number call.user call.coupon call.admin) s
        (.soldOutHit call.user call.coupon :: answerNotes call (.ok .outOfStock))
  | ask {call : Call} {due expiry : Nat} (asks : call.stage = .asking due expiry)
      (new : s.call? call.number = none) :
      Move s (.claim call.number call.user call.coupon call.admin)
        { s with stores := Backend.beginReserve s.stores, calls := s.calls ++ [call] } []
  | hear {call : Call} {due expiry : Nat} (found : s.call? call.number = some call)
      (asks : call.stage = .asking due expiry) (ripe : due ≤ s.now) :
      Move s (.call call.number)
        ({ s with stores := (Backend.reserve s.stores call.coupon call.user).2 }.setStage
          call.number (.told (Backend.reserve s.stores call.coupon call.user).1))
        (reserveNotes call (Backend.reserve s.stores call.coupon call.user).1)
  | expire {call : Call} {due expiry : Nat} (found : s.call? call.number = some call)
      (asks : call.stage = .asking due expiry) (late : expiry ≤ s.now) :
      Move s (.call call.number)
        (s.setStage call.number (.told (.error (.counterTimeout s.reserveTimeout))))
        (reserveNotes call (.error (.counterTimeout s.reserveTimeout)))
  | fail {call : Call} {e : Failure} (found : s.call? call.number = some call)
      (told : call.stage = .told (.error e)) :
      Move s (.call call.number) (s.dropCall call.number) (answerNotes call (.error e))
  | decide {call : Call} {verdict : Reservation} (found : s.call? call.number = some call)
      (told : call.stage = .told (.ok verdict)) :
      Move s (.call call.number) ((s.follow call verdict).1.dropCall call.number)
        ((s.follow call verdict).2 ++ .decided call.user call.coupon verdict.outcome
          :: answerNotes call (.ok verdict.outcome))
  | beginWrite {w : Nat} {draw : Binary64} {job : Pool.Job} {moved : Pool.Moved}
      (holds : s.stage? w = some (.holding job))
      (step : s.pool.step? (.worker w { idleSupply draw with
        latency := Backend.writeLatency s.stores }) = some moved) :
      Move s (.worker w draw)
        ({ s with stores := Backend.beginWrite s.stores }.absorb moved).1
        ({ s with stores := Backend.beginWrite s.stores }.absorb moved).2
  | endWrite {w : Nat} {draw : Binary64} {job : Pool.Job} {due : Option Nat} {moved : Pool.Moved}
      (writes : s.stage? w = some (.writing job due))
      (step : s.pool.step? (.worker w { idleSupply draw with
        result := (Backend.write s.stores job.task.user job.task.coupon).1 }) = some moved) :
      Move s (.worker w draw)
        ({ s with stores :=
          (Backend.write s.stores job.task.user job.task.coupon).2 }.absorb moved).1
        ({ s with stores :=
          (Backend.write s.stores job.task.user job.task.coupon).2 }.absorb moved).2
  | work {w : Nat} {draw : Binary64} {moved : Pool.Moved}
      (apart : ∀ job due, s.stage? w ≠ some (.writing job due))
      (step : s.pool.step? (.worker w (idleSupply draw)) = some moved) :
      Move s (.worker w draw) (s.absorb moved).1 (s.absorb moved).2
  | manage {label : Label} {part : Pool.Label} {moved : Pool.Moved} (same : label.pool? = some part)
      (step : s.pool.step? part = some moved) :
      Move s label (s.absorb moved).1 (s.absorb moved).2
  | create {c : NewCoupon} {now : Moment} :
      Move s (.create c now) (s.openCoupon c now).1 (s.openCoupon c now).2
  | seed {coupon : CouponId} {c : Coupon}
      (found : s.unseeded.find? (·.id = coupon) = some c) :
      Move s (.seed coupon) ({ s with unseeded := s.unseeded.erase c }.seedCoupon c).2.1
        ({ s with unseeded := s.unseeded.erase c }.seedCoupon c).2.2
  | reseed {coupon : CouponId} : Move s (.reseed coupon) (s.reseed coupon).2.1 (s.reseed coupon).2.2
  | wait {ms : Nat} : Move s (.wait ms) (s.wait ms) []

variable {s t : Sale σ} {notes : List Note}

omit [Backend σ] in
theorem call?_number {call : Call} {number : Nat} (found : s.call? number = some call) :
    call.number = number := by
  simpa using List.find?_some found

theorem openCall_move {number : Nat} {user : UserId} {coupon : CouponId} {admin : Option UserId}
    (new : s.call? number = none) :
    Move s (.claim number user coupon admin) (s.openCall number user coupon admin).1
      (s.openCall number user coupon admin).2 := by
  unfold openCall
  split
  · rename_i known
    exact @Move.refuse σ _ s ⟨number, user, coupon, admin, _⟩ known
  · exact @Move.ask σ _ s ⟨number, user, coupon, admin, _⟩ _ _ rfl new

theorem callStep?_move {number : Nat} (step : s.callStep? number = some (t, notes)) :
    Move s (.call number) t notes := by
  unfold callStep? at step
  cases found : s.call? number with
  | none => simp [found] at step
  | some call =>
    have same := call?_number found
    subst same
    simp only [found] at step
    cases stage : call.stage with
    | asking due expiry =>
      simp only [stage, hear] at step
      split at step
      · rename_i ripe
        cases step
        exact .hear found stage ripe
      · split at step
        · rename_i late
          cases step
          exact .expire found stage late
        · contradiction
    | told verdict =>
      cases verdict with
      | error e =>
        simp only [stage, conclude] at step
        cases step
        exact .fail found stage
      | ok verdict =>
        simp only [stage, conclude] at step
        cases step
        exact .decide found stage

theorem workerStep?_move {w : Nat} {draw : Binary64}
    (step : s.workerStep? w draw = some (t, notes)) : Move s (.worker w draw) t notes := by
  unfold workerStep? at step
  split at step
  · rename_i job holds
    obtain ⟨moved, moves, same⟩ := Option.map_eq_some_iff.mp step
    cases same
    exact .beginWrite holds moves
  · rename_i job due writes
    split at step
    · obtain ⟨moved, moves, same⟩ := Option.map_eq_some_iff.mp step
      cases same
      exact .endWrite writes moves
    · contradiction
  · rename_i _ apart
    obtain ⟨moved, moves, same⟩ := Option.map_eq_some_iff.mp step
    cases same
    exact .work apart moves

theorem step?_move {label : Label} (step : s.step? label = some (t, notes)) :
    Move s label t notes := by
  have managed : ∀ {part : Pool.Label}, label.pool? = some part →
      (s.pool.step? part).map s.absorb = some (t, notes) → Move s label t notes := by
    intro part same step
    obtain ⟨moved, moves, ends⟩ := Option.map_eq_some_iff.mp step
    cases ends
    exact .manage same moves
  cases label with
  | claim number user coupon admin =>
    simp only [step?] at step
    split at step
    · contradiction
    · rename_i new
      have move : Move s (.claim number user coupon admin) _ _ :=
        openCall_move (by simpa using new)
      rwa [Option.some.inj step] at move
  | call number => exact callStep?_move step
  | worker w draw => exact workerStep?_move step
  | create c now =>
    have move : Move s (.create c now) _ _ := .create
    rwa [Option.some.inj step] at move
  | seed coupon =>
    simp only [step?, finishCoupon?] at step
    obtain ⟨c, found, ends⟩ := Option.map_eq_some_iff.mp step
    have move := Move.seed found
    rwa [ends] at move
  | reseed coupon =>
    have move : Move s (.reseed coupon) _ _ := .reseed
    rwa [Option.some.inj step] at move
  | wait ms =>
    cases step
    exact .wait
  | _ => exact managed rfl step

/-- A creation with nothing in between is a run of the moves it consists of, if its coupon is not
taken for another one that waits for its counter. -/
theorem create_leads {s : Sale σ} {c : NewCoupon} {now : Moment}
    (apart : ∀ coupon moved, s.writeCoupon c now = (.ok coupon, moved) →
      ∀ d ∈ s.unseeded, d.id ≠ coupon.id) :
    Leads step? s (s.create c now).2.2 (s.create c now).2.1 := by
  have opens : Leads step? s (s.openCoupon c now).2 (s.openCoupon c now).1 := by
    have begins : step? s (.create c now) = some (s.openCoupon c now) := rfl
    generalize s.openCoupon c now = moved at begins
    exact .next begins
  unfold create
  unfold openCoupon at opens
  cases wrote : s.writeCoupon c now with
  | mk answer moved =>
    obtain ⟨u, notes⟩ := moved
    rw [wrote] at opens
    cases answer with
    | error e => exact opens
    | ok coupon =>
      have same : u.unseeded = s.unseeded := by
        unfold writeCoupon at wrote
        cases valid : c.validate now with
        | error e => simp [valid] at wrote
        | ok =>
          simp only [valid, Prod.mk.injEq] at wrote
          rw [← wrote.2.1]
      have apart := apart coupon _ wrote
      rw [← same] at apart
      have unlisted : coupon ∉ u.unseeded := fun member => apart coupon member rfl
      have found : (u.unseeded ++ [coupon]).find? (·.id = coupon.id) = some coupon := by
        have none : u.unseeded.find? (·.id = coupon.id) = none := by simpa using apart
        simp [none]
      have ends : step? { u with unseeded := u.unseeded ++ [coupon] } (.seed coupon.id) =
          some (u.seedCoupon coupon).2 := by
        simp [step?, finishCoupon?, found, List.erase_append_right _ unlisted]
      exact opens.trans (.next ends)

end CouponSale.Sale

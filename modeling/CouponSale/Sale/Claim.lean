import CouponSale.Sale.State

/-!
One move of a claim. A flagged coupon is answered at once; otherwise the counter is asked, with
a limit on the wait. Only the counter's own verdict of being sold out sets the flag; a granted
claim becomes a task for the pool, and is a success whatever the pool does with it. A verdict
that comes just at the limit counts.
-/
namespace CouponSale.Sale

variable {σ : Type} [Backend σ]

/-- What the caller of a claim sees at its end. -/
def answerNotes (call : Call) (answer : Answer Outcome) : List Note :=
  match call.admin, answer with
  | some admin, .ok outcome =>
    [.granted admin call.user call.coupon outcome, .answered call.number answer]
  | _, _ => [.answered call.number answer]

def openCall (s : Sale σ) (number : Nat) (user : UserId) (coupon : CouponId)
    (admin : Option UserId) : Moved σ :=
  let due := s.now + Backend.reserveLatency s.stores
  let call : Call := ⟨number, user, coupon, admin, .asking due (s.now + s.reserveTimeout.limit)⟩
  if s.soldOut.check coupon then
    (s, .soldOutHit user coupon :: answerNotes call (.ok .outOfStock))
  else
    ({ s with stores := Backend.beginReserve s.stores, calls := s.calls ++ [call] }, [])

def reserveNotes (call : Call) : Answer Reservation → List Note
  | .ok _ => [.reserveEnded]
  | .error e => [.reserveEnded, .reserveFailed call.user call.coupon e]

/-- The verdict of the counter, or the end of the wait for it. -/
def hear (s : Sale σ) (call : Call) (due expiry : Nat) : Option (Moved σ) :=
  if due ≤ s.now then
    let (verdict, stores) := Backend.reserve s.stores call.coupon call.user
    some ({ s with stores }.setStage call.number (.told verdict), reserveNotes call verdict)
  else if expiry ≤ s.now then
    let verdict : Answer Reservation := .error (.counterTimeout s.reserveTimeout)
    some (s.setStage call.number (.told verdict), reserveNotes call verdict)
  else none

def flag (s : Sale σ) (coupon : CouponId) : Moved σ :=
  let (fresh, soldOut) := s.soldOut.mark coupon
  ({ s with soldOut }, if fresh then [.flagged coupon] else [])

/-- What a verdict entails beside the answer to the caller. -/
def follow (s : Sale σ) (call : Call) : Reservation → Moved σ
  | .outOfStock => s.flag call.coupon
  | .notSeeded => (s, [.notSeeded call.coupon])
  | .alreadyClaimed => (s, [])
  | .claimed => s.absorb (s.pool.submit (.fresh call.user call.coupon)).2

/-- Ends a claim that has its verdict. -/
def conclude (s : Sale σ) (call : Call) : Answer Reservation → Moved σ
  | .error e => (s.dropCall call.number, answerNotes call (.error e))
  | .ok verdict =>
    let (s, notes) := s.follow call verdict
    (s.dropCall call.number,
      notes ++ .decided call.user call.coupon verdict.outcome
        :: answerNotes call (.ok verdict.outcome))

/-- The move of a claim in progress; `none` while it waits, or when there is no such claim. -/
def callStep? (s : Sale σ) (number : Nat) : Option (Moved σ) :=
  match s.call? number with
  | none => none
  | some call =>
    match call.stage with
    | .asking due expiry => s.hear call due expiry
    | .told verdict => some (s.conclude call verdict)

end CouponSale.Sale

import CouponSale.Proofs.Trace
import CouponSale.Store.MemorySale

/-!
The front of a sale: all that claims depend on and change while they are answered. That is the
counter with its faults and its latency, the flags, and the limit on the wait; the pool and the
durable store are behind it. Asked for one thing after the other, a front gives each claim its
answer at once. The flags can be left out of account, and then every claim asks the counter.
-/
namespace CouponSale

structure Front where
  counter : Counter
  reserving : Service
  soldOut : SoldOut
  reserveTimeout : Span
  deriving DecidableEq

/-- Something asked of a front. -/
inductive Front.Request where
  /-- Sets the units that a counter has left. -/
  | seed (coupon : CouponId) (total : Int)
  /-- So many of the next reservations fail. -/
  | fail (count : Nat)
  | delay (latency : Option Span)
  | claim (user : UserId) (coupon : CouponId)
  deriving DecidableEq

/-- A request and the front that it found. -/
structure Front.Sight where
  request : Request
  front : Front
  deriving DecidableEq

/-- Whose claim a request is, and for what. -/
def Front.Request.claim? : Request → Option (UserId × CouponId)
  | .claim user coupon => some (user, coupon)
  | _ => none

def Front.Request.seeded? : Request → Option CouponId
  | .seed coupon _ => some coupon
  | _ => none

namespace Front

def new (reserveTimeout : Span) : Front := ⟨.empty, .new, .empty, reserveTimeout⟩

/-- A reservation that begins now is answered before the wait for it ends. -/
def answers (f : Front) : Bool := f.reserving.wait?.getD 0 ≤ f.reserveTimeout.limit

theorem answers_iff {f : Front} :
    f.answers = true ↔ f.reserving.wait?.getD 0 ≤ f.reserveTimeout.limit :=
  decide_eq_true_iff

def begin (f : Front) : Front := { f with reserving := f.reserving.begin }

/-- The counter decides: a failure that is due, or its verdict. -/
def reserve (f : Front) (user : UserId) (coupon : CouponId) : Answer Reservation × Front :=
  match f.reserving.failing with
  | n + 1 => (.error Memory.reserveFault, { f with reserving := { f.reserving with failing := n } })
  | 0 => (.ok (f.counter.reserve coupon user).1,
      { f with counter := (f.counter.reserve coupon user).2 })

/-- What a claim that asks the counter is told. -/
def hear (f : Front) (user : UserId) (coupon : CouponId) : Answer Reservation × Front :=
  if f.answers then f.reserve user coupon else (.error (.counterTimeout f.reserveTimeout), f)

/-- Takes note of what a claim was told. -/
def conclude (f : Front) (coupon : CouponId) : Answer Reservation → Front
  | .ok .outOfStock => { f with soldOut := (f.soldOut.mark coupon).2 }
  | _ => f

/-- A claim that asks the counter, whatever the flags say. -/
def ask (f : Front) (user : UserId) (coupon : CouponId) : Answer Outcome × Front :=
  let told := f.begin.hear user coupon
  (told.1.map Reservation.outcome, told.2.conclude coupon told.1)

/-- A claim, which looks at the flags first if they are on. -/
def claim (flags : Bool) (f : Front) (user : UserId) (coupon : CouponId) : Answer Outcome × Front :=
  if flags && f.soldOut.check coupon then (.ok .outOfStock, f) else f.ask user coupon

/-- The front after a request. -/
def after (flags : Bool) (f : Front) : Request → Front
  | .seed coupon total => { f with counter := f.counter.seed coupon total }
  | .fail failing => { f with reserving := { f.reserving with failing } }
  | .delay latency => { f with reserving := { f.reserving with latency } }
  | .claim user coupon => (f.claim flags user coupon).2

/-- The answer to a request, if it is a claim. -/
def answer? (flags : Bool) (f : Front) : Request → Option (Answer Outcome)
  | .claim user coupon => some (f.claim flags user coupon).1
  | _ => none

/-- The front after some requests. -/
def served (flags : Bool) (f : Front) (requests : List Request) : Front :=
  requests.foldl (after flags) f

/-- The answers to some requests. -/
def told (flags : Bool) (f : Front) : List Request → List (Answer Outcome)
  | [] => []
  | r :: rs => (f.answer? flags r).toList ++ told flags (f.after flags r) rs

/-- What each of some requests finds. -/
def sights (flags : Bool) (f : Front) : List Request → List Sight
  | [] => []
  | r :: rs => ⟨r, f⟩ :: sights flags (f.after flags r) rs

variable (flags : Bool) (f : Front)

theorem served_append (earlier later : List Request) :
    f.served flags (earlier ++ later) = (f.served flags earlier).served flags later :=
  List.foldl_append

theorem told_append (earlier later : List Request) :
    f.told flags (earlier ++ later) =
      f.told flags earlier ++ (f.served flags earlier).told flags later := by
  induction earlier generalizing f with
  | nil => rfl
  | cons r rs ih =>
    simp only [List.cons_append, told, ih, List.append_assoc, served, List.foldl_cons]

theorem sights_append (earlier later : List Request) :
    f.sights flags (earlier ++ later) =
      f.sights flags earlier ++ (f.served flags earlier).sights flags later := by
  induction earlier generalizing f with
  | nil => rfl
  | cons r rs ih => simp only [List.cons_append, sights, ih, served, List.foldl_cons]

/-- Each claim among some requests has its answer. -/
theorem length_told (requests : List Request) :
    (f.told flags requests).length = (requests.filterMap Request.claim?).length := by
  induction requests generalizing f with
  | nil => rfl
  | cons r rs ih => cases r <;> simp [told, answer?, Request.claim?, List.filterMap_cons, ih]

theorem requests_sights (requests : List Request) :
    (f.sights flags requests).map Sight.request = requests := by
  induction requests generalizing f with
  | nil => rfl
  | cons r rs ih => rw [sights, List.map_cons, ih]

end Front

/-- What claims can tell of a sale over stores in memory. -/
def Sale.front (s : Sale Memory) : Front :=
  ⟨s.stores.counter, s.stores.reserving, s.soldOut, s.reserveTimeout⟩

/-- Opens a claim that asks the counter, whatever the flags say. -/
def Sale.askCounter (s : Sale Memory) (number : Nat) (user : UserId) (coupon : CouponId)
    (admin : Option UserId) : Sale.Moved Memory :=
  let due := s.now + Backend.reserveLatency s.stores
  let call : Call := ⟨number, user, coupon, admin, .asking due (s.now + s.reserveTimeout.limit)⟩
  ({ s with stores := Backend.beginReserve s.stores, calls := s.calls ++ [call] }, [])

/-- A claim either is answered by the flags or asks the counter. -/
theorem Sale.openCall_eq (s : Sale Memory) (number : Nat) (user : UserId) (coupon : CouponId)
    (admin : Option UserId) (stage : Call.Stage) :
    s.openCall number user coupon admin = if s.soldOut.check coupon then
      (s, .soldOutHit user coupon :: answerNotes ⟨number, user, coupon, admin, stage⟩
        (.ok .outOfStock))
    else s.askCounter number user coupon admin := rfl

/-- At a time `now`, has not been left alone past the end of its wait until the late verdict was
there. -/
def Call.punctual (now : Nat) (call : Call) : Bool :=
  match call.stage with
  | .asking due expiry => due ≤ expiry || now < due
  | .told _ => true

namespace SeededSale

/-- A move of a sale over stores in memory, or a seeding of its counter by hand. -/
inductive Label where
  | sale (label : MemorySale.Label)
  | seed (coupon : CouponId) (total : Int)

/-- The move a label stands for. Without the flags a claim always asks the counter. -/
def step? (flags : Bool) (s : Sale Memory) : Label → Option (Sale.Moved Memory)
  | .seed coupon total =>
    some ({ s with stores := { s.stores with counter := s.stores.counter.seed coupon total } }, [])
  | .sale (.move (.claim number user coupon admin)) =>
    if flags then MemorySale.step? s (.move (.claim number user coupon admin))
    else if (s.call? number).isSome then none
    else some (s.askCounter number user coupon admin)
  | .sale label => MemorySale.step? s label

/-- What a move asks of the front. To end the creation of a coupon and to seed one again are to
seed its counter. -/
def request? (s : Sale Memory) : Label → Option Front.Request
  | .seed coupon total => some (.seed coupon total)
  | .sale (.set (.failReserves count)) => some (.fail count)
  | .sale (.set (.delayReserves latency)) => some (.delay latency)
  | .sale (.move (.claim _ user coupon _)) => some (.claim user coupon)
  | .sale (.move (.seed coupon)) =>
    (s.unseeded.find? (·.id = coupon)).map fun c => .seed c.id c.total
  | .sale (.move (.reseed coupon)) =>
    (s.stores.ledger.find? coupon).map fun c => .seed coupon c.stock
  | _ => none

/-- One request after the other, each when the claim before it is answered; and a clock that leaves
no claim alone past its limit until the late verdict is there. -/
def permits (s : Sale Memory) : Label → Bool
  | .sale (.move (.wait ms)) => s.calls.all (·.punctual (s.now + ms))
  | label => (request? s label).isNone || s.calls.isEmpty

/-- The moves of a sale that is asked for one thing after the other. The pool and the durable store
move as they please. -/
def orderly? (flags : Bool) (s : Sale Memory) (label : Label) : Option (Sale.Moved Memory) :=
  if permits s label then step? flags s label else none

abbrev Move := Transition (Sale Memory) Label Note

/-- What some moves asked of the front, in order. -/
def requests (moves : List Move) : List Front.Request :=
  moves.filterMap fun move => request? move.before move.label

/-- What each request found, in order. -/
def sights (moves : List Move) : List Front.Sight :=
  moves.filterMap fun move => (request? move.before move.label).map (⟨·, move.before.front⟩)

end SeededSale
end CouponSale

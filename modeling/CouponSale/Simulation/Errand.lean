import CouponSale.Simulation.Round

/-!
The errands of a caller, each with its reply. After the reply everyone else moves until they
wait; the clock does not move any more.
-/
namespace CouponSale.Simulation

variable {σ : Type} [Backend σ]

abbrev Replied (σ α : Type) := α × Simulation σ

def atOnce {α : Type} (s : Simulation σ) (reply : α) (moved : Sale.Moved σ) : Replied σ α :=
  (reply, (s.take .caller moved).run .free)

def answerOf (s : Simulation σ) (number : Nat) : Answer Outcome :=
  (s.answers.lookup number).getD (.error .poolStopped)

def claim (s : Simulation σ) (user : UserId) (coupon : CouponId) (admin : Option UserId) :
    Replied σ (Answer Outcome) :=
  let number := s.nextNumber
  let s := { s with answers := [], errand := .claim number, nextNumber := number + 1 }
  let s := s.take .caller (s.sale.openCall number user coupon admin)
  let s := s.newRound
  let s := turns s.turnsLeft s
  (s.answerOf number, s)

def claimAll (s : Simulation σ) (pairs : List (UserId × CouponId)) :
    Replied σ (List (Answer Outcome)) :=
  let first := s.nextNumber
  let s := pairs.foldl (fun s (user, coupon) => s.spawn user coupon) { s with answers := [] }
  let s := s.run (.answers pairs.length)
  ((List.range pairs.length).map (fun i => s.answerOf (first + i)), s)

/-- Makes the claims of the users from one on, so many at a time. -/
def burst (s : Simulation σ) (coupon : CouponId) (users : Int) (concurrency : Nat) :
    Replied σ Tally :=
  let s := s.run (.burst (.new coupon users concurrency))
  (Tally.ofAnswers (s.answers.map (·.2)), s)

/-- Waits until every accepted task has reached an end, no longer than one has patience. -/
def drain (s : Simulation σ) (patience : Span) : Replied σ Bool :=
  let s := s.run (.drain (s.sale.pool.watch patience))
  let inTime := match s.errand with
    | .drain (.ended inTime) => inTime
    | _ => false
  (inTime, s)

def sleep (s : Simulation σ) (time : Span) : Replied σ Unit :=
  ((), s.run (.sleep (s.now + time.pause)))

def submit (s : Simulation σ) (task : Task) : Replied σ (Answer Unit) :=
  let (answer, moved) := s.sale.pool.submit task
  s.atOnce answer (s.sale.absorb moved)

def start (s : Simulation σ) : Replied σ (Answer Unit) :=
  let (answer, moved) := s.sale.pool.start
  s.atOnce answer (s.sale.absorb moved)

def stop (s : Simulation σ) : Replied σ Pool.Stats :=
  let s := { s with errand := .stop, answers := [] }
  let s := s.take .caller (s.sale.absorb s.sale.pool.stop)
  let s := s.newRound
  let s := turns s.turnsLeft s
  (s.sale.pool.stats, s)

def create (s : Simulation σ) (coupon : NewCoupon) (now : Moment) : Replied σ (Answer Coupon) :=
  let (answer, moved) := s.sale.create coupon now
  s.atOnce answer moved

def get (s : Simulation σ) (coupon : CouponId) : Replied σ (Answer Coupon) :=
  let (answer, moved) := s.sale.get coupon
  s.atOnce answer moved

def reseed (s : Simulation σ) (coupon : CouponId) : Replied σ (Answer Int) :=
  let (answer, moved) := s.sale.reseed coupon
  s.atOnce answer moved

def claimsOf (s : Simulation σ) (user : UserId) : Replied σ (Answer (List ClaimRecord)) :=
  let (answer, moved) := s.sale.claimsOf user
  s.atOnce answer moved

/-- Sets the flag of a coupon by hand. -/
def mark (s : Simulation σ) (coupon : CouponId) : Replied σ Bool :=
  s.atOnce (!s.sale.soldOut.check coupon) (s.sale.flag coupon)

/-- Reserves at the counter, past the orchestration of a claim. -/
def reserve (s : Simulation σ) (coupon : CouponId) (user : UserId) :
    Replied σ (Answer Reservation) :=
  let due := s.now + Backend.reserveLatency s.sale.stores
  let s := { s with sale := { s.sale with stores := Backend.beginReserve s.sale.stores } }
  let s := s.run (.ask (.reserve coupon user) due)
  let answer := match s.errand with
    | .told (.reserved answer) => answer
    | _ => .ok .notSeeded
  (answer, s)

/-- Writes a claim durably, past the pool. -/
def write (s : Simulation σ) (user : UserId) (coupon : CouponId) : Replied σ (Answer Persisted) :=
  let due := s.now + (Backend.writeLatency s.sale.stores).getD 0
  let s := { s with sale := { s.sale with stores := Backend.beginWrite s.sale.stores } }
  let s := s.run (.ask (.write user coupon) due)
  let answer := match s.errand with
    | .told (.written answer) => answer
    | _ => .ok .alreadyThere
  (answer, s)

def withStores {α : Type} (s : Simulation σ) (f : σ → α × σ) : Replied σ α :=
  let (reply, stores) := f s.sale.stores
  (reply, { s with sale := { s.sale with stores } })

/-- Hands out what happened since the last time, in order. -/
def takeNotes (s : Simulation σ) : Replied σ (List Note) :=
  (s.notes.reverse, { s with notes := [] })

end CouponSale.Simulation

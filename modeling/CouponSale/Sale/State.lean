import CouponSale.Pool.Step
import CouponSale.Sale.Backend

/-!
A sale: its stores, the pool that writes claims durably, the flags of exhausted coupons, the
claims that wait for the counter, and the coupons about to get one. The clock of the sale is the
pool's.
-/
namespace CouponSale

inductive Call.Stage where
  /-- Waits for the counter, whose verdict comes at time `due`, no longer than to `expiry`. -/
  | asking (due expiry : Nat)
  | told (verdict : Answer Reservation)
  deriving Repr, Inhabited

structure Call where
  number : Nat
  user : UserId
  coupon : CouponId
  /-- Who grants the coupon to the user, if it is not the user's own claim. -/
  admin : Option UserId
  stage : Call.Stage
  deriving Repr, Inhabited

structure Sale (σ : Type) where
  pool : Pool
  stores : σ
  soldOut : SoldOut
  calls : List Call
  /-- Coupons that were written and whose counters are to be seeded next. -/
  unseeded : List Coupon
  /-- How long a claim waits for the counter. -/
  reserveTimeout : Span
  deriving Inhabited

namespace Sale

variable {σ : Type}

def new (config : Pool.Config) (reserveTimeout : Span) (stores : σ) : Sale σ where
  pool := .new config
  stores := stores
  soldOut := .empty
  calls := []
  unseeded := []
  reserveTimeout := reserveTimeout

/-- The wait for the counter unless another is set. -/
def standardTimeout : Span := .ofMillis 500

/-- What an action leaves behind: the sale and the notes of what happened. -/
abbrev Moved (σ : Type) := Sale σ × List Note

def now (s : Sale σ) : Nat := s.pool.now

def call? (s : Sale σ) (number : Nat) : Option Call := s.calls.find? (·.number = number)

def dropCall (s : Sale σ) (number : Nat) : Sale σ :=
  { s with calls := s.calls.filter (·.number ≠ number) }

def setStage (s : Sale σ) (number : Nat) (stage : Call.Stage) : Sale σ :=
  { s with calls := s.calls.map (fun c => if c.number = number then { c with stage } else c) }

/-- Files the dead letters among some notes, each right where it arose. A letter that cannot be
filed is reported and gone. -/
def fileLetters [Backend σ] (stores : σ) : List Note → σ × List Note
  | [] => (stores, [])
  | .deadLettered job reason lastError :: rest =>
    let letter : DeadLetter := ⟨job.task, reason, lastError⟩
    let (answer, stores, own) := Backend.file stores letter
    let lost : List Note := match answer with
      | .ok () => []
      | .error e => [.letterLost letter e]
    let (stores, more) := fileLetters stores rest
    (stores, .deadLettered job reason lastError :: own ++ lost ++ more)
  | note :: rest =>
    let (stores, more) := fileLetters stores rest
    (stores, note :: more)

/-- Takes up what a move of the pool left behind. -/
def absorb [Backend σ] (s : Sale σ) (moved : Pool.Moved) : Moved σ :=
  let (stores, notes) := fileLetters s.stores moved.2
  ({ s with pool := moved.1, stores }, notes)

end Sale
end CouponSale

import CouponSale.Claim

/-!
The demonstration sale: the coupon it puts up, and the tally of the answers to a burst of
claims.
-/
namespace CouponSale

structure Tally where
  success : Nat
  alreadyClaimed : Nat
  outOfStock : Nat
  transientError : Nat
  invalidRequest : Nat
  deriving DecidableEq, Repr, Inhabited

namespace Tally

def empty : Tally := ⟨0, 0, 0, 0, 0⟩

def record (t : Tally) (answer : Answer Outcome) : Tally :=
  match ResponseCode.ofAnswer answer with
  | .success => { t with success := t.success + 1 }
  | .alreadyClaimed => { t with alreadyClaimed := t.alreadyClaimed + 1 }
  | .outOfStock => { t with outOfStock := t.outOfStock + 1 }
  | .transientError => { t with transientError := t.transientError + 1 }
  | .invalidRequest => { t with invalidRequest := t.invalidRequest + 1 }

def ofAnswers (answers : List (Answer Outcome)) : Tally := answers.foldl record empty

def total (t : Tally) : Nat :=
  t.success + t.alreadyClaimed + t.outOfStock + t.transientError + t.invalidRequest

def entry (name : String) (n : Nat) : String := name ++ "=" ++ Decimal.text n

def text (t : Tally) : String :=
  String.intercalate " "
    [entry "total" t.total, entry "success" t.success, entry "already_claimed" t.alreadyClaimed,
     entry "out_of_stock" t.outOfStock, entry "transient_error" t.transientError,
     entry "invalid_request" t.invalidRequest]

end Tally

/-- The coupon of the demonstration, on sale for an hour from `now`. -/
def demoCoupon (now : Moment) (stock : Int) : NewCoupon where
  name := "Flash sale demo"
  total := stock
  amount := 500
  start := now
  finish := now.addSeconds 3600

end CouponSale

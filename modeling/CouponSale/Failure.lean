import CouponSale.Coupon
import CouponSale.Time.Span

/-!
What can go wrong, as causes with their texts. Being sold out or holding the coupon already is
no failure: those are outcomes of a claim.
-/
namespace CouponSale

inductive Failure where
  /-- A request that no store is asked about. -/
  | invalid (reason : String)
  | couponNotFound (coupon : CouponId)
  | counterUnavailable (reason : String)
  | counterTimeout (after : Span)
  /-- The durable stock is used up although the counter granted a unit. -/
  | stockDrift (coupon : CouponId)
  | database (reason : String)
  | queueFull
  | poolStopped
  deriving DecidableEq, Repr, Inhabited

namespace Failure

def message : Failure → String
  | invalid reason => "Validation failed: " ++ reason
  | couponNotFound coupon => "Coupon " ++ coupon.text ++ " not found"
  | counterUnavailable reason => "Counter service unavailable: " ++ reason
  | counterTimeout after => "Counter service timed out after " ++ after.text
  | stockDrift coupon => "Durable stock for coupon " ++ coupon.text ++ " is exhausted"
  | database reason => "Database error: " ++ reason
  | queueFull => "Persistence queue is full"
  | poolStopped => "Persistence worker pool is stopped"

/-- Trying the same again later may succeed. -/
def isTransient : Failure → Bool
  | counterUnavailable _ | counterTimeout _ | database _ | queueFull => true
  | _ => false

end Failure

abbrev Answer (α : Type) := Except Failure α

/-- A request is accepted when it has no flaw. -/
def NewCoupon.validate (c : NewCoupon) (now : Moment) : Answer Unit :=
  match c.flaw? now with
  | some flaw => .error (.invalid flaw.text)
  | none => .ok ()

end CouponSale

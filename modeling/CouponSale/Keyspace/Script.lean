import CouponSale.Claim
import CouponSale.Keyspace.Numeral
import CouponSale.Keyspace.Store

/-!
The reservation script. It runs on the keyspace without interruption: it looks for the user
among the claimed, reads the stock as a number, and only then takes a unit off and adds the user.
A refused command ends the script; what was written before stays.
-/
namespace CouponSale.Script

def stockKey (coupon : CouponId) : String := "coupon:" ++ coupon.text ++ ":stock"

def claimedKey (coupon : CouponId) : String := "coupon:" ++ coupon.text ++ ":claimed"

/-- The number zero that a stock is compared with. -/
def zero : Binary64 := .finite false 0

/-- Takes a unit off the stock and adds the user. -/
def grant (k : Keyspace) (coupon : CouponId) (user : UserId) : Reply Int × Keyspace :=
  match k.decrement (stockKey coupon) with
  | (.error e, k) => (.error e, k)
  | (.ok _, k) =>
    match k.addMember (claimedKey coupon) user.text with
    | (.error e, k) => (.error e, k)
    | (.ok _, k) => (.ok 1, k)

/-- Reserves a unit of a coupon for a user. The reply is one for a reservation, zero for a user
who holds one, minus one for an empty stock and minus two for a stock that is no number. -/
def reserve (k : Keyspace) (coupon : CouponId) (user : UserId) : Reply Int × Keyspace :=
  match k.isMember (claimedKey coupon) user.text with
  | .error e => (.error e, k)
  | .ok true => (.ok 0, k)
  | .ok false =>
    match k.get (stockKey coupon) with
    | .error e => (.error e, k)
    | .ok value =>
      match value.bind (Numeral.read? ·.toList) with
      | none => (.ok (-2), k)
      | some stock => if stock.atMost zero then (.ok (-1), k) else grant k coupon user

def verdict? (reply : Int) : Option Reservation :=
  if reply = 1 then some .claimed
  else if reply = 0 then some .alreadyClaimed
  else if reply = -1 then some .outOfStock
  else if reply = -2 then some .notSeeded
  else none

end CouponSale.Script

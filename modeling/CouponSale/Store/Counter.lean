import CouponSale.Claim
import CouponSale.Keyed

/-!
The counter: for each coupon that was seeded, the units left and the users who reserved one. A
reservation checks the user before the stock and changes both or neither.
-/
namespace CouponSale

structure Tab where
  stock : Int
  /-- The users who hold a reservation, each once, the latest first. -/
  claimed : List UserId
  deriving DecidableEq, Repr, Inhabited

structure Counter where
  tabs : List (CouponId × Tab)
  deriving DecidableEq, Repr, Inhabited

namespace Counter

def empty : Counter := ⟨[]⟩

def tab? (k : Counter) (coupon : CouponId) : Option Tab := k.tabs.lookup coupon

def put (k : Counter) (coupon : CouponId) (tab : Tab) : Counter := ⟨Keyed.put coupon tab k.tabs⟩

@[simp] theorem tab?_put (k : Counter) (a b : CouponId) (tab : Tab) :
    (k.put a tab).tab? b = if b = a then some tab else k.tab? b :=
  Keyed.lookup_put a b tab k.tabs

def reserve (k : Counter) (coupon : CouponId) (user : UserId) : Reservation × Counter :=
  match k.tab? coupon with
  | none => (.notSeeded, k)
  | some tab =>
    if tab.claimed.contains user then (.alreadyClaimed, k)
    else if tab.stock ≤ 0 then (.outOfStock, k)
    else (.claimed, k.put coupon ⟨tab.stock - 1, user :: tab.claimed⟩)

/-- Sets the units left; who holds a reservation stays. -/
def seed (k : Counter) (coupon : CouponId) (total : Int) : Counter :=
  k.put coupon ⟨total, ((k.tab? coupon).map Tab.claimed).getD []⟩

/-- The units left, if the coupon was seeded. -/
def remaining? (k : Counter) (coupon : CouponId) : Option Int := (k.tab? coupon).map Tab.stock

def hasClaimed (k : Counter) (coupon : CouponId) (user : UserId) : Bool :=
  ((k.tab? coupon).map (·.claimed.contains user)).getD false

def claimedCount (k : Counter) (coupon : CouponId) : Nat :=
  ((k.tab? coupon).map (·.claimed.length)).getD 0

end Counter
end CouponSale

import CouponSale.Sale.State

/-!
Administration of coupons: creating one, which seeds its counter, and seeding a counter again
from the durable stock.
-/
namespace CouponSale.Sale

variable {σ : Type} [Backend σ]

/-- An answer, the sale after it, and the notes of what happened. -/
abbrev Answered (σ α : Type) := Answer α × Moved σ

/-- Checks a request and writes the coupon. -/
def writeCoupon (s : Sale σ) (c : NewCoupon) (now : Moment) : Answered σ Coupon :=
  match c.validate now with
  | .error e => (.error e, s, [])
  | .ok () =>
    let (answer, stores, notes) := Backend.create s.stores c
    (answer, { s with stores }, notes)

/-- Seeds the counter of a coupon that was just written. When that fails the coupon stays, without
a counter. -/
def seedCoupon (s : Sale σ) (coupon : Coupon) : Answered σ Coupon :=
  match Backend.seed s.stores coupon.id coupon.total with
  | (.error e, stores, notes) => (.error e, { s with stores }, notes ++ [.seedingFailed coupon e])
  | (.ok (), stores, notes) => (.ok coupon, { s with stores }, notes ++ [.couponCreated coupon])

/-- Checks a request, writes the coupon and seeds its counter, with nothing in between. -/
def create (s : Sale σ) (c : NewCoupon) (now : Moment) : Answered σ Coupon :=
  match s.writeCoupon c now with
  | (.error e, moved) => (.error e, moved)
  | (.ok coupon, s, notes) =>
    let (answer, s, more) := s.seedCoupon coupon
    (answer, s, notes ++ more)

/-- Begins a creation: writes the coupon, whose counter is to be seeded next. -/
def openCoupon (s : Sale σ) (c : NewCoupon) (now : Moment) : Moved σ :=
  match s.writeCoupon c now with
  | (.error _, moved) => moved
  | (.ok coupon, s, notes) => ({ s with unseeded := s.unseeded ++ [coupon] }, notes)

/-- Ends a creation that has written its coupon; `none` when there is no such creation. -/
def finishCoupon? (s : Sale σ) (coupon : CouponId) : Option (Moved σ) :=
  (s.unseeded.find? (·.id = coupon)).map fun c =>
    ({ s with unseeded := s.unseeded.erase c }.seedCoupon c).2

def get (s : Sale σ) (coupon : CouponId) : Answered σ Coupon :=
  let (answer, stores) := Backend.find s.stores coupon
  (answer, { s with stores }, [])

/-- Seeds the counter of a coupon from its durable stock. -/
def reseed (s : Sale σ) (coupon : CouponId) : Answered σ Int :=
  match Backend.find s.stores coupon with
  | (.error e, stores) => (.error e, { s with stores }, [])
  | (.ok c, stores) =>
    match Backend.seed stores coupon c.stock with
    | (.error e, stores, notes) => (.error e, { s with stores }, notes)
    | (.ok (), stores, notes) =>
      (.ok c.stock, { s with stores }, notes ++ [.reseeded coupon c.stock])

def claimsOf (s : Sale σ) (user : UserId) : Answered σ (List ClaimRecord) :=
  let (answer, stores) := Backend.claimsOf s.stores user
  (answer, { s with stores }, [])

end CouponSale.Sale

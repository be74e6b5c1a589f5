import CouponSale.Failure

/-!
Claims: the counter's verdict on a reservation, the outcome shown to the caller, the code handed
to the routing layer, and the row that records a claim durably.
-/
namespace CouponSale

/-- The counter's verdict on a reservation. Only `claimed` changes the counter. -/
inductive Reservation where
  | claimed
  | alreadyClaimed
  | outOfStock
  | notSeeded
  deriving DecidableEq, Repr, Inhabited

inductive Outcome where
  | success
  | alreadyClaimed
  | outOfStock
  deriving DecidableEq, Repr, Inhabited

inductive ResponseCode where
  | success
  | alreadyClaimed
  | outOfStock
  | transientError
  | invalidRequest
  deriving DecidableEq, Repr, Inhabited

inductive Persisted where
  | written
  | alreadyThere
  deriving DecidableEq, Repr, Inhabited

inductive ClaimStatus where
  | unused
  | used
  | expired
  deriving DecidableEq, Repr, Inhabited

/-- A durable claim row; a user holds at most one for a coupon. -/
structure ClaimRecord where
  user : UserId
  coupon : CouponId
  status : ClaimStatus
  claimed : Moment
  deriving DecidableEq, Repr, Inhabited

/-- A coupon without a counter counts as sold out. -/
def Reservation.outcome : Reservation → Outcome
  | claimed => .success
  | alreadyClaimed => .alreadyClaimed
  | outOfStock | notSeeded => .outOfStock

namespace Outcome

def label : Outcome → String
  | success => "success"
  | alreadyClaimed => "already_claimed"
  | outOfStock => "out_of_stock"

def all : List Outcome := [success, alreadyClaimed, outOfStock]

def ofLabel? (s : String) : Option Outcome := all.find? (·.label = s)

def toJson (o : Outcome) : Json := .str o.label

def ofJson? (v : Json) : Option Outcome := v.label?.bind ofLabel?

end Outcome

namespace ResponseCode

def label : ResponseCode → String
  | success => "success"
  | alreadyClaimed => "already_claimed"
  | outOfStock => "out_of_stock"
  | transientError => "transient_error"
  | invalidRequest => "invalid_request"

def all : List ResponseCode := [success, alreadyClaimed, outOfStock, transientError, invalidRequest]

def ofLabel? (s : String) : Option ResponseCode := all.find? (·.label = s)

def toJson (r : ResponseCode) : Json := .str r.label

def ofJson? (v : Json) : Option ResponseCode := v.label?.bind ofLabel?

/-- The code of an answer: an outcome has its own, a failure is either worth another try or a
bad request. -/
def ofAnswer : Answer Outcome → ResponseCode
  | .ok .success => success
  | .ok .alreadyClaimed => alreadyClaimed
  | .ok .outOfStock => outOfStock
  | .error e => if e.isTransient then transientError else invalidRequest

end ResponseCode

namespace ClaimStatus

def label : ClaimStatus → String
  | unused => "unused"
  | used => "used"
  | expired => "expired"

def all : List ClaimStatus := [unused, used, expired]

def ofLabel? (s : String) : Option ClaimStatus := all.find? (·.label = s)

def parse (s : String) : Answer ClaimStatus :=
  match ofLabel? s with
  | some status => .ok status
  | none => .error (.database ("Invalid claim status: " ++ s))

def toJson (s : ClaimStatus) : Json := .str s.label

def ofJson? (v : Json) : Option ClaimStatus := v.label?.bind ofLabel?

end ClaimStatus

namespace ClaimRecord

def fields : List String := ["user_id", "coupon_id", "status", "claimed_at"]

def toJson (r : ClaimRecord) : Json :=
  .obj [("user_id", r.user.toJson), ("coupon_id", r.coupon.toJson), ("status", r.status.toJson),
    ("claimed_at", .ofMoment r.claimed)]

def ofJson? (v : Json) : Option ClaimRecord := do
  let [user, coupon, status, claimed] ← v.record? fields | none
  some {
    user := ← UserId.ofJson? user
    coupon := ← CouponId.ofJson? coupon
    status := ← ClaimStatus.ofJson? status
    claimed := ← claimed.moment? }

end ClaimRecord
end CouponSale

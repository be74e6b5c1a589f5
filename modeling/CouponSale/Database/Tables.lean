import CouponSale.Task
import CouponSale.Text.Decimal

/-!
The rows that the durable store keeps: coupons, claims against them, and dead letters. What a
column or a check admits is decidable on the row.
-/
namespace CouponSale

/-- A text without the character U+0000, as a text column has to be. -/
def isColumnText (s : String) : Bool := !s.toList.contains (Char.ofNat 0)

/-- The columns and checks of a coupon's row. The window has to be open on the stored times. That a
time column takes the times at all is assumed of them: it begins with the year 4713 BC, long before
any sale. -/
def Coupon.Fits (c : Coupon) : Prop :=
  c.name.length ≤ Coupon.nameLimit ∧ 0 < c.total ∧ 0 ≤ c.stock ∧ 0 ≤ c.amount ∧
    c.start < c.finish ∧ c.stock ≤ c.total

instance (c : Coupon) : Decidable c.Fits := inferInstanceAs (Decidable (_ ∧ _))

structure ClaimRow where
  user : UserId
  coupon : CouponId
  status : String
  claimed : Moment
  deriving DecidableEq, Repr, Inhabited

/-- The claim a row stands for, if its status is one. -/
def ClaimRow.read (r : ClaimRow) : Answer ClaimRecord :=
  match ClaimStatus.parse r.status with
  | .ok status => .ok ⟨r.user, r.coupon, status, r.claimed⟩
  | .error e => .error e

structure LetterRow where
  id : Int
  user : UserId
  coupon : CouponId
  reason : GiveUp
  lastError : Option String
  retries : Nat
  enqueued : Moment
  failed : Moment
  status : LetterStatus
  /-- When the row left `pending`, and with which notes. -/
  resolved : Option Moment
  notes : Option String
  deriving DecidableEq, Repr, Inhabited

structure Tables where
  /-- By number. -/
  coupons : List Coupon
  /-- The latest first. -/
  claims : List ClaimRow
  /-- By number. -/
  letters : List LetterRow
  deriving DecidableEq, Repr, Inhabited

namespace Tables

def empty : Tables := ⟨[], [], []⟩

def coupon? (t : Tables) (coupon : CouponId) : Option Coupon := t.coupons.find? (·.id = coupon)

def hasClaim (t : Tables) (user : UserId) (coupon : CouponId) : Bool :=
  t.claims.any (fun r => r.user = user ∧ r.coupon = coupon)

/-- Takes one unit off the stock of a coupon that has one; the answer says whether it did. -/
def takeUnit (t : Tables) (coupon : CouponId) : Bool × Tables :=
  let takes (c : Coupon) : Bool := c.id = coupon ∧ 0 < c.stock
  let less (c : Coupon) : Coupon := if takes c then { c with stock := c.stock - 1 } else c
  (t.coupons.any takes, { t with coupons := t.coupons.map less })

/-- The dead letters that still wait to be settled, by number. -/
def pending (t : Tables) : List LetterRow := t.letters.filter (·.status = .pending)

end Tables
end CouponSale

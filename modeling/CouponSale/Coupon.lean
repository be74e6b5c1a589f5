import CouponSale.Json.Fields
import CouponSale.Text.Blank

/-!
Coupons: what an administrator asks for, and what the store keeps.
-/
namespace CouponSale

structure CouponId where
  number : Int
  deriving DecidableEq, Repr, Inhabited, Hashable

/-- The number a user is known by; it comes from outside. -/
structure UserId where
  number : Int
  deriving DecidableEq, Repr, Inhabited, Hashable

def CouponId.text (c : CouponId) : String := Decimal.text c.number

def UserId.text (u : UserId) : String := Decimal.text u.number

structure NewCoupon where
  name : String
  total : Int
  amount : Int
  start : Moment
  finish : Moment
  deriving DecidableEq, Repr, Inhabited

/-- A coupon of limited number, as the durable store keeps it. -/
structure Coupon where
  id : CouponId
  name : String
  total : Int
  stock : Int
  amount : Int
  start : Moment
  finish : Moment
  created : Moment
  deriving DecidableEq, Repr, Inhabited

namespace Coupon

/-- The longest name, in characters. -/
def nameLimit : Nat := 128

end Coupon

inductive Flaw where
  | nameEmpty
  | nameTooLong
  | totalNotPositive (total : Int)
  | amountNegative (amount : Int)
  | windowEmpty
  | windowOver
  deriving DecidableEq, Repr

def Flaw.text : Flaw → String
  | nameEmpty => "coupon name must not be empty"
  | nameTooLong => "coupon name must be at most " ++ Decimal.text Coupon.nameLimit ++ " characters"
  | totalNotPositive total => "total must be positive, got " ++ Decimal.text total
  | amountNegative amount => "amount must not be negative, got " ++ Decimal.text amount
  | windowEmpty => "end_time must be after start_time"
  | windowOver => "sale window has already ended"

namespace NewCoupon

def cleanName (c : NewCoupon) : String := trim c.name

/-- The first flaw of a request, in the order name, total, amount, window. -/
def flaw? (c : NewCoupon) (now : Moment) : Option Flaw :=
  if c.cleanName.toList.isEmpty then some .nameEmpty
  else if Coupon.nameLimit < c.cleanName.length then some .nameTooLong
  else if c.total ≤ 0 then some (.totalNotPositive c.total)
  else if c.amount < 0 then some (.amountNegative c.amount)
  else if c.finish ≤ c.start then some .windowEmpty
  else if c.finish ≤ now then some .windowOver
  else none

end NewCoupon

def CouponId.toJson (c : CouponId) : Json := .int c.number

def CouponId.ofJson? (v : Json) : Option CouponId := v.int64?.map CouponId.mk

def UserId.toJson (u : UserId) : Json := .int u.number

def UserId.ofJson? (v : Json) : Option UserId := v.int64?.map UserId.mk

namespace NewCoupon

def fields : List String := ["name", "total", "amount", "start_time", "end_time"]

def toJson (c : NewCoupon) : Json :=
  .obj [("name", .str c.name), ("total", .int c.total), ("amount", .int c.amount),
    ("start_time", .ofMoment c.start), ("end_time", .ofMoment c.finish)]

def ofJson? (v : Json) : Option NewCoupon := do
  let [name, total, amount, start, finish] ← v.record? fields | none
  some {
    name := ← name.text?
    total := ← total.int64?
    amount := ← amount.int64?
    start := ← start.moment?
    finish := ← finish.moment? }

end NewCoupon

namespace Coupon

def fields : List String :=
  ["id", "name", "total", "stock", "amount", "start_time", "end_time", "created_at"]

def toJson (c : Coupon) : Json :=
  .obj [("id", c.id.toJson), ("name", .str c.name), ("total", .int c.total),
    ("stock", .int c.stock), ("amount", .int c.amount), ("start_time", .ofMoment c.start),
    ("end_time", .ofMoment c.finish), ("created_at", .ofMoment c.created)]

def ofJson? (v : Json) : Option Coupon := do
  let [id, name, total, stock, amount, start, finish, created] ← v.record? fields | none
  some {
    id := ← CouponId.ofJson? id
    name := ← name.text?
    total := ← total.int64?
    stock := ← stock.int64?
    amount := ← amount.int64?
    start := ← start.moment?
    finish := ← finish.moment?
    created := ← created.moment? }

end Coupon
end CouponSale

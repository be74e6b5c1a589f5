import CouponSale.Claim

/-!
The ledger: coupons with their durable stock, and the claim rows against them. Coupons are
numbered from one. A user has at most one row for a coupon, a row needs its coupon, and the stock
never goes below zero.
-/
namespace CouponSale

structure Ledger where
  /-- In the order of creation. -/
  coupons : List Coupon
  /-- The latest first. -/
  claims : List ClaimRecord
  deriving DecidableEq, Repr, Inhabited

namespace Ledger

def empty : Ledger := ⟨[], []⟩

/-- The time stamp of a row that is written after `n` others. -/
def writtenAfter (n : Nat) : Moment := ⟨n, 0⟩

def find? (l : Ledger) (coupon : CouponId) : Option Coupon :=
  l.coupons.find? (·.id = coupon)

def hasClaim (l : Ledger) (user : UserId) (coupon : CouponId) : Bool :=
  l.claims.any (fun r => r.user = user ∧ r.coupon = coupon)

def claimCount (l : Ledger) (coupon : CouponId) : Nat :=
  l.claims.countP (fun r => r.coupon = coupon)

def stock? (l : Ledger) (coupon : CouponId) : Option Int := (l.find? coupon).map Coupon.stock

def create (l : Ledger) (c : NewCoupon) : Coupon × Ledger :=
  let coupon : Coupon := {
    id := ⟨l.coupons.length + 1⟩
    name := c.cleanName
    total := c.total
    stock := c.total
    amount := c.amount
    start := c.start
    finish := c.finish
    created := writtenAfter l.coupons.length }
  (coupon, { l with coupons := l.coupons ++ [coupon] })

def get (l : Ledger) (coupon : CouponId) : Answer Coupon :=
  match l.find? coupon with
  | some c => .ok c
  | none => .error (.couponNotFound coupon)

def takeUnit (l : Ledger) (coupon : CouponId) : Ledger :=
  let less (c : Coupon) : Coupon := if c.id = coupon then { c with stock := c.stock - 1 } else c
  { l with coupons := l.coupons.map less }

def addClaim (l : Ledger) (user : UserId) (coupon : CouponId) : Ledger :=
  { l with claims := ⟨user, coupon, .unused, writtenAfter l.claims.length⟩ :: l.claims }

/-- A row refers to a coupon that does not exist. -/
def missing (coupon : CouponId) : Failure :=
  .database ("foreign key violation: coupon " ++ coupon.text ++ " does not exist")

def decrement (l : Ledger) (coupon : CouponId) : Answer Unit × Ledger :=
  match l.find? coupon with
  | some c => if 0 < c.stock then (.ok (), l.takeUnit coupon) else (.error (.stockDrift coupon), l)
  | none => (.error (.stockDrift coupon), l)

/-- Adds a claim row unless the user has one; the answer says whether it did. -/
def insertClaim (l : Ledger) (user : UserId) (coupon : CouponId) : Answer Bool × Ledger :=
  match l.find? coupon with
  | none => (.error (missing coupon), l)
  | some _ =>
    if l.hasClaim user coupon then (.ok false, l) else (.ok true, l.addClaim user coupon)

/-- Adds a claim row and takes a unit off the stock, both or neither. -/
def persist (l : Ledger) (user : UserId) (coupon : CouponId) : Answer Persisted × Ledger :=
  if l.hasClaim user coupon then (.ok .alreadyThere, l)
  else
    match l.find? coupon with
    | none => (.error (missing coupon), l)
    | some c =>
      if 0 < c.stock then (.ok .written, (l.takeUnit coupon).addClaim user coupon)
      else (.error (.stockDrift coupon), l)

def claimsOf (l : Ledger) (user : UserId) : List ClaimRecord := l.claims.filter (·.user = user)

end Ledger
end CouponSale

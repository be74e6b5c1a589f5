import CouponSale.Database.Sales
import CouponSale.Store.Memory
import Mathlib.Data.List.Dedup

/-!
Calls of a store that keeps coupons and claims, as data; the store in memory and the database under
them; and what an answer says apart from the clock of the store and its words for a failure.
-/
namespace CouponSale

/-- A call of a store that keeps coupons and claims. -/
inductive SalesCall where
  | create (c : NewCoupon)
  | get (coupon : CouponId)
  | insertClaim (user : UserId) (coupon : CouponId)
  | decrement (coupon : CouponId)
  | persist (user : UserId) (coupon : CouponId)
  | claimsOf (user : UserId)

inductive SalesAnswer where
  | created (answer : Answer Coupon)
  | found (answer : Answer Coupon)
  | inserted (answer : Answer Bool)
  | taken (answer : Answer Unit)
  | persisted (answer : Answer Persisted)
  | claims (answer : Answer (List ClaimRecord))
  deriving DecidableEq

def Memory.sales (m : Memory) : SalesCall → SalesAnswer × Memory
  | .create c => (.created (Backend.create m c).1, (Backend.create m c).2.1)
  | .get coupon => (.found (Backend.find m coupon).1, (Backend.find m coupon).2)
  | .insertClaim user coupon =>
    let (answer, ledger) := m.ledger.insertClaim user coupon
    (.inserted answer, { m with ledger })
  | .decrement coupon =>
    let (answer, ledger) := m.ledger.decrement coupon
    (.taken answer, { m with ledger })
  | .persist user coupon =>
    let begun := Backend.beginWrite m
    (.persisted (Backend.write begun user coupon).1, (Backend.write begun user coupon).2)
  | .claimsOf user => (.claims (Backend.claimsOf m user).1, (Backend.claimsOf m user).2)

def Database.sales (db : Database) : SalesCall → SalesAnswer × Database
  | .create c => (.created (db.create c).1, (db.create c).2.1)
  | .get coupon => (.found (db.get coupon).1, (db.get coupon).2)
  | .insertClaim user coupon =>
    (.inserted (db.insertClaim user coupon).1, (db.insertClaim user coupon).2)
  | .decrement coupon => (.taken (db.decrement coupon).1, (db.decrement coupon).2)
  | .persist user coupon => (.persisted (db.persist user coupon).1, (db.persist user coupon).2)
  | .claimsOf user => (.claims (db.claimsOf user).1, (db.claimsOf user).2)

/-- The answers to calls made one after the other, and the state they lead to. -/
def served {σ C A : Type} (call : σ → C → A × σ) (s : σ) : List C → List A × σ
  | [] => ([], s)
  | c :: calls =>
    ((call s c).1 :: (served call (call s c).2 calls).1, (served call (call s c).2 calls).2)

/-- A failure without what a store says of itself. -/
def Failure.kind : Failure → Failure
  | .database _ => .database ""
  | e => e

/-- A coupon without the time of its creation. -/
def Coupon.undated (c : Coupon) : Coupon := { c with created := .epoch }

/-- A claim without the time it was written. -/
def ClaimRecord.undated (r : ClaimRecord) : ClaimRecord := { r with claimed := .epoch }

/-- An answer with what it holds put into a common form. -/
def Answer.plain {α : Type} (form : α → α) : Answer α → Answer α
  | .ok a => .ok (form a)
  | .error e => .error e.kind

/-- An answer apart from the clock of a store and its words for a failure. -/
def SalesAnswer.plain : SalesAnswer → SalesAnswer
  | .created answer => .created (Answer.plain Coupon.undated answer)
  | .found answer => .found (Answer.plain Coupon.undated answer)
  | .inserted answer => .inserted (Answer.plain id answer)
  | .taken answer => .taken (Answer.plain id answer)
  | .persisted answer => .persisted (Answer.plain id answer)
  | .claims answer => .claims (Answer.plain (·.map ClaimRecord.undated) answer)

end CouponSale

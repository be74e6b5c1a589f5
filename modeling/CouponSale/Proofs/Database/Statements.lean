import CouponSale.Database.Sales
import Mathlib.Data.List.Nodup

/-!
What the calls of a database do on which no statement is made to fail: a statement is its effect,
and a transaction is its work, taken back when the work fails.
-/
namespace CouponSale

variable {t : Tables} {user : UserId} {coupon : CouponId} {c : Coupon}

/-- A coupon, with one unit less if it has the number. -/
def Coupon.less (coupon : CouponId) (c : Coupon) : Coupon :=
  if c.id = coupon then { c with stock := c.stock - 1 } else c

namespace Tables

theorem coupon?_some (found : t.coupon? coupon = some c) : c ∈ t.coupons ∧ c.id = coupon :=
  ⟨List.mem_of_find?_eq_some found, by simpa using List.find?_some found⟩

/-- Where no number is given twice, the coupon of a number is the only row that has it. -/
theorem coupon?_only (distinct : (t.coupons.map Coupon.id).Nodup) {d : Coupon}
    (found : t.coupon? coupon = some c) (member : d ∈ t.coupons) (named : d.id = coupon) :
    d = c := by
  obtain ⟨here, same⟩ := coupon?_some found
  exact List.inj_on_of_nodup_map distinct member here (named.trans same.symm)

theorem takeUnit_of_more (distinct : (t.coupons.map Coupon.id).Nodup)
    (found : t.coupon? coupon = some c) (more : 0 < c.stock) :
    t.takeUnit coupon = (true, { t with coupons := t.coupons.map (Coupon.less coupon) }) := by
  obtain ⟨member, named⟩ := coupon?_some found
  have taken : t.coupons.any (fun d => d.id = coupon ∧ 0 < d.stock) = true :=
    List.any_eq_true.mpr ⟨c, member, by simp [named, more]⟩
  have rows : ∀ d ∈ t.coupons, (if decide (d.id = coupon ∧ 0 < d.stock) = true
      then { d with stock := d.stock - 1 } else d) = d.less coupon := by
    intro d here
    by_cases same : d.id = coupon
    · simp [Coupon.less, coupon?_only distinct found here same, named, more]
    · simp [Coupon.less, same]
  rw [takeUnit, taken, List.map_congr_left rows]

theorem takeUnit_of_none (distinct : (t.coupons.map Coupon.id).Nodup)
    (none : ∀ c, t.coupon? coupon = some c → c.stock ≤ 0) :
    t.takeUnit coupon = (false, t) := by
  have empty : ∀ d ∈ t.coupons, decide (d.id = coupon ∧ 0 < d.stock) = false := by
    intro d here
    cases found : t.coupon? coupon with
    | none =>
      have other := List.find?_eq_none.mp found d here
      simp at other
      simp [other]
    | some c =>
      have short := none c found
      by_cases same : d.id = coupon
      · rw [coupon?_only distinct found here same]
        simp
        omega
      · simp [same]
  have taken : t.coupons.any (fun d => d.id = coupon ∧ 0 < d.stock) = false :=
    List.any_eq_false.mpr fun d here => by simp [empty d here]
  have rows : ∀ d ∈ t.coupons, (if decide (d.id = coupon ∧ 0 < d.stock) = true
      then { d with stock := d.stock - 1 } else d) = id d := by
    intro d here
    simp [empty d here]
  rw [takeUnit, taken, List.map_congr_left rows, List.map_id]

end Tables

namespace Database

/-- The tables are there, and no statement is made to fail. -/
structure Idle (db : Database) : Prop where
  migrated : db.schema = migrations
  sound : ∀ s, db.failing s = 0

/-- A statement fails before it has an effect: tables are missing that it needs, or a failure is
due. -/
def Fails (db : Database) (s : Statement) : Prop := db.schema < s.schema ∨ db.failing s ≠ 0

variable {db after : Database} {α : Type}

theorem send_some {s : Statement} (works : ¬ db.Fails s) (effect : Database → Option α × Database)
    {a : α} (did : effect db = (some a, after)) : db.send s effect = (.ok a, after) := by
  obtain ⟨there, sound⟩ := not_or.mp works
  simp only [send, if_neg there, not_not.mp sound, did]

theorem send_none {s : Statement} (works : ¬ db.Fails s) (effect : Database → Option α × Database)
    (refused : effect db = (none, after)) : db.send s effect = (.error s.failure, after) := by
  obtain ⟨there, sound⟩ := not_or.mp works
  simp only [send, if_neg there, not_not.mp sound, refused]

theorem schema_le (s : Statement) : s.schema ≤ migrations := by
  cases s <;> decide

namespace Idle

theorem there (idle : db.Idle) (s : Statement) : ¬ db.schema < s.schema := by
  rw [idle.migrated]
  exact Nat.not_lt.mpr (schema_le s)

theorem works (idle : db.Idle) (s : Statement) : ¬ db.Fails s :=
  not_or.mpr ⟨idle.there s, not_not.mpr (idle.sound s)⟩

theorem send_some (idle : db.Idle) (s : Statement) (effect : Database → Option α × Database)
    {a : α} (did : effect db = (some a, after)) : db.send s effect = (.ok a, after) :=
  Database.send_some (idle.works s) effect did

theorem send_none (idle : db.Idle) (s : Statement) (effect : Database → Option α × Database)
    (refused : effect db = (none, after)) : db.send s effect = (.error s.failure, after) :=
  Database.send_none (idle.works s) effect refused

theorem look (idle : db.Idle) (s : Statement) (f : Tables → α) :
    db.look s f = (.ok (f db.tables), db) :=
  idle.send_some s _ rfl

theorem mark (idle : db.Idle) (s : Statement) : db.mark s = (.ok (), db) :=
  idle.send_some s _ rfl

theorem transact_ok (idle : db.Idle) {work : Database → Answer α × Database} {a : α}
    (done : work db = (.ok a, after)) (still : after.Idle) :
    db.transact work = (.ok a, after) := by
  simp only [transact, idle.mark, done, still.mark]

theorem transact_error (idle : db.Idle) {work : Database → Answer α × Database} {e : Failure}
    (failed : work db = (.error e, after)) :
    db.transact work = (.error e, after.rollback db) := by
  simp only [transact, idle.mark, failed]

/-- Nothing but the tables, the numbers given and the clock differs. -/
theorem of_same (idle : db.Idle) (schema : after.schema = db.schema)
    (failing : after.failing = db.failing) : after.Idle := by
  constructor
  · rw [schema, idle.migrated]
  · rw [failing]
    exact idle.sound

end Idle

/-- A claim was written for a user. -/
def withClaim (db : Database) (user : UserId) (coupon : CouponId) : Database :=
  { db.tick with tables := { db.tables with
    claims := ⟨user, coupon, ClaimStatus.unused.label, db.now⟩ :: db.tables.claims } }

/-- A unit was taken off the stock of a coupon. -/
def withLess (db : Database) (coupon : CouponId) : Database :=
  { db with tables := { db.tables with coupons := db.tables.coupons.map (Coupon.less coupon) } }

/-- A coupon was created. -/
def withCoupon (db : Database) (c : NewCoupon) : Database :=
  { db.tick with
    couponIds := db.couponIds + 1
    tables := { db.tables with coupons := db.tables.coupons ++ [db.couponRow c] } }

namespace Idle

variable (idle : db.Idle)

section
include idle

theorem withClaim : (db.withClaim user coupon).Idle := idle.of_same rfl rfl

theorem withLess : (db.withLess coupon).Idle := idle.of_same rfl rfl

theorem withCoupon (c : NewCoupon) : (db.withCoupon c).Idle := idle.of_same rfl rfl

theorem tick : db.tick.Idle := idle.of_same rfl rfl

theorem create_of_fits {c : NewCoupon} (text : isColumnText c.cleanName = true)
    (fits : (db.couponRow c).Fits) :
    db.create c = (.ok (db.couponRow c), db.withCoupon c,
      [.rowCreated (db.couponRow c).id (db.couponRow c).total]) := by
  have wrote : db.insertCoupon c = (some (db.couponRow c), db.withCoupon c) := by
    simp only [insertCoupon, text, if_true, fits]
    rfl
  have sent := idle.send_some .create (insertCoupon · c) wrote
  simp only [create, sent]

/-- A request that the columns do not admit leaves no row. -/
theorem create_of_unfit {c : NewCoupon}
    (unfit : ¬ (isColumnText c.cleanName = true ∧ (db.couponRow c).Fits)) :
    (db.create c).1 = .error Statement.create.failure ∧
      (db.create c).2.1.tables = db.tables ∧ (db.create c).2.2 = [] := by
  have refused : (db.insertCoupon c).1 = none ∧ (db.insertCoupon c).2.tables = db.tables := by
    simp only [insertCoupon]
    split_ifs with text fits
    · exact absurd ⟨text, fits⟩ unfit
    · exact ⟨rfl, rfl⟩
    · exact ⟨rfl, rfl⟩
  have sent : db.send .create (insertCoupon · c) =
      (.error Statement.create.failure, (db.insertCoupon c).2) :=
    idle.send_none .create _ (Prod.ext refused.1 rfl)
  simp only [create, sent, refused.2, and_self]

theorem get_some (found : db.tables.coupon? coupon = some c) : db.get coupon = (.ok c, db) := by
  simp only [get, idle.look, found]

theorem get_none (unknown : db.tables.coupon? coupon = none) :
    db.get coupon = (.error (.couponNotFound coupon), db) := by
  simp only [get, idle.look, unknown]

theorem takeUnit {taken : Bool} {tables : Tables}
    (did : db.tables.takeUnit coupon = (taken, tables)) :
    db.takeUnit coupon =
      (if taken then .ok () else .error (.stockDrift coupon), { db with tables }) := by
  simp only [Database.takeUnit, send, if_neg (idle.there .decrement), idle.sound, did]
  cases taken <;> rfl

theorem takeUnit_of_more (distinct : (db.tables.coupons.map Coupon.id).Nodup)
    (found : db.tables.coupon? coupon = some c) (more : 0 < c.stock) :
    db.takeUnit coupon = (.ok (), db.withLess coupon) :=
  idle.takeUnit (Tables.takeUnit_of_more distinct found more)

theorem takeUnit_of_none (distinct : (db.tables.coupons.map Coupon.id).Nodup)
    (none : ∀ c, db.tables.coupon? coupon = some c → c.stock ≤ 0) :
    db.takeUnit coupon = (.error (.stockDrift coupon), db) :=
  idle.takeUnit (Tables.takeUnit_of_none distinct none)

theorem addClaim_held (held : db.tables.hasClaim user coupon = true) :
    db.addClaim user coupon = (.ok false, db) :=
  idle.send_some .insertClaim _ (by simp only [held, if_true])

theorem addClaim_missing (free : db.tables.hasClaim user coupon = false)
    (unknown : db.tables.coupon? coupon = none) :
    db.addClaim user coupon = (.error Statement.insertClaim.failure, db) :=
  idle.send_none .insertClaim _ (by simp [free, unknown])

theorem addClaim_new (free : db.tables.hasClaim user coupon = false)
    (found : db.tables.coupon? coupon = some c) :
    db.addClaim user coupon = (.ok true, db.withClaim user coupon) :=
  idle.send_some .insertClaim _ (by simp [free, found, Database.withClaim])

theorem persist_ok {wrote : Database} (first : db.addClaim user coupon = (.ok true, wrote))
    (second : wrote.takeUnit coupon = (.ok (), after)) (still : after.Idle) :
    db.persist user coupon = (.ok .written, after) := by
  refine idle.transact_ok ?_ still
  simp only [first, second]

/-- A claim is written for which no unit is left: it is taken back. -/
theorem persist_error {wrote : Database} {e : Failure}
    (first : db.addClaim user coupon = (.ok true, wrote))
    (second : wrote.takeUnit coupon = (.error e, after)) :
    db.persist user coupon = (.error e, after.rollback db) := by
  refine idle.transact_error ?_
  simp only [first, second]

end
end Idle
end Database
end CouponSale

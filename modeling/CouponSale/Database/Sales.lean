import CouponSale.Database.Session

/-!
Coupons and claims in the database. A refused coupon uses up its number. A claim is written
before its unit is taken off the stock, in one transaction, so that a claim that is there already
takes no second unit and a claim without a unit leaves no row.
-/
namespace CouponSale.Database

/-- The row of a new coupon; its times are kept as a table keeps them. -/
def couponRow (db : Database) (c : NewCoupon) : Coupon where
  id := ⟨db.couponIds + 1⟩
  name := c.cleanName
  total := c.total
  stock := c.total
  amount := c.amount
  start := c.start.stored
  finish := c.finish.stored
  created := db.now

/-- Writes the row of a new coupon. A name that is no column text is refused before the row gets
a number. The numbers of the table, which are 64-bit integers from 1 on, are taken to last: a coupon
is created by hand, one at a time, and stores in memory number theirs without an end. Dead letters
come with the traffic, so that the end of their numbers is looked at. -/
def insertCoupon (db : Database) (c : NewCoupon) : Option Coupon × Database :=
  if isColumnText c.cleanName then
    let row := db.couponRow c
    let used := { db.tick with couponIds := db.couponIds + 1 }
    if row.Fits then
      (some row, { used with tables := { db.tables with coupons := db.tables.coupons ++ [row] } })
    else (none, used)
  else (none, db)

def create (db : Database) (c : NewCoupon) : Answer Coupon × Database × List Note :=
  match db.send .create (insertCoupon · c) with
  | (.error e, db) => (.error e, db, [])
  | (.ok row, db) => (.ok row, db, [.rowCreated row.id row.total])

def get (db : Database) (coupon : CouponId) : Answer Coupon × Database :=
  match db.look .get (·.coupon? coupon) with
  | (.error e, db) => (.error e, db)
  | (.ok none, db) => (.error (.couponNotFound coupon), db)
  | (.ok (some c), db) => (.ok c, db)

def takeUnit (db : Database) (coupon : CouponId) : Answer Unit × Database :=
  match db.send .decrement (fun db =>
      let (taken, tables) := db.tables.takeUnit coupon
      (some taken, { db with tables })) with
  | (.error e, db) => (.error e, db)
  | (.ok true, db) => (.ok (), db)
  | (.ok false, db) => (.error (.stockDrift coupon), db)

/-- The statement that adds a claim row unless the user has one; the answer says whether it did.
The row needs its coupon. -/
def addClaim (db : Database) (user : UserId) (coupon : CouponId) : Answer Bool × Database :=
  db.send .insertClaim fun db =>
    if db.tables.hasClaim user coupon then (some false, db)
    else if (db.tables.coupon? coupon).isNone then (none, db)
    else
      let row : ClaimRow := ⟨user, coupon, ClaimStatus.unused.label, db.now⟩
      (some true, { db.tick with tables := { db.tables with claims := row :: db.tables.claims } })

def decrement (db : Database) (coupon : CouponId) : Answer Unit × Database :=
  db.transact (takeUnit · coupon)

def insertClaim (db : Database) (user : UserId) (coupon : CouponId) : Answer Bool × Database :=
  db.transact (addClaim · user coupon)

/-- Adds a claim row and takes a unit off the stock, both or neither. -/
def persist (db : Database) (user : UserId) (coupon : CouponId) : Answer Persisted × Database :=
  db.transact fun db =>
    match db.addClaim user coupon with
    | (.error e, db) => (.error e, db)
    | (.ok false, db) => (.ok .alreadyThere, db)
    | (.ok true, db) =>
      match db.takeUnit coupon with
      | (.error e, db) => (.error e, db)
      | (.ok (), db) => (.ok .written, db)

/-- The claims of a user, the latest first. -/
def claimsOf (db : Database) (user : UserId) : Answer (List ClaimRecord) × Database :=
  match db.look .listClaims (·.claims.filter (·.user = user)) with
  | (.error e, db) => (.error e, db)
  | (.ok rows, db) => (rows.mapM ClaimRow.read, db)

/-- Overwrites the status of a user's claim rows by hand. -/
def overwriteStatus (db : Database) (user : UserId) (status : String) : Database :=
  let mend (r : ClaimRow) : ClaimRow := if r.user = user then { r with status } else r
  { db with tables := { db.tables with claims := db.tables.claims.map mend } }

end CouponSale.Database

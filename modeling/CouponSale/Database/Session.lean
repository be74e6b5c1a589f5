import CouponSale.Database.Tables
import CouponSale.Note

/-!
A database that keeps the tables. Everything goes through statements, of which the next ones of a
kind can be made to fail without effect. A transaction keeps all it wrote or nothing; numbers
that it gave to rows stay used up either way.
-/
namespace CouponSale

inductive Statement where
  | migrate
  | create
  | get
  | begin
  | decrement
  | insertClaim
  | commit
  | listClaims
  | record
  | pending
  | close
  | count
  deriving DecidableEq, Repr, Inhabited

namespace Statement

def fault : Statement → String
  | migrate => "Migration failed"
  | create => "Failed to create coupon"
  | get => "Failed to get coupon"
  | begin => "Failed to begin transaction"
  | decrement => "Failed to decrement stock"
  | insertClaim => "Failed to insert claim"
  | commit => "Failed to commit transaction"
  | listClaims => "Failed to list user claims"
  | record => "Failed to record dead letter"
  | pending => "Failed to list dead letters"
  | close => "Failed to update dead letter"
  | count => "Failed to count dead letters"

def failure (s : Statement) : Failure := .database s.fault

/-- How many of the migrations a statement needs: the first makes the tables of coupons and
claims, the second that of dead letters. -/
def schema : Statement → Nat
  | migrate | begin | commit => 0
  | create | get | decrement | insertClaim | listClaims => 1
  | record | pending | close | count => 2

end Statement

structure Database where
  schema : Nat
  tables : Tables
  couponIds : Nat
  letterIds : Nat
  /-- Times given out so far; each is later than all before. -/
  ticks : Nat
  /-- How many of the next statements of a kind fail. -/
  failing : Statement → Nat

namespace Database

def new : Database where
  schema := 0
  tables := .empty
  couponIds := 0
  letterIds := 0
  ticks := 0
  failing := fun _ => 0

def migrations : Nat := 2

def isMigrated (db : Database) : Bool := db.schema = migrations

def now (db : Database) : Moment := ⟨db.ticks, 0⟩

def tick (db : Database) : Database := { db with ticks := db.ticks + 1 }

def fail (db : Database) (s : Statement) (n : Nat) : Database :=
  { db with failing := fun k => if k = s then n else db.failing k }

/-- Sends a statement. It fails when tables that it needs are missing, when a failure is due,
which is spent by it, and when its own effect refuses. -/
def send {α : Type} (db : Database) (s : Statement) (effect : Database → Option α × Database) :
    Answer α × Database :=
  if db.schema < s.schema then (.error s.failure, db)
  else
    match db.failing s with
    | n + 1 => (.error s.failure, db.fail s n)
    | 0 =>
      match effect db with
      | (some a, db) => (.ok a, db)
      | (none, db) => (.error s.failure, db)

def look {α : Type} (db : Database) (s : Statement) (f : Tables → α) : Answer α × Database :=
  db.send s (fun db => (some (f db.tables), db))

def mark (db : Database) (s : Statement) : Answer Unit × Database :=
  db.send s (fun db => (some (), db))

/-- Takes back what was written since an earlier state. -/
def rollback (db earlier : Database) : Database :=
  { db with tables := earlier.tables, schema := earlier.schema }

/-- Does some work in a transaction. When the beginning, the work or the commit fails, nothing
that was written stays. -/
def transact {α : Type} (db : Database) (work : Database → Answer α × Database) :
    Answer α × Database :=
  match db.mark .begin with
  | (.error e, opened) => (.error e, opened)
  | (.ok (), opened) =>
    match work opened with
    | (.error e, worked) => (.error e, worked.rollback opened)
    | (.ok a, worked) =>
      match worked.mark .commit with
      | (.error e, ended) => (.error e, ended.rollback opened)
      | (.ok (), ended) => (.ok a, ended)

/-- Applies one migration in a transaction. Only the first has a kind of its own. -/
def applyNext (db : Database) : Answer Unit × Database :=
  db.transact fun db =>
    match if db.schema = 0 then db.mark .migrate else (.ok (), db) with
    | (.error e, db) => (.error e, db)
    | (.ok (), db) => (.ok (), { db with schema := db.schema + 1 })

/-- Applies the migrations that are missing, `left` at most. -/
def applyMissing : Nat → Database → Answer Unit × Database
  | 0, db => (.ok (), db)
  | left + 1, db =>
    if db.isMigrated then (.ok (), db)
    else
      match db.applyNext with
      | (.error _, db) => (.error Statement.migrate.failure, db)
      | (.ok (), db) => applyMissing left db

def migrate (db : Database) : Answer Unit × Database × List Note :=
  match applyMissing migrations db with
  | (.error e, db) => (.error e, db, [])
  | (.ok (), db) => (.ok (), db, [.migrated])

end Database
end CouponSale

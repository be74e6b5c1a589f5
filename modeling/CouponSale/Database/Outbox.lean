import CouponSale.Database.Session

/-!
The outbox of dead letters. A letter starts out pending and is closed at most once, as resolved
or as discarded, with the notes of whoever closed it.
-/
namespace CouponSale.Database

/-- The row of a dead letter; its times are kept as a table keeps them. -/
def letterRow (db : Database) (letter : DeadLetter) (enqueued failed : Moment) : LetterRow where
  id := db.letterIds + 1
  user := letter.task.user
  coupon := letter.task.coupon
  reason := letter.reason
  lastError := letter.lastError
  retries := Note.columnRetries letter.task
  enqueued := enqueued.stored
  failed := failed.stored
  status := .pending
  resolved := none
  notes := none

/-- Writes the row of a dead letter, unless its error is no column text or the numbers of the
table, which are 64-bit integers from 1 on, are used up. -/
def insertLetter (db : Database) (letter : DeadLetter) (enqueued failed : Moment) :
    Option LetterRow × Database :=
  if letter.lastError.all isColumnText ∧ (db.letterIds : Int) < maxInt64 then
    let row := db.letterRow letter enqueued failed
    (some row, { db with
      letterIds := db.letterIds + 1
      tables := { db.tables with letters := db.tables.letters ++ [row] } })
  else (none, db)

def record (db : Database) (letter : DeadLetter) (enqueued failed : Moment) :
    Answer Unit × Database × List Note :=
  match db.send .record (insertLetter · letter enqueued failed) with
  | (.error e, db) => (.error e, db, [])
  | (.ok row, db) => (.ok (), db, [.letterStored row.id letter])

/-- A limit as a statement takes it, a 64-bit integer. -/
def cutLimit (limit : Nat) : Nat := min limit maxInt64.toNat

/-- The pending letters, the oldest first, no more than `limit`. Letters of one time go by
number. -/
def pending (db : Database) (limit : Nat) : Answer (List LetterRow) × Database :=
  db.look .pending fun t =>
    (t.pending.mergeSort (fun a b => a.failed ≤ b.failed)).take (cutLimit limit)

def countPending (db : Database) : Answer Nat × Database := db.look .count (·.pending.length)

def closed (r : LetterRow) (status : LetterStatus) (notes : String) (time : Moment) : LetterRow :=
  { r with status, resolved := some time, notes := some notes }

/-- Closes the pending letter of a number; the answer says whether there was one. -/
def closeLetter (db : Database) (id : Int) (status : LetterStatus) (notes : String) :
    Option Bool × Database :=
  if isColumnText notes then
    let hit (r : LetterRow) : Bool := r.id = id ∧ r.status = .pending
    let mend (r : LetterRow) : LetterRow := if hit r then closed r status notes db.now else r
    (some (db.tables.letters.any hit),
      { db.tick with tables := { db.tables with letters := db.tables.letters.map mend } })
  else (none, db)

def notPending (id : Int) : Failure :=
  .database ("Dead letter " ++ Decimal.text id ++ " not found or no longer pending")

def close (db : Database) (id : Int) (status : LetterStatus) (notes : String) :
    Answer Unit × Database :=
  match db.send .close (closeLetter · id status notes) with
  | (.error e, db) => (.error e, db)
  | (.ok true, db) => (.ok (), db)
  | (.ok false, db) => (.error (notPending id), db)

def resolve (db : Database) (id : Int) (notes : String) : Answer Unit × Database × List Note :=
  match db.close id .resolved notes with
  | (.error e, db) => (.error e, db, [])
  | (.ok (), db) => (.ok (), db, [.letterResolved id])

def discard (db : Database) (id : Int) (notes : String) : Answer Unit × Database × List Note :=
  match db.close id .discarded notes with
  | (.error e, db) => (.error e, db, [])
  | (.ok (), db) => (.ok (), db, [.letterDiscarded id notes])

end CouponSale.Database

import CouponSale.Database.Outbox
import CouponSale.Proofs.Database.Storability
import CouponSale.Proofs.Runs
import Mathlib.Data.List.Basic
import Mathlib.Data.List.Perm.Basic

/-!
The life of dead letters in the database. Each recorded letter has one row, whose number is its
place; a row is closed by the one call that finds it pending, and is the same from then on. So the
rows that wait are as many as were recorded and not closed, and a list of them holds the oldest.
-/
namespace CouponSale

/-- A call of the outbox. -/
inductive OutboxCall where
  | record (letter : DeadLetter) (enqueued failed : Moment)
  | resolve (id : Int) (notes : String)
  | discard (id : Int) (notes : String)
  | pending (limit : Nat)
  | count

inductive OutboxAnswer where
  | done (answer : Answer Unit)
  | listed (answer : Answer (List LetterRow))
  | counted (answer : Answer Nat)

/-- A call with its answer. -/
abbrev OutboxReply := OutboxCall × OutboxAnswer

def Database.outbox (db : Database) : OutboxCall → OutboxAnswer × Database
  | .record letter enqueued failed =>
    (.done (db.record letter enqueued failed).1, (db.record letter enqueued failed).2.1)
  | .resolve id notes => (.done (db.resolve id notes).1, (db.resolve id notes).2.1)
  | .discard id notes => (.done (db.discard id notes).1, (db.discard id notes).2.1)
  | .pending limit => (.listed (db.pending limit).1, (db.pending limit).2)
  | .count => (.counted db.countPending.1, db.countPending.2)

/-- The outbox as a machine, which tells every call with its answer. -/
def Database.serve? (db : Database) (call : OutboxCall) : Option (Database × List OutboxReply) :=
  some ((db.outbox call).2, [(call, (db.outbox call).1)])

/-- A dead letter with its times. -/
structure Recorded where
  letter : DeadLetter
  enqueued : Moment
  failed : Moment

/-- The row of a letter that was recorded after so many others. -/
def Recorded.row (r : Recorded) (before : Nat) : LetterRow :=
  ({ Database.new with letterIds := before } : Database).letterRow r.letter r.enqueued r.failed

/-- How a call means to close a letter. -/
structure Closing where
  id : Int
  status : LetterStatus
  notes : String

/-- The statement of a closing finds this row. -/
def Closing.finds (c : Closing) (row : LetterRow) : Bool := row.id = c.id ∧ row.status = .pending

def OutboxCall.closing? : OutboxCall → Option Closing
  | .resolve id notes => some ⟨id, .resolved, notes⟩
  | .discard id notes => some ⟨id, .discarded, notes⟩
  | _ => none

namespace OutboxReply

/-- The letter that a call recorded. -/
def recorded? : OutboxReply → Option Recorded
  | (.record letter enqueued failed, .done (.ok ())) => some ⟨letter, enqueued, failed⟩
  | _ => none

/-- The closing that a call brought about. -/
def closed? : OutboxReply → Option Closing
  | (call, .done (.ok ())) => call.closing?
  | _ => none

end OutboxReply

def recordedIn (told : List OutboxReply) : List Recorded := told.filterMap OutboxReply.recorded?

def closingsIn (told : List OutboxReply) : List Closing := told.filterMap OutboxReply.closed?

/-- A row as it was when it was recorded. -/
def LetterRow.reopened (row : LetterRow) : LetterRow :=
  { row with status := .pending, resolved := none, notes := none }

/-- What the closings so far have made of a row. -/
inductive LetterRow.Stands (closings : List Closing) (row : LetterRow) : Prop where
  | waits (pending : row.status = .pending) (undated : row.resolved = none)
      (bare : row.notes = none) (unmarked : ∀ c ∈ closings, c.id ≠ row.id)
  | closed {c : Closing} {time : Moment} (final : c.status ≠ .pending) (status : row.status = c.status)
      (dated : row.resolved = some time) (notes : row.notes = some c.notes)
      (once : closings.filter (·.id = row.id) = [c])

/-- What may become of a row: only a pending one changes, and only by being closed. -/
inductive LetterRow.Ages (row : LetterRow) : LetterRow → Prop where
  | same : row.Ages row
  | closed {status : LetterStatus} {notes : String} {time : Moment} (pending : row.status = .pending)
      (final : status ≠ .pending) : row.Ages (Database.closed row status notes time)

namespace LetterRow

variable {row next last : LetterRow}

theorem Ages.trans (first : row.Ages next) (second : next.Ages last) : row.Ages last := by
  cases first with
  | same => exact second
  | closed pending final =>
    cases second with
    | same => exact .closed pending final
    | closed again => exact absurd again final

theorem Stands.resolved_iff {closings : List Closing} (stands : row.Stands closings) :
    (row.resolved.isSome ↔ row.status ≠ .pending) ∧ (row.notes.isSome ↔ row.status ≠ .pending) := by
  cases stands with
  | waits pending undated bare unmarked => simp [pending, undated, bare]
  | closed final status dated notes once => simp [status, dated, notes, final]

end LetterRow

namespace Database

variable {db after : Database} {call : OutboxCall} {answer : OutboxAnswer} {told : List OutboxReply}
  {before rest : List LetterRow} {row : LetterRow}

/-- A letter was recorded. -/
def withLetter (db : Database) (letter : DeadLetter) (enqueued failed : Moment) : Database :=
  { db with
    letterIds := db.letterIds + 1
    tables := { db.tables with
      letters := db.tables.letters ++ [db.letterRow letter enqueued failed] } }

/-- What a call of the outbox does, with what was so when it was made. -/
inductive OutboxMove (db : Database) : OutboxCall → OutboxAnswer → Database → Prop where
  | recorded {letter : DeadLetter} {enqueued failed : Moment}
      (text : letter.lastError.all isColumnText = true) (free : (db.letterIds : Int) < maxInt64) :
      OutboxMove db (.record letter enqueued failed) (.done (.ok ()))
        (db.withLetter letter enqueued failed)
  | refused {letter : DeadLetter} {enqueued failed : Moment}
      (unfit : ¬ (letter.lastError.all isColumnText = true ∧ (db.letterIds : Int) < maxInt64)) :
      OutboxMove db (.record letter enqueued failed) (.done (.error Statement.record.failure)) db
  | closed {call : OutboxCall} {c : Closing} {before rest : List LetterRow} {row : LetterRow}
      (meant : call.closing? = some c) (text : isColumnText c.notes = true)
      (rows : db.tables.letters = before ++ row :: rest) (found : c.finds row = true) :
      OutboxMove db call (.done (.ok ()))
        { db.tick with tables := { db.tables with
          letters := before ++ Database.closed row c.status c.notes db.now :: rest } }
  | missed {call : OutboxCall} {c : Closing} (meant : call.closing? = some c)
      (text : isColumnText c.notes = true)
      (missed : ∀ row ∈ db.tables.letters, c.finds row = false) :
      OutboxMove db call (.done (.error (notPending c.id))) db.tick
  | unwritable {call : OutboxCall} {c : Closing} (meant : call.closing? = some c)
      (text : isColumnText c.notes = false) :
      OutboxMove db call (.done (.error Statement.close.failure)) db
  | listed {limit : Nat} :
      OutboxMove db (.pending limit) (.listed (.ok
        ((db.tables.pending.mergeSort (fun a b => a.failed ≤ b.failed)).take (cutLimit limit)))) db
  | counted : OutboxMove db .count (.counted (.ok db.tables.pending.length)) db

theorem map_missed {c : Closing} {rows : List LetterRow} {time : Moment}
    (missed : ∀ row ∈ rows, c.finds row = false) :
    rows.map (fun r => if c.finds r then closed r c.status c.notes time else r) = rows := by
  rw [List.map_congr_left (g := id), List.map_id]
  intro row member
  simp [missed row member]

/-- Where no number is given twice, a closing finds one row at most. -/
theorem map_found {c : Closing} {time : Moment}
    (distinct : ((before ++ row :: rest).map LetterRow.id).Nodup) (found : c.finds row = true) :
    (before ++ row :: rest).map (fun r => if c.finds r then closed r c.status c.notes time else r) =
      before ++ closed row c.status c.notes time :: rest := by
  have named : row.id = c.id ∧ row.status = .pending := by simpa [Closing.finds] using found
  have apart : row.id ∉ (before ++ rest).map LetterRow.id := by
    rw [List.map_append, List.map_cons, List.nodup_middle, ← List.map_append] at distinct
    exact (List.nodup_cons.mp distinct).1
  have others : ∀ other ∈ before ++ rest, c.finds other = false := by
    intro other member
    have differs : other.id ≠ row.id := fun same => apart (same ▸ List.mem_map_of_mem member)
    simp [Closing.finds, ← named.1, differs]
  rw [List.map_append, List.map_cons, found,
    map_missed fun other member => others other (List.mem_append_left _ member),
    map_missed fun other member => others other (List.mem_append_right _ member)]
  rfl

namespace Idle

variable (idle : db.Idle)

section
include idle

/-- A closing whose notes are text closes the pending row of its number, if there is one. -/
theorem close_cases {c : Closing} (distinct : (db.tables.letters.map LetterRow.id).Nodup)
    (text : isColumnText c.notes = true) :
    (∃ before row rest, db.tables.letters = before ++ row :: rest ∧ c.finds row = true ∧
        db.close c.id c.status c.notes = (.ok (), { db.tick with tables := { db.tables with
          letters := before ++ closed row c.status c.notes db.now :: rest } })) ∨
      (∀ row ∈ db.tables.letters, c.finds row = false) ∧
        db.close c.id c.status c.notes = (.error (notPending c.id), db.tick) := by
  have did : db.closeLetter c.id c.status c.notes = (some (db.tables.letters.any c.finds),
      { db.tick with tables := { db.tables with
        letters := db.tables.letters.map
          (fun r => if c.finds r then closed r c.status c.notes db.now else r) } }) := by
    simp only [closeLetter, text, if_true]
    rfl
  have sent := idle.send_some .close (closeLetter · c.id c.status c.notes) did
  by_cases found : ∃ row ∈ db.tables.letters, c.finds row = true
  · obtain ⟨row, member, found⟩ := found
    obtain ⟨before, rest, rows⟩ := List.append_of_mem member
    refine .inl ⟨before, row, rest, rows, found, ?_⟩
    rw [List.any_eq_true.mpr ⟨row, member, found⟩, rows, map_found (rows ▸ distinct) found] at sent
    rw [close, sent]
  · have missed : ∀ row ∈ db.tables.letters, c.finds row = false :=
      fun row member => Bool.eq_false_iff.mpr fun hit => found ⟨row, member, hit⟩
    refine .inr ⟨missed, ?_⟩
    rw [List.any_eq_false.mpr (by simpa using missed), map_missed missed] at sent
    rw [close, sent]
    rfl

theorem close_unwritable {c : Closing} (text : isColumnText c.notes = false) :
    db.close c.id c.status c.notes = (.error Statement.close.failure, db) := by
  have sent : db.send .close (closeLetter · c.id c.status c.notes) =
      (.error Statement.close.failure, db) :=
    idle.send_none .close _ (by simp [closeLetter, text])
  rw [close, sent]

end
end Idle

/-- Both ways to close a letter are the statement. -/
theorem outbox_closing {c : Closing} (meant : call.closing? = some c) :
    db.outbox call = (.done (db.close c.id c.status c.notes).1,
      (db.close c.id c.status c.notes).2) := by
  cases call with
  | resolve id notes =>
    cases meant
    simp only [outbox, resolve]
    cases db.close id .resolved notes with
    | mk answer after => cases answer <;> rfl
  | discard id notes =>
    cases meant
    simp only [outbox, discard]
    cases db.close id .discarded notes with
    | mk answer after => cases answer <;> rfl
  | _ => cases meant

theorem Idle.outbox_closing_move (idle : db.Idle)
    (distinct : (db.tables.letters.map LetterRow.id).Nodup) {c : Closing}
    (meant : call.closing? = some c) :
    OutboxMove db call (db.outbox call).1 (db.outbox call).2 := by
  rw [outbox_closing meant]
  cases text : isColumnText c.notes with
  | false =>
    rw [idle.close_unwritable text]
    exact .unwritable meant text
  | true =>
    rcases idle.close_cases distinct text with
      ⟨before, row, rest, rows, found, did⟩ | ⟨missed, did⟩
    · rw [did]
      exact .closed meant text rows found
    · rw [did]
      exact .missed meant text missed

namespace Idle

variable (idle : db.Idle)

section
include idle

theorem outbox_record {letter : DeadLetter} {enqueued failed : Moment}
    (fit : letter.lastError.all isColumnText = true ∧ (db.letterIds : Int) < maxInt64) :
    db.outbox (.record letter enqueued failed) =
      (.done (.ok ()), db.withLetter letter enqueued failed) := by
  have sent : db.send .record (insertLetter · letter enqueued failed) =
      (.ok (db.letterRow letter enqueued failed), db.withLetter letter enqueued failed) :=
    idle.send_some .record _ (by rw [insertLetter, if_pos fit]; rfl)
  simp only [outbox, record, sent]

theorem outbox_refuse {letter : DeadLetter} {enqueued failed : Moment}
    (unfit : ¬ (letter.lastError.all isColumnText = true ∧ (db.letterIds : Int) < maxInt64)) :
    db.outbox (.record letter enqueued failed) =
      (.done (.error Statement.record.failure), db) := by
  have sent : db.send .record (insertLetter · letter enqueued failed) =
      (.error Statement.record.failure, db) :=
    idle.send_none .record _ (by rw [insertLetter, if_neg unfit])
  simp only [outbox, record, sent]

theorem outbox_pending (limit : Nat) : db.outbox (.pending limit) = (.listed (.ok
    ((db.tables.pending.mergeSort (fun a b => a.failed ≤ b.failed)).take (cutLimit limit))), db) := by
  simp only [outbox, pending, idle.look]

theorem outbox_count : db.outbox .count = (.counted (.ok db.tables.pending.length), db) := by
  simp only [outbox, countPending, idle.look]

/-- Every call of the outbox of a working database is one of these moves. -/
theorem outbox_move (distinct : (db.tables.letters.map LetterRow.id).Nodup) (call : OutboxCall) :
    OutboxMove db call (db.outbox call).1 (db.outbox call).2 := by
  cases call with
  | record letter enqueued failed =>
    by_cases fit : letter.lastError.all isColumnText = true ∧ (db.letterIds : Int) < maxInt64
    · rw [idle.outbox_record fit]
      exact .recorded fit.1 fit.2
    · rw [idle.outbox_refuse fit]
      exact .refused fit
  | resolve | discard => exact idle.outbox_closing_move distinct rfl
  | pending limit =>
    rw [idle.outbox_pending]
    exact .listed
  | count =>
    rw [idle.outbox_count]
    exact .counted

end
end Idle

theorem final_of_closing {c : Closing} (meant : call.closing? = some c) : c.status ≠ .pending := by
  cases call <;> cases meant <;> simp

/-- What the rows have to do with the calls so far. -/
structure Filed (db : Database) (told : List OutboxReply) : Prop where
  idle : db.Idle
  used : db.letterIds = db.tables.letters.length
  bound : (db.letterIds : Int) ≤ maxInt64
  rows : db.tables.letters.map LetterRow.reopened = (recordedIn told).mapIdx fun n r => r.row n
  stands : ∀ row ∈ db.tables.letters, row.Stands (closingsIn told)
  known : ∀ c ∈ closingsIn told, c.id ∈ db.tables.letters.map LetterRow.id
  tally : db.tables.pending.length + (closingsIn told).length = db.tables.letters.length

theorem ready_filed : ready.Filed [] where
  idle := ⟨rfl, fun _ => rfl⟩
  used := rfl
  bound := by decide
  rows := rfl
  stands := by
    intro row member
    cases member
  known := by
    intro c member
    cases member
  tally := rfl

namespace Filed

theorem length_letters (filed : db.Filed told) :
    db.tables.letters.length = (recordedIn told).length := by
  simpa using congrArg List.length filed.rows

/-- The letters are numbered from one, in the order in which they were recorded. -/
theorem numbered (filed : db.Filed told) :
    db.tables.letters.map LetterRow.id =
      (List.range db.tables.letters.length).map fun n : Nat => (n : Int) + 1 := by
  have ids := congrArg (List.map LetterRow.id) filed.rows
  rw [List.map_map] at ids
  refine ids.trans (List.ext_getElem (by simp [filed.length_letters]) ?_)
  intro n first second
  simp [Recorded.row, letterRow]

theorem distinct (filed : db.Filed told) : (db.tables.letters.map LetterRow.id).Nodup := by
  rw [filed.numbered]
  refine List.nodup_range.map ?_
  intro m n (same : (m : Int) + 1 = n + 1)
  omega

/-- The calls that record and close nothing, and leave the letters alone. -/
theorem aside (filed : db.Filed told) (letters : after.tables.letters = db.tables.letters)
    (ids : after.letterIds = db.letterIds) (idle : after.Idle)
    (recorded : OutboxReply.recorded? (call, answer) = none)
    (closed : OutboxReply.closed? (call, answer) = none) :
    after.Filed (told ++ [(call, answer)]) := by
  have records : recordedIn (told ++ [(call, answer)]) = recordedIn told := by
    simp [recordedIn, recorded]
  have closings : closingsIn (told ++ [(call, answer)]) = closingsIn told := by
    simp [closingsIn, closed]
  constructor
  · exact idle
  · rw [ids, letters, filed.used]
  · rw [ids]
    exact filed.bound
  · rw [letters, records, filed.rows]
  · rw [letters, closings]
    exact filed.stands
  · rw [letters, closings]
    exact filed.known
  · rw [Tables.pending, letters, closings]
    exact filed.tally

theorem record (filed : db.Filed told) (letter : DeadLetter) (enqueued failed : Moment)
    (free : (db.letterIds : Int) < maxInt64) :
    (db.withLetter letter enqueued failed).Filed
      (told ++ [(.record letter enqueued failed, .done (.ok ()))]) := by
  have records : recordedIn (told ++ [(.record letter enqueued failed, .done (.ok ()))]) =
      recordedIn told ++ [⟨letter, enqueued, failed⟩] := by
    simp [recordedIn, OutboxReply.recorded?]
  have closings : closingsIn (told ++ [(.record letter enqueued failed, .done (.ok ()))]) =
      closingsIn told := by
    simp [closingsIn, OutboxReply.closed?, OutboxCall.closing?]
  constructor
  · exact filed.idle.of_same rfl rfl
  · simp [withLetter, filed.used]
  · simp only [withLetter]
    omega
  · rw [records, List.mapIdx_concat, ← filed.rows, ← filed.length_letters, ← filed.used]
    simp only [withLetter, List.map_append, List.map_cons, List.map_nil]
    rfl
  · intro row member
    rw [closings]
    rcases List.mem_append.mp member with earlier | new
    · exact filed.stands row earlier
    · rw [List.mem_singleton.mp new]
      refine .waits rfl rfl rfl ?_
      intro c closed same
      -- Only rows that were there before have been closed.
      have there := filed.known c closed
      rw [filed.numbered, same] at there
      obtain ⟨n, bound, named⟩ := List.mem_map.mp there
      have bound := List.mem_range.mp bound
      simp only [letterRow, filed.used] at named
      omega
  · intro c closed
    rw [closings] at closed
    simp only [withLetter, List.map_append]
    exact List.mem_append_left _ (filed.known c closed)
  · have one : (db.letterRow letter enqueued failed).status = .pending := rfl
    have tally := filed.tally
    rw [closings]
    simp only [Tables.pending, withLetter, List.filter_append, List.length_append] at tally ⊢
    simp [one]
    omega

theorem close (filed : db.Filed told) {c : Closing} (meant : call.closing? = some c)
    (letters : db.tables.letters = before ++ row :: rest) (found : c.finds row = true) :
    Filed { db.tick with tables := { db.tables with
        letters := before ++ closed row c.status c.notes db.now :: rest } }
      (told ++ [(call, .done (.ok ()))]) := by
  have records : recordedIn (told ++ [(call, .done (.ok ()))]) = recordedIn told := by
    cases call <;> cases meant <;> simp [recordedIn, OutboxReply.recorded?]
  have closings : closingsIn (told ++ [(call, .done (.ok ()))]) = closingsIn told ++ [c] := by
    simp [closingsIn, OutboxReply.closed?, meant]
  obtain ⟨named, waits⟩ : row.id = c.id ∧ row.status = .pending := by
    simpa [Closing.finds] using found
  have final := final_of_closing meant
  have distinct := filed.distinct
  rw [letters, List.map_append, List.map_cons, List.nodup_middle, ← List.map_append] at distinct
  have apart := (List.nodup_cons.mp distinct).1
  constructor
  · exact filed.idle.of_same rfl rfl
  · simpa [letters, tick] using filed.used
  · exact filed.bound
  · rw [records, ← filed.rows, letters]
    simp only [List.map_append, List.map_cons]
    rfl
  · intro other member
    rw [closings]
    by_cases own : other = closed row c.status c.notes db.now
    · subst own
      -- It was pending, so nothing before has closed it.
      cases filed.stands row (by simp [letters]) with
      | closed other status => exact absurd (status.symm.trans waits) other
      | waits _ _ _ unmarked =>
        refine .closed (c := c) final rfl rfl rfl ?_
        have none : (closingsIn told).filter (·.id = c.id) = [] := by
          rw [← named]
          simpa using unmarked
        rw [List.filter_append]
        simp [closed, none, named]
    · have elsewhere : other ∈ before ++ rest := by
        simpa [own] using member
      have differs : c.id ≠ other.id := by
        intro same
        exact apart (by rw [named, same]; exact List.mem_map_of_mem elsewhere)
      cases filed.stands other (by rw [letters]; simp at elsewhere ⊢; tauto) with
      | waits pending undated bare unmarked =>
        refine .waits pending undated bare ?_
        intro d member
        rcases List.mem_append.mp member with earlier | new
        · exact unmarked d earlier
        · rwa [List.mem_singleton.mp new]
      | closed final status dated notes once =>
        refine .closed final status dated notes ?_
        rw [List.filter_append, once]
        simp [differs]
  · intro d closing
    rw [closings] at closing
    have ids : (before ++ closed row c.status c.notes db.now :: rest).map LetterRow.id =
        db.tables.letters.map LetterRow.id := by
      simp [letters, closed]
    show d.id ∈ (before ++ closed row c.status c.notes db.now :: rest).map LetterRow.id
    rw [ids]
    rcases List.mem_append.mp closing with earlier | new
    · exact filed.known d earlier
    · rw [List.mem_singleton.mp new, ← named, letters]
      simp
  · have tally := filed.tally
    rw [closings]
    simp only [Tables.pending, letters, List.filter_append, List.filter_cons, List.length_append,
      waits, closed, final, decide_true, decide_false, if_true, List.length_cons] at tally ⊢
    simp
    omega

theorem move (filed : db.Filed told) (move : OutboxMove db call answer after) :
    after.Filed (told ++ [(call, answer)]) := by
  cases move with
  | @recorded letter enqueued failed text free => exact filed.record letter enqueued failed free
  | refused unfit => exact filed.aside rfl rfl filed.idle rfl rfl
  | closed meant text rows found => exact filed.close meant rows found
  | missed meant text missed => exact filed.aside rfl rfl filed.idle.tick (by cases call <;> rfl) rfl
  | unwritable meant text => exact filed.aside rfl rfl filed.idle (by cases call <;> rfl) rfl
  | listed | counted => exact filed.aside rfl rfl filed.idle rfl rfl

end Filed

theorem serve?_move {replies : List OutboxReply} (filed : db.Filed told)
    (step : db.serve? call = some (after, replies)) :
    ∃ answer, replies = [(call, answer)] ∧ OutboxMove db call answer after := by
  have move := filed.idle.outbox_move filed.distinct call
  cases step
  exact ⟨_, rfl, move⟩

theorem filed_of_leads (run : Leads serve? ready told db) : db.Filed told := by
  refine run.keeps ready_filed ?_
  intro db told call after replies filed step
  obtain ⟨answer, rfl, move⟩ := serve?_move filed step
  exact filed.move move

/-- Every row stays at its place, and may age there. -/
def RowsAge (db after : Database) : Prop :=
  ∀ (n : Nat) (row : LetterRow), db.tables.letters[n]? = some row →
    ∃ next, after.tables.letters[n]? = some next ∧ row.Ages next

theorem RowsAge.of_same (letters : after.tables.letters = db.tables.letters) :
    db.RowsAge after := by
  intro n row here
  exact ⟨row, letters ▸ here, .same⟩

theorem OutboxMove.rowsAge (move : OutboxMove db call answer after) : db.RowsAge after := by
  cases move with
  | recorded text free =>
    intro n row here
    have bound := (List.getElem?_eq_some_iff.mp here).1
    exact ⟨row, by simpa only [withLetter, List.getElem?_append_left bound] using here, .same⟩
  | @closed _ c before rest row meant text rows found =>
    have waits : row.status = .pending := by
      simp only [Closing.finds, decide_eq_true_eq] at found
      exact found.2
    have set : before ++ Database.closed row c.status c.notes db.now :: rest =
        db.tables.letters.set before.length (Database.closed row c.status c.notes db.now) := by
      simp [rows]
    intro n other here
    simp only [set]
    by_cases place : before.length = n
    · subst place
      obtain rfl : row = other := by simpa [rows] using here
      exact ⟨Database.closed row c.status c.notes db.now, by simp [rows],
        .closed waits (final_of_closing meant)⟩
    · exact ⟨other, by rwa [List.getElem?_set_ne place], .same⟩
  | _ => exact .of_same rfl

/-- Rows age along a run. -/
theorem Filed.rowsAge {more : List OutboxReply} (filed : db.Filed told)
    (run : Leads serve? db more after) : db.RowsAge after := by
  refine (run.keeps (P := fun after more => after.Filed (told ++ more) ∧ db.RowsAge after)
    ⟨by simpa using filed, .of_same rfl⟩ ?_).2
  rintro after more call last replies ⟨filed, aged⟩ step
  obtain ⟨answer, rfl, move⟩ := serve?_move filed step
  refine ⟨by simpa using filed.move move, ?_⟩
  intro n row here
  obtain ⟨next, there, first⟩ := aged n row here
  obtain ⟨last, ends, second⟩ := move.rowsAge n next there
  exact ⟨last, ends, first.trans second⟩

/-- The rows of a list of the oldest, with those that it leaves out, are all rows; the list goes by
time, and no row that is left out is older than one of the list. -/
theorem oldest_listed (rows : List LetterRow) (limit : Nat) :
    ∃ omitted,
      ((rows.mergeSort (fun a b => a.failed ≤ b.failed)).take limit ++ omitted).Perm rows ∧
      ((rows.mergeSort (fun a b => a.failed ≤ b.failed)).take limit ++ omitted).Pairwise
        (·.failed ≤ ·.failed) := by
  refine ⟨(rows.mergeSort (fun a b => a.failed ≤ b.failed)).drop limit, ?_, ?_⟩
  · rw [List.take_append_drop]
    exact List.mergeSort_perm _ _
  · rw [List.take_append_drop]
    have sorted : (rows.mergeSort (fun a b => a.failed ≤ b.failed)).Pairwise
        (fun a b => decide (a.failed ≤ b.failed) = true) :=
      List.pairwise_mergeSort (fun a b c first second => by
        simp only [decide_eq_true_eq] at first second ⊢
        exact Moment.le_trans first second)
      (fun a b => by simpa using Moment.le_total a.failed b.failed) rows
    simpa only [decide_eq_true_eq] using sorted

/-- No more rows wait than a limit can ask for. -/
theorem Filed.length_pending_le (filed : db.Filed told) :
    (db.tables.pending.length : Int) ≤ maxInt64 := by
  have within := List.length_filter_le (fun r : LetterRow => decide (r.status = .pending))
    db.tables.letters
  have used := filed.used
  have bound := filed.bound
  rw [Tables.pending]
  omega

/-- A closing that finds no row is an error and changes no table; one that finds a row and whose
notes are text succeeds. -/
theorem OutboxMove.closing {c : Closing} (move : OutboxMove db call answer after)
    (meant : call.closing? = some c) :
    ((∃ row ∈ db.tables.letters, c.finds row = true) → isColumnText c.notes = true →
        answer = .done (.ok ())) ∧
      ((∀ row ∈ db.tables.letters, c.finds row = false) →
        (∃ e, answer = .done (.error e)) ∧ after.tables = db.tables) := by
  cases move with
  | @closed _ other before rest row own text rows found =>
    obtain rfl : other = c := by simpa [meant] using own.symm
    refine ⟨fun _ _ => rfl, ?_⟩
    intro missed
    simp [missed row (by simp [rows])] at found
  | @missed _ other own text missed =>
    obtain rfl : other = c := by simpa [meant] using own.symm
    refine ⟨?_, fun _ => ⟨⟨_, rfl⟩, rfl⟩⟩
    rintro ⟨row, member, found⟩
    simp [missed row member] at found
  | @unwritable _ other own text =>
    obtain rfl : other = c := by simpa [meant] using own.symm
    refine ⟨?_, fun _ => ⟨⟨_, rfl⟩, rfl⟩⟩
    intro _ readable
    simp [text] at readable
  | _ => cases meant

/-- The account of the outbox after any sequence of calls. Each recorded letter has one row, which
is as it was recorded until the one call that closes it, and has a time and notes just when it is
closed; over whatever is called later, a row changes only by being closed. A letter that the columns
can hold is recorded. A closing that finds no pending row of its number is an error and changes
nothing. The rows that wait are as many as were recorded and not closed, and a list of them, of any
limit, holds the oldest in their order. -/
theorem outbox_accounts (run : Leads serve? ready told db) :
    db.tables.letters.map LetterRow.reopened = (recordedIn told).mapIdx (fun n r => r.row n) ∧
      (∀ row ∈ db.tables.letters, row.Stands (closingsIn told) ∧
        (row.resolved.isSome ↔ row.status ≠ .pending) ∧
        (row.notes.isSome ↔ row.status ≠ .pending)) ∧
      (∀ more later, Leads serve? db more later → db.RowsAge later) ∧
      (∀ letter enqueued failed, letter.lastError.all isColumnText = true →
        ((recordedIn told).length : Int) < maxInt64 →
        db.outbox (.record letter enqueued failed) =
          (.done (.ok ()), db.withLetter letter enqueued failed)) ∧
      (∀ call c, call.closing? = some c →
        ((∃ row ∈ db.tables.letters, c.finds row = true) → isColumnText c.notes = true →
          (db.outbox call).1 = .done (.ok ())) ∧
        ((∀ row ∈ db.tables.letters, c.finds row = false) →
          (∃ e, (db.outbox call).1 = .done (.error e)) ∧
            (db.outbox call).2.tables = db.tables)) ∧
      ∃ count, count + (closingsIn told).length = (recordedIn told).length ∧
        db.outbox .count = (.counted (.ok count), db) ∧
        ∀ limit, ∃ listed omitted, db.outbox (.pending limit) = (.listed (.ok listed), db) ∧
          listed.length = min limit count ∧ (listed ++ omitted).Perm db.tables.pending ∧
          listed.Pairwise (·.failed ≤ ·.failed) ∧
          ∀ row ∈ listed, ∀ other ∈ omitted, ¬ other.failed < row.failed := by
  have filed := filed_of_leads run
  refine ⟨filed.rows, ?_, fun more later => filed.rowsAge, ?_, ?_, ?_⟩
  · intro row member
    exact ⟨filed.stands row member, (filed.stands row member).resolved_iff⟩
  · intro letter enqueued failed text free
    have fit : letter.lastError.all isColumnText = true ∧ (db.letterIds : Int) < maxInt64 := by
      rw [filed.used, filed.length_letters]
      exact ⟨text, free⟩
    exact filed.idle.outbox_record fit
  · intro call c meant
    exact (filed.idle.outbox_move filed.distinct call).closing meant
  · refine ⟨db.tables.pending.length, ?_, filed.idle.outbox_count, ?_⟩
    · rw [filed.tally, filed.length_letters]
    · intro limit
      obtain ⟨omitted, all, sorted⟩ := oldest_listed db.tables.pending (cutLimit limit)
      obtain ⟨first, _, apart⟩ := List.pairwise_append.mp sorted
      refine ⟨_, omitted, filed.idle.outbox_pending limit, ?_, all, first, apart⟩
      have bound := filed.length_pending_le
      rw [List.length_take, List.length_mergeSort, cutLimit]
      omega

/-- Two letters, of which the first is closed once and for all; a letter that is not there. -/
def twoLetters : List OutboxCall :=
  [.record ⟨⟨⟨7⟩, ⟨1⟩, 3⟩, .retriesExhausted, some "gone"⟩ ⟨0, 0⟩ ⟨20, 0⟩,
    .record ⟨⟨⟨8⟩, ⟨1⟩, 0⟩, .shutdown, none⟩ ⟨0, 0⟩ ⟨10, 0⟩, .resolve 1 "replayed by hand",
    .discard 1 "too late", .resolve 3 "unknown"]

theorem outbox_accounts_twoLetters :
    ∃ told db, Leads serve? ready told db ∧ (recordedIn told).length = 2 ∧
      (closingsIn told).map Closing.id = [1] ∧ db.outbox .count = (.counted (.ok 1), db) := by
  have run : ∃ told db, run? serve? ready twoLetters = some (db, told) ∧
      (recordedIn told).length = 2 ∧ (closingsIn told).map Closing.id = [1] :=
    ⟨_, _, rfl, rfl, rfl⟩
  obtain ⟨told, db, run, recorded, closed⟩ := run
  obtain ⟨_, _, _, _, _, count, tally, counted, _⟩ := outbox_accounts ⟨twoLetters, run⟩
  have closings : (closingsIn told).length = 1 := by
    simpa using congrArg List.length closed
  obtain rfl : count = 1 := by omega
  exact ⟨told, db, ⟨twoLetters, run⟩, recorded, closed, counted⟩

end Database
end CouponSale

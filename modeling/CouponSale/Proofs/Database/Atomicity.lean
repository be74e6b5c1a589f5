import CouponSale.Proofs.Database.Statements

/-!
The writes of a database are all or nothing, whatever fails. A statement that fails has no effect,
and a transaction that does not get to its end is taken back, so a call that fails leaves every row
as it was. The rest of what it leaves, the time and the failures that are due, decides neither the
answers nor the rows of later calls but for the times in them. So a write that is repeated until it
succeeds does what one success does.
-/
namespace CouponSale

variable {t : Tables} {user : UserId} {coupon : CouponId} {c : Coupon}

namespace Tables

/-- Some row of a coupon has a unit left. -/
def HasUnit (t : Tables) (coupon : CouponId) : Prop :=
  ∃ c ∈ t.coupons, c.id = coupon ∧ 0 < c.stock

/-- What a claim that was persisted did to the rows. -/
inductive Persists (t : Tables) (user : UserId) (coupon : CouponId) (claimed : Moment) :
    Persisted → Tables → Prop
  | alreadyThere (held : t.hasClaim user coupon = true) :
      Persists t user coupon claimed .alreadyThere t
  | written {c : Coupon} (free : t.hasClaim user coupon = false)
      (found : t.coupon? coupon = some c) (more : 0 < c.stock) :
      Persists t user coupon claimed .written { t with
        claims := ⟨user, coupon, ClaimStatus.unused.label, claimed⟩ :: t.claims
        coupons := t.coupons.map (Coupon.less coupon) }

/-- What an inserted claim did to the rows. -/
inductive Inserts (t : Tables) (user : UserId) (coupon : CouponId) (claimed : Moment) :
    Bool → Tables → Prop
  | held (held : t.hasClaim user coupon = true) : Inserts t user coupon claimed false t
  | new {c : Coupon} (free : t.hasClaim user coupon = false)
      (found : t.coupon? coupon = some c) :
      Inserts t user coupon claimed true { t with
        claims := ⟨user, coupon, ClaimStatus.unused.label, claimed⟩ :: t.claims }

/-- Where numbers are given once, a unit is left when the coupon of the number has one. -/
theorem HasUnit.found (unit : t.HasUnit coupon) (distinct : (t.coupons.map Coupon.id).Nodup) :
    ∃ c, t.coupon? coupon = some c ∧ 0 < c.stock := by
  obtain ⟨d, member, named, more⟩ := unit
  cases found : t.coupon? coupon with
  | none => simpa [named] using List.find?_eq_none.mp found d member
  | some c =>
    rw [coupon?_only distinct found member named] at more
    exact ⟨c, rfl, more⟩

theorem takeUnit_iff : (t.takeUnit coupon).1 = true ↔ t.HasUnit coupon := by
  simp [takeUnit, HasUnit]

end Tables

namespace Database

variable {db after : Database} {α : Type}

/-- The tables aside, nothing differs but the time and the failures that are due. -/
structure Within (db after : Database) : Prop where
  schema : after.schema = db.schema
  couponIds : after.couponIds = db.couponIds
  letterIds : after.letterIds = db.letterIds
  ticks : db.ticks ≤ after.ticks

theorem Within.refl (db : Database) : db.Within db := ⟨rfl, rfl, rfl, Nat.le_refl _⟩

theorem Within.trans {mid : Database} (first : db.Within mid) (second : mid.Within after) :
    db.Within after where
  schema := second.schema.trans first.schema
  couponIds := second.couponIds.trans first.couponIds
  letterIds := second.letterIds.trans first.letterIds
  ticks := Nat.le_trans first.ticks second.ticks

theorem Within.rollback (within : db.Within after) : db.Within (after.rollback db) :=
  ⟨rfl, within.couponIds, within.letterIds, within.ticks⟩

section Statements

variable {s : Statement} {effect : Database → Option α × Database}

theorem send_of_fails (fails : db.Fails s) :
    (db.send s effect).1 = .error s.failure ∧ (db.send s effect).2.tables = db.tables ∧
      db.Within (db.send s effect).2 := by
  unfold send
  split_ifs with missing
  · exact ⟨rfl, rfl, .refl db⟩
  · cases due : db.failing s with
    | zero => exact absurd due (fails.resolve_left missing)
    | succ n => exact ⟨rfl, rfl, ⟨rfl, rfl, rfl, Nat.le_refl _⟩⟩

theorem send_ok_iff {a : α} :
    db.send s effect = (.ok a, after) ↔ ¬ db.Fails s ∧ effect db = (some a, after) := by
  constructor
  · intro sent
    have works : ¬ db.Fails s := by
      intro fails
      have failed := congrArg Prod.fst sent
      rw [(send_of_fails fails).1] at failed
      cases failed
    refine ⟨works, ?_⟩
    cases did : effect db with
    | mk answer left =>
      cases answer with
      | none =>
        rw [send_none works effect did] at sent
        cases sent
      | some b =>
        rw [send_some works effect did] at sent
        cases sent
        rfl
  · rintro ⟨works, did⟩
    exact send_some works effect did

theorem send_within (confined : db.Within (effect db).2) : db.Within (db.send s effect).2 := by
  by_cases fails : db.Fails s
  · exact (send_of_fails fails).2.2
  · cases did : effect db with
    | mk answer left =>
      rw [did] at confined
      cases answer with
      | none => simpa only [send_none fails effect did] using confined
      | some a => simpa only [send_some fails effect did] using confined

theorem mark_of_works (works : ¬ db.Fails s) : db.mark s = (.ok (), db) :=
  send_some works _ rfl

theorem mark_of_fails (fails : db.Fails s) :
    ∃ left, db.mark s = (.error s.failure, left) ∧ left.tables = db.tables ∧ db.Within left := by
  have failed : (db.mark s).1 = .error s.failure ∧ (db.mark s).2.tables = db.tables ∧
      db.Within (db.mark s).2 := send_of_fails fails
  exact ⟨_, Prod.ext failed.1 rfl, failed.2⟩

end Statements

section Transactions

variable {work : Database → Answer α × Database}

/-- How a transaction goes. -/
inductive Transacts (db : Database) (work : Database → Answer α × Database) :
    Answer α → Database → Prop
  | unopened {left : Database} (fails : db.Fails .begin) (same : left.tables = db.tables)
      (within : db.Within left) : Transacts db work (.error Statement.begin.failure) left
  | undone {e : Failure} {worked : Database} (opens : ¬ db.Fails .begin)
      (failed : work db = (.error e, worked)) :
      Transacts db work (.error e) (worked.rollback db)
  | uncommitted {a : α} {worked ended : Database} (opens : ¬ db.Fails .begin)
      (done : work db = (.ok a, worked)) (fails : worked.Fails .commit)
      (within : worked.Within ended) :
      Transacts db work (.error Statement.commit.failure) (ended.rollback db)
  | committed {a : α} {worked : Database} (opens : ¬ db.Fails .begin)
      (done : work db = (.ok a, worked)) (commits : ¬ worked.Fails .commit) :
      Transacts db work (.ok a) worked

theorem transact_transacts (db : Database) (work : Database → Answer α × Database) :
    db.Transacts work (db.transact work).1 (db.transact work).2 := by
  by_cases opens : db.Fails .begin
  · obtain ⟨left, marked, same, within⟩ := mark_of_fails opens
    simp only [transact, marked]
    exact .unopened opens same within
  · cases done : work db with
    | mk answer worked =>
      cases answer with
      | error e =>
        simp only [transact, mark_of_works opens, done]
        exact .undone opens done
      | ok a =>
        by_cases commits : worked.Fails .commit
        · obtain ⟨ended, marked, -, within⟩ := mark_of_fails commits
          simp only [transact, mark_of_works opens, done, marked]
          exact .uncommitted opens done commits within
        · simp only [transact, mark_of_works opens, done, mark_of_works commits]
          exact .committed opens done commits

/-- A transaction that ends in an error leaves every row as it was, whatever its work did. -/
theorem tables_of_transact_error {e : Failure} (failed : (db.transact work).1 = .error e) :
    (db.transact work).2.tables = db.tables := by
  have transacts := transact_transacts db work
  generalize (db.transact work).1 = answer, (db.transact work).2 = left at transacts failed
  cases transacts with
  | unopened _ same => exact same
  | undone => rfl
  | uncommitted => rfl
  | committed => cases failed

theorem transact_ok_iff {a : α} :
    db.transact work = (.ok a, after) ↔
      ¬ db.Fails .begin ∧ work db = (.ok a, after) ∧ ¬ after.Fails .commit := by
  constructor
  · intro transacted
    have transacts := transact_transacts db work
    rw [transacted] at transacts
    cases transacts with
    | committed opens done commits => exact ⟨opens, done, commits⟩
  · rintro ⟨opens, done, commits⟩
    simp only [transact, mark_of_works opens, done, mark_of_works commits]

/-- A transaction of one statement gets to its end when neither the statement nor the beginning nor
the commit fails, and the statement does its work. -/
theorem transact_statement_iff {s : Statement} {a : α} {did : Prop}
    (statement : work db = (.ok a, after) ↔ ¬ db.Fails s ∧ did)
    (still : did → (after.Fails .commit ↔ db.Fails .commit)) :
    db.transact work = (.ok a, after) ↔
      (∀ k ∈ [Statement.begin, s, .commit], ¬ db.Fails k) ∧ did := by
  rw [transact_ok_iff, statement]
  simp only [List.forall_mem_cons]
  constructor
  · rintro ⟨begins, ⟨works, done⟩, commits⟩
    exact ⟨⟨begins, works, (still done).not.mp commits, by simp⟩, done⟩
  · rintro ⟨⟨begins, works, commits, -⟩, done⟩
    exact ⟨begins, ⟨works, done⟩, (still done).not.mpr commits⟩

theorem transact_within (confined : db.Within (work db).2) :
    db.Within (db.transact work).2 := by
  have transacts := transact_transacts db work
  generalize (db.transact work).1 = answer, (db.transact work).2 = left at transacts
  cases transacts with
  | unopened _ _ within => exact within
  | undone _ failed =>
    rw [failed] at confined
    exact confined.rollback
  | uncommitted _ done _ within =>
    rw [done] at confined
    exact (confined.trans within).rollback
  | committed _ done =>
    rw [done] at confined
    exact confined

end Transactions

section Work

theorem takeUnit_ok_iff (distinct : (db.tables.coupons.map Coupon.id).Nodup) :
    db.takeUnit coupon = (.ok (), after) ↔ ¬ db.Fails .decrement ∧ db.tables.HasUnit coupon ∧
      after = db.withLess coupon := by
  have sends : db.takeUnit coupon = (.ok (), after) ↔ db.send .decrement (fun db =>
      (some (db.tables.takeUnit coupon).1,
        { db with tables := (db.tables.takeUnit coupon).2 })) = (.ok true, after) := by
    unfold takeUnit
    split <;> simp_all
  rw [sends, send_ok_iff, ← Tables.takeUnit_iff]
  refine and_congr_right fun _ => ?_
  simp only [Prod.mk.injEq, Option.some.injEq, @eq_comm _ after]
  refine and_congr_right fun taken => ?_
  obtain ⟨c, found, more⟩ := (Tables.takeUnit_iff.mp taken).found distinct
  rw [Tables.takeUnit_of_more distinct found more]
  rfl

theorem addClaim_new_iff :
    db.addClaim user coupon = (.ok true, after) ↔ ¬ db.Fails .insertClaim ∧
      db.tables.hasClaim user coupon = false ∧ (∃ c, db.tables.coupon? coupon = some c) ∧
      after = db.withClaim user coupon := by
  rw [addClaim, send_ok_iff]
  refine and_congr_right fun _ => ?_
  split_ifs with held unknown
  · simp [held]
  · simp [Option.isNone_iff_eq_none.mp unknown]
  · obtain ⟨c, found⟩ := Option.ne_none_iff_exists'.mp (mt Option.isNone_iff_eq_none.mpr unknown)
    simp [held, found, withClaim, eq_comm]

theorem addClaim_held_iff :
    db.addClaim user coupon = (.ok false, after) ↔ ¬ db.Fails .insertClaim ∧
      db.tables.hasClaim user coupon = true ∧ after = db := by
  rw [addClaim, send_ok_iff]
  refine and_congr_right fun _ => ?_
  split_ifs with held
  · simp [held, eq_comm]
  · simp [held]
  · simp [held]

theorem takeUnit_within (db : Database) (coupon : CouponId) :
    db.Within (db.takeUnit coupon).2 := by
  have sent : db.Within (db.send .decrement (fun db =>
      (some (db.tables.takeUnit coupon).1,
        { db with tables := (db.tables.takeUnit coupon).2 }))).2 :=
    send_within ⟨rfl, rfl, rfl, Nat.le_refl _⟩
  unfold takeUnit
  split <;> simp_all

theorem addClaim_within (db : Database) (user : UserId) (coupon : CouponId) :
    db.Within (db.addClaim user coupon).2 := by
  apply send_within
  split_ifs
  · exact .refl db
  · exact .refl db
  · exact ⟨rfl, rfl, rfl, Nat.le_succ _⟩

end Work

section Calls

/-- The statements that persisting a claim comes to when none fails. -/
def persistSends (db : Database) (user : UserId) (coupon : CouponId) : List Statement :=
  if db.tables.hasClaim user coupon then [.begin, .insertClaim, .commit]
  else [.begin, .insertClaim, .decrement, .commit]

/-- What is done in the transaction of a claim that is persisted. -/
def persistWork (user : UserId) (coupon : CouponId) (db : Database) :
    Answer Persisted × Database :=
  match db.addClaim user coupon with
  | (.error e, db) => (.error e, db)
  | (.ok false, db) => (.ok .alreadyThere, db)
  | (.ok true, db) =>
    match db.takeUnit coupon with
    | (.error e, db) => (.error e, db)
    | (.ok (), db) => (.ok .written, db)

theorem persistWork_there_iff :
    persistWork user coupon db = (.ok .alreadyThere, after) ↔
      db.addClaim user coupon = (.ok false, after) := by
  unfold persistWork
  split
  · simp_all
  · simp_all
  · split <;> simp_all

theorem persistWork_written_iff :
    persistWork user coupon db = (.ok .written, after) ↔
      ∃ wrote, db.addClaim user coupon = (.ok true, wrote) ∧
        wrote.takeUnit coupon = (.ok (), after) := by
  unfold persistWork
  split
  · simp_all
  · simp_all
  · split <;> simp_all

theorem persistWork_within (db : Database) (user : UserId) (coupon : CouponId) :
    db.Within (persistWork user coupon db).2 := by
  have added := addClaim_within db user coupon
  unfold persistWork
  split
  · rename_i wrote missed
    rwa [missed] at added
  · rename_i wrote held
    rwa [held] at added
  · rename_i wrote written
    rw [written] at added
    have took := added.trans (takeUnit_within wrote coupon)
    split <;> simp_all

theorem persist_there_iff :
    db.persist user coupon = (.ok .alreadyThere, after) ↔
      (∀ s ∈ [Statement.begin, .insertClaim, .commit], ¬ db.Fails s) ∧
        db.tables.hasClaim user coupon = true ∧ after = db :=
  transact_statement_iff (persistWork_there_iff.trans addClaim_held_iff) fun ⟨_, same⟩ => by
    rw [same]

theorem persist_written_iff (distinct : (db.tables.coupons.map Coupon.id).Nodup) :
    db.persist user coupon = (.ok .written, after) ↔
      (∀ s ∈ [Statement.begin, .insertClaim, .decrement, .commit], ¬ db.Fails s) ∧
        db.tables.hasClaim user coupon = false ∧ db.tables.HasUnit coupon ∧
        after = (db.withClaim user coupon).withLess coupon := by
  have work : db.persist user coupon = db.transact (persistWork user coupon) := rfl
  have still : ((db.withClaim user coupon).tables.coupons.map Coupon.id).Nodup := distinct
  rw [work, transact_ok_iff, persistWork_written_iff]
  simp only [List.forall_mem_cons]
  constructor
  · rintro ⟨begins, ⟨wrote, added, took⟩, commits⟩
    obtain ⟨inserts, free, -, rfl⟩ := addClaim_new_iff.mp added
    obtain ⟨takes, unit, rfl⟩ := (takeUnit_ok_iff still).mp took
    exact ⟨⟨begins, inserts, takes, commits, by simp⟩, free, unit, rfl⟩
  · rintro ⟨⟨begins, inserts, takes, commits, -⟩, free, unit, rfl⟩
    obtain ⟨c, found, -⟩ := unit.found distinct
    exact ⟨begins, ⟨_, addClaim_new_iff.mpr ⟨inserts, free, ⟨c, found⟩, rfl⟩,
      (takeUnit_ok_iff still).mpr ⟨takes, unit, rfl⟩⟩, commits⟩

theorem insertClaim_new_iff :
    db.insertClaim user coupon = (.ok true, after) ↔
      (∀ s ∈ [Statement.begin, .insertClaim, .commit], ¬ db.Fails s) ∧
        db.tables.hasClaim user coupon = false ∧ (∃ c, db.tables.coupon? coupon = some c) ∧
        after = db.withClaim user coupon :=
  transact_statement_iff addClaim_new_iff fun ⟨_, _, same⟩ => by
    rw [same]
    rfl

theorem insertClaim_held_iff :
    db.insertClaim user coupon = (.ok false, after) ↔
      (∀ s ∈ [Statement.begin, .insertClaim, .commit], ¬ db.Fails s) ∧
        db.tables.hasClaim user coupon = true ∧ after = db :=
  transact_statement_iff addClaim_held_iff fun ⟨_, same⟩ => by rw [same]

theorem decrement_ok_iff (distinct : (db.tables.coupons.map Coupon.id).Nodup) :
    db.decrement coupon = (.ok (), after) ↔
      (∀ s ∈ [Statement.begin, .decrement, .commit], ¬ db.Fails s) ∧
        db.tables.HasUnit coupon ∧ after = db.withLess coupon :=
  transact_statement_iff (takeUnit_ok_iff distinct) fun ⟨_, same⟩ => by
    rw [same]
    rfl

theorem persist_within (db : Database) (user : UserId) (coupon : CouponId) :
    db.Within (db.persist user coupon).2 :=
  transact_within (persistWork_within db user coupon)

end Calls

/-- A call that fails just under a condition, and then leaves every row as it was; what it does when
it succeeds is said of its answer and of the rows that it leaves. -/
structure AllOrNothing (db : Database) (called : Answer α × Database) (fails : Prop)
    (does : α → Tables → Prop) : Prop where
  refused : (∃ e, called.1 = .error e) ↔ fails
  nothing : ∀ e, called.1 = .error e → called.2.tables = db.tables
  all : ∀ a, called.1 = .ok a → does a called.2.tables

/-- A transaction is all or nothing if it succeeds just when the condition does not hold. -/
theorem AllOrNothing.of_transact {work : Database → Answer α × Database} {fails : Prop}
    {does : α → Tables → Prop}
    (done : ∀ a after, db.transact work = (.ok a, after) → ¬ fails ∧ does a after.tables)
    (succeeds : ¬ fails → ∃ a after, db.transact work = (.ok a, after)) :
    db.AllOrNothing (db.transact work) fails does where
  refused := by
    constructor
    · rintro ⟨e, failed⟩
      by_contra sound
      obtain ⟨a, after, ended⟩ := succeeds sound
      rw [ended] at failed
      cases failed
    · intro bound
      cases answer : (db.transact work).1 with
      | error e => exact ⟨e, rfl⟩
      | ok a => exact absurd bound (done a _ (Prod.ext answer rfl)).1
  nothing _ failed := tables_of_transact_error failed
  all a ended := (done a _ (Prod.ext ended rfl)).2

section Atomic

variable (db : Database)

theorem persist_atomic (distinct : (db.tables.coupons.map Coupon.id).Nodup) (user : UserId)
    (coupon : CouponId) :
    db.AllOrNothing (db.persist user coupon)
      ((∃ s ∈ db.persistSends user coupon, db.Fails s) ∨
        db.tables.hasClaim user coupon = false ∧ ¬ db.tables.HasUnit coupon)
      (db.tables.Persists user coupon db.now) := by
  apply AllOrNothing.of_transact
  · intro answer after ended
    cases answer with
    | alreadyThere =>
      obtain ⟨works, held, rfl⟩ := persist_there_iff.mp ended
      rw [persistSends, if_pos held]
      exact ⟨not_or.mpr ⟨by simpa using works, by simp [held]⟩, .alreadyThere held⟩
    | written =>
      obtain ⟨works, free, unit, rfl⟩ := (persist_written_iff distinct).mp ended
      obtain ⟨c, found, more⟩ := unit.found distinct
      rw [persistSends, if_neg (by simp [free])]
      exact ⟨not_or.mpr ⟨by simpa using works, fun spent => spent.2 unit⟩,
        .written free found more⟩
  · intro sound
    obtain ⟨works, unit⟩ := not_or.mp sound
    cases held : db.tables.hasClaim user coupon with
    | true =>
      rw [persistSends, if_pos held] at works
      exact ⟨_, _, persist_there_iff.mpr ⟨by simpa using works, held, rfl⟩⟩
    | false =>
      rw [persistSends, if_neg (by simp [held])] at works
      exact ⟨_, _, (persist_written_iff distinct).mpr ⟨by simpa using works, held,
        by simpa [held] using unit, rfl⟩⟩

theorem insertClaim_atomic (user : UserId) (coupon : CouponId) :
    db.AllOrNothing (db.insertClaim user coupon)
      ((∃ s ∈ [Statement.begin, .insertClaim, .commit], db.Fails s) ∨
        db.tables.hasClaim user coupon = false ∧ db.tables.coupon? coupon = none)
      (db.tables.Inserts user coupon db.now) := by
  apply AllOrNothing.of_transact
  · intro answer after ended
    cases answer with
    | false =>
      obtain ⟨works, held, rfl⟩ := insertClaim_held_iff.mp ended
      exact ⟨not_or.mpr ⟨by simpa using works, by simp [held]⟩, .held held⟩
    | true =>
      obtain ⟨works, free, ⟨c, found⟩, rfl⟩ := insertClaim_new_iff.mp ended
      exact ⟨not_or.mpr ⟨by simpa using works, by simp [found]⟩, .new free found⟩
  · intro sound
    obtain ⟨works, known⟩ := not_or.mp sound
    cases held : db.tables.hasClaim user coupon with
    | true => exact ⟨_, _, insertClaim_held_iff.mpr ⟨by simpa using works, held, rfl⟩⟩
    | false =>
      have found : ∃ c, db.tables.coupon? coupon = some c :=
        Option.ne_none_iff_exists'.mp fun unknown => known ⟨held, unknown⟩
      exact ⟨_, _, insertClaim_new_iff.mpr ⟨by simpa using works, held, found, rfl⟩⟩

theorem decrement_atomic (distinct : (db.tables.coupons.map Coupon.id).Nodup)
    (coupon : CouponId) :
    db.AllOrNothing (db.decrement coupon)
      ((∃ s ∈ [Statement.begin, .decrement, .commit], db.Fails s) ∨
        ¬ db.tables.HasUnit coupon)
      (fun _ after => db.tables.HasUnit coupon ∧
        after = { db.tables with coupons := db.tables.coupons.map (Coupon.less coupon) }) := by
  apply AllOrNothing.of_transact
  · intro _ after ended
    obtain ⟨works, unit, rfl⟩ := (decrement_ok_iff distinct).mp ended
    exact ⟨not_or.mpr ⟨by simpa using works, not_not.mpr unit⟩, unit, rfl⟩
  · intro sound
    obtain ⟨works, unit⟩ := not_or.mp sound
    exact ⟨_, _, (decrement_ok_iff distinct).mpr ⟨by simpa using works, not_not.mp unit, rfl⟩⟩

end Atomic

/-- A claim is persisted again and again, each time with other failures due: the answers, and the
database after them. -/
def persistUnder (user : UserId) (coupon : CouponId) :
    List (Statement → Nat) → Database → List (Answer Persisted) × Database
  | [], db => ([], db)
  | failing :: later, db =>
    let (answer, tried) := { db with failing }.persist user coupon
    let (answers, left) := persistUnder user coupon later tried
    (answer :: answers, left)

/-- Attempts that all fail leave every row as it was. -/
theorem persistUnder_failed {failures : List (Statement → Nat)}
    (failed : ∀ a ∈ (persistUnder user coupon failures db).1, ∃ e, a = .error e) :
    (persistUnder user coupon failures db).2.tables = db.tables ∧
      db.Within (persistUnder user coupon failures db).2 := by
  induction failures generalizing db with
  | nil => exact ⟨rfl, .refl db⟩
  | cons failing later ih =>
    obtain ⟨e, first⟩ := failed _ List.mem_cons_self
    have same : ({ db with failing }.persist user coupon).2.tables = db.tables :=
      tables_of_transact_error first
    have within : db.Within ({ db with failing }.persist user coupon).2 := by
      obtain ⟨schema, couponIds, letterIds, ticks⟩ := persist_within { db with failing } user coupon
      exact ⟨schema, couponIds, letterIds, ticks⟩
    obtain ⟨still, rest⟩ := ih fun a member => failed a (List.mem_cons_of_mem _ member)
    exact ⟨still.trans same, within.trans rest⟩

/-- After attempts that all failed, an attempt is what a first one is at the same time. -/
theorem persistUnder_retries {failures : List (Statement → Nat)}
    (failed : ∀ a ∈ (persistUnder user coupon failures db).1, ∃ e, a = .error e)
    (last : Statement → Nat) :
    { (persistUnder user coupon failures db).2 with failing := last } =
      { db with failing := last, ticks := (persistUnder user coupon failures db).2.ticks } := by
  obtain ⟨same, within⟩ := persistUnder_failed failed
  rw [mk.injEq]
  exact ⟨within.schema, same, within.couponIds, within.letterIds, rfl, rfl⟩

/-- Each write is all or nothing in every state of the tables: it fails just when a statement fails
that it sends or when there is no unit to take or no coupon to claim, and then every row is as
before; else it did what its answer says. A claim that is persisted again and again until it
succeeds does what it would have done the first time. -/
theorem writes_all_or_nothing (db : Database)
    (distinct : (db.tables.coupons.map Coupon.id).Nodup) (user : UserId) (coupon : CouponId) :
    db.AllOrNothing (db.persist user coupon)
        ((∃ s ∈ db.persistSends user coupon, db.Fails s) ∨
          db.tables.hasClaim user coupon = false ∧ ¬ db.tables.HasUnit coupon)
        (db.tables.Persists user coupon db.now) ∧
      db.AllOrNothing (db.insertClaim user coupon)
        ((∃ s ∈ [Statement.begin, .insertClaim, .commit], db.Fails s) ∨
          db.tables.hasClaim user coupon = false ∧ db.tables.coupon? coupon = none)
        (db.tables.Inserts user coupon db.now) ∧
      db.AllOrNothing (db.decrement coupon)
        ((∃ s ∈ [Statement.begin, .decrement, .commit], db.Fails s) ∨
          ¬ db.tables.HasUnit coupon)
        (fun _ after => db.tables.HasUnit coupon ∧
          after = { db.tables with coupons := db.tables.coupons.map (Coupon.less coupon) }) ∧
      ∀ failures last,
        let tried := persistUnder user coupon failures db
        let again := { tried.2 with failing := last }.persist user coupon
        (∀ a ∈ tried.1, ∃ e, a = .error e) →
          db.ticks ≤ tried.2.ticks ∧
          again = { db with failing := last, ticks := tried.2.ticks }.persist user coupon ∧
          ∀ p, again.1 = .ok p → db.tables.Persists user coupon tried.2.now p again.2.tables := by
  refine ⟨db.persist_atomic distinct user coupon, db.insertClaim_atomic user coupon,
    db.decrement_atomic distinct coupon, ?_⟩
  intro failures last tried again failed
  have retries : again =
      { db with failing := last, ticks := tried.2.ticks }.persist user coupon :=
    congrArg (persist · user coupon) (persistUnder_retries failed last)
  refine ⟨(persistUnder_failed failed).2.ticks, retries, ?_⟩
  intro p ended
  rw [retries] at ended ⊢
  have atomic :=
    { db with failing := last, ticks := tried.2.ticks }.persist_atomic distinct user coupon
  exact atomic.all p ended

/-- A database with one coupon, which has one unit. -/
def oneUnit : Database := (new.migrate.2.1.create ⟨"Spring", 1, 500, ⟨0, 0⟩, ⟨3600, 0⟩⟩).2.1

/-- Each statement of a claim fails once. -/
def oneByOne : List (Statement → Nat) :=
  [.begin, .insertClaim, .decrement, .commit].map fun s k => if k = s then 1 else 0

/-- A claim for which every statement failed once is written at last, and takes one unit. -/
theorem writes_all_or_nothing_oneByOne :
    let tried := persistUnder ⟨7⟩ ⟨1⟩ oneByOne oneUnit
    let again := { tried.2 with failing := fun _ => 0 }.persist ⟨7⟩ ⟨1⟩
    (oneUnit.tables.coupons.map Coupon.id).Nodup ∧
      tried.1 = [.error Statement.begin.failure, .error Statement.insertClaim.failure,
        .error Statement.decrement.failure, .error Statement.commit.failure] ∧
      again.1 = .ok .written ∧
      again.2.tables.coupons.map Coupon.stock = [0] ∧
      oneUnit.tables.Persists ⟨7⟩ ⟨1⟩ tried.2.now .written again.2.tables := by
  intro tried again
  have distinct : (oneUnit.tables.coupons.map Coupon.id).Nodup := by decide
  have answers : tried.1 = [.error Statement.begin.failure, .error Statement.insertClaim.failure,
      .error Statement.decrement.failure, .error Statement.commit.failure] := rfl
  have failed : ∀ a ∈ tried.1, ∃ e, a = .error e := by
    rw [answers]
    simp
  obtain ⟨-, -, writes⟩ := (writes_all_or_nothing oneUnit distinct ⟨7⟩ ⟨1⟩).2.2.2 oneByOne
    (fun _ => 0) failed
  exact ⟨distinct, answers, rfl, rfl, writes .written rfl⟩

end Database
end CouponSale

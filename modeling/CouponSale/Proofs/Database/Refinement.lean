import CouponSale.Proofs.Database.Statements
import CouponSale.Proofs.Store.Ledger
import CouponSale.Proofs.Store.SalesCall
import CouponSale.Proofs.Time.Moment

/-!
A database answers like a store in memory. The tables of one keep the coupons and claims of the
ledger of the other, but for the times of the writes. Every call answers the same on related states
and leaves related states, so by induction every list of calls does. The order of the checks differs
and does not show: a claim is there only if its coupon is, and a number is given once.
-/
namespace CouponSale

variable {t : Tables} {l : Ledger} {db : Database} {m : Memory} {user : UserId}
  {coupon : CouponId} {c d : Coupon}

/-- A row without the time it was written. -/
def ClaimRow.undated (r : ClaimRow) : ClaimRow := { r with claimed := .epoch }

/-- The row of a claim, without the time it was written. -/
def ClaimRecord.row (r : ClaimRecord) : ClaimRow := ⟨r.user, r.coupon, r.status.label, .epoch⟩

/-- The tables have the coupons and the claims of a ledger, whenever they were written. -/
structure Tables.Keeps (t : Tables) (l : Ledger) : Prop where
  coupons : t.coupons.map Coupon.undated = l.coupons.map Coupon.undated
  claims : t.claims.map ClaimRow.undated = l.claims.map ClaimRecord.row

theorem stock_eq (same : d.undated = c.undated) : d.stock = c.stock := by
  injection same

theorem Ledger.coupons_takeUnit (l : Ledger) (coupon : CouponId) :
    (l.takeUnit coupon).coupons = l.coupons.map (Coupon.less coupon) := rfl

namespace Tables.Keeps

variable (keeps : t.Keeps l)

theorem empty : Tables.empty.Keeps .empty := ⟨rfl, rfl⟩

include keeps

theorem ids : t.coupons.map Coupon.id = l.coupons.map Coupon.id := by
  simpa [Function.comp_def, Coupon.undated] using congrArg (List.map Coupon.id) keeps.coupons

theorem coupon? (coupon : CouponId) :
    (t.coupon? coupon).map Coupon.undated = (l.find? coupon).map Coupon.undated := by
  have same := congrArg (List.find? (·.id = coupon)) keeps.coupons
  rwa [List.find?_map, List.find?_map] at same

theorem coupon?_none (unknown : l.find? coupon = none) : t.coupon? coupon = none := by
  have same := keeps.coupon? coupon
  rw [unknown] at same
  exact Option.map_eq_none_iff.mp same

theorem coupon?_some (found : l.find? coupon = some c) :
    ∃ d, t.coupon? coupon = some d ∧ d.undated = c.undated := by
  have same := keeps.coupon? coupon
  rw [found] at same
  exact Option.map_eq_some_iff.mp same

theorem hasClaim (user : UserId) (coupon : CouponId) :
    t.hasClaim user coupon = l.hasClaim user coupon := by
  have same := congrArg (List.any · (fun r => r.user = user ∧ r.coupon = coupon)) keeps.claims
  simp only [List.any_map] at same
  exact same

theorem addCoupon (same : c.undated = d.undated) :
    Keeps { t with coupons := t.coupons ++ [c] } { l with coupons := l.coupons ++ [d] } where
  coupons := by simp [keeps.coupons, same]
  claims := keeps.claims

theorem takeUnit (coupon : CouponId) :
    Keeps { t with coupons := t.coupons.map (Coupon.less coupon) } (l.takeUnit coupon) where
  coupons := by
    have less : ∀ c : Coupon, (c.less coupon).undated = c.undated.less coupon := by
      intro c
      unfold Coupon.less Coupon.undated
      split <;> rfl
    have same := congrArg (List.map (Coupon.less coupon)) keeps.coupons
    simpa only [Ledger.coupons_takeUnit, List.map_map, Function.comp_def, ← less] using same
  claims := keeps.claims

theorem addClaim (user : UserId) (coupon : CouponId) (claimed : Moment) :
    Keeps { t with claims := ⟨user, coupon, ClaimStatus.unused.label, claimed⟩ :: t.claims }
      (l.addClaim user coupon) where
  coupons := keeps.coupons
  claims := by
    simp only [Ledger.addClaim, List.map_cons, keeps.claims]
    rfl

end Tables.Keeps

theorem ClaimStatus.parse_label (status : ClaimStatus) : parse status.label = .ok status := by
  cases status <;> rfl

theorem ClaimRow.read_of_row {row : ClaimRow} {r : ClaimRecord} (same : row.undated = r.row) :
    row.read = .ok ⟨r.user, r.coupon, r.status, row.claimed⟩ := by
  obtain ⟨user, coupon, label, claimed⟩ := row
  obtain ⟨rfl, rfl, rfl⟩ : user = r.user ∧ coupon = r.coupon ∧ label = r.status.label := by
    simpa [undated, ClaimRecord.row] using same
  simp only [read, ClaimStatus.parse_label]

theorem ClaimRow.read_rows {rows : List ClaimRow} {records : List ClaimRecord}
    (same : rows.map ClaimRow.undated = records.map ClaimRecord.row) :
    Answer.plain (·.map ClaimRecord.undated) (rows.mapM ClaimRow.read) =
      .ok (records.map ClaimRecord.undated) := by
  induction records generalizing rows with
  | nil =>
    obtain rfl := List.map_eq_nil_iff.mp same
    rfl
  | cons r records ih =>
    obtain ⟨row, rest, rfl, first, more⟩ := List.map_eq_cons_iff.mp same
    have tail := ih more
    rw [List.mapM_cons, read_of_row first]
    cases reads : rest.mapM ClaimRow.read with
    | error e =>
      rw [reads] at tail
      cases tail
    | ok claims =>
      rw [reads] at tail
      have records : claims.map ClaimRecord.undated = records.map ClaimRecord.undated := by
        injection tail
      exact congrArg (fun l => Except.ok (r.undated :: l)) records

/-- A database and a ledger have the same coupons and claims, and the same numbers to give. -/
structure Database.Agrees (db : Database) (l : Ledger) : Prop where
  idle : db.Idle
  keeps : db.tables.Keeps l
  linked : l.Linked
  numbers : db.couponIds = l.coupons.length

/-- What a database takes and keeps as it is. -/
structure NewCoupon.Storable (new : NewCoupon) : Prop where
  taken : ∃ row, (Database.new.migrate.2.1.create new).1 = .ok row
  start : new.start.Whole
  finish : new.finish.Whole

namespace Database

theorem idle_migrated : Database.new.migrate.2.1.Idle where
  migrated := rfl
  sound _ := rfl

/-- A database takes a coupon only if its columns do. -/
theorem Idle.fits_of_create (idle : db.Idle) {new : NewCoupon} {row : Coupon}
    (taken : (db.create new).1 = .ok row) :
    isColumnText new.cleanName = true ∧ (db.couponRow new).Fits := by
  by_contra unfit
  rw [(idle.create_of_unfit unfit).1] at taken
  cases taken

namespace Agrees

variable (agrees : db.Agrees l)

theorem new : Database.new.migrate.2.1.Agrees .empty where
  idle := idle_migrated
  keeps := .empty
  linked := .empty
  numbers := rfl

include agrees

theorem distinct : (db.tables.coupons.map Coupon.id).Nodup := by
  rw [agrees.keeps.ids]
  exact agrees.linked.distinct

theorem withCoupon {new : NewCoupon} (start : new.start.Whole) (finish : new.finish.Whole) :
    (db.couponRow new).undated = (l.create new).1.undated ∧
      (db.withCoupon new).Agrees (l.create new).2 := by
  have same : (db.couponRow new).undated = (l.create new).1.undated := by
    simp only [couponRow, Ledger.create, Coupon.undated, start.stored, finish.stored,
      agrees.numbers]
  refine ⟨same, agrees.idle.withCoupon new, agrees.keeps.addCoupon same,
    agrees.linked.create new, ?_⟩
  simp [Database.withCoupon, Ledger.create, agrees.numbers]

theorem withLess (coupon : CouponId) : (db.withLess coupon).Agrees (l.takeUnit coupon) where
  idle := agrees.idle.withLess
  keeps := agrees.keeps.takeUnit coupon
  linked := agrees.linked.takeUnit coupon
  numbers := by simp [Database.withLess, Ledger.takeUnit, agrees.numbers]

theorem withClaim (user : UserId) (found : l.find? coupon = some c) :
    (db.withClaim user coupon).Agrees (l.addClaim user coupon) where
  idle := agrees.idle.withClaim
  keeps := agrees.keeps.addClaim user coupon _
  linked := agrees.linked.addClaim found
  numbers := agrees.numbers

theorem create {new : NewCoupon} (storable : new.Storable) :
    Answer.plain Coupon.undated (db.create new).1 = .ok (l.create new).1.undated ∧
      (db.create new).2.1.Agrees (l.create new).2 := by
  obtain ⟨⟨row, taken⟩, start, finish⟩ := storable
  obtain ⟨text, fits⟩ := idle_migrated.fits_of_create taken
  obtain ⟨same, after⟩ := agrees.withCoupon start finish
  -- What the columns check of a row is neither its number nor its time.
  have here : (db.couponRow new).Fits := fits
  rw [agrees.idle.create_of_fits text here]
  exact ⟨congrArg Except.ok same, after⟩

theorem get (coupon : CouponId) :
    Answer.plain Coupon.undated (db.get coupon).1 = Answer.plain Coupon.undated (l.get coupon) ∧
      (db.get coupon).2.Agrees l := by
  cases found : l.find? coupon with
  | none =>
    rw [agrees.idle.get_none (agrees.keeps.coupon?_none found), Ledger.get, found]
    exact ⟨rfl, agrees⟩
  | some c =>
    obtain ⟨d, there, same⟩ := agrees.keeps.coupon?_some found
    rw [agrees.idle.get_some there, Ledger.get, found]
    exact ⟨congrArg Except.ok same, agrees⟩

theorem takeUnit_more (found : l.find? coupon = some c) (more : 0 < c.stock) :
    db.takeUnit coupon = (.ok (), db.withLess coupon) := by
  obtain ⟨d, there, same⟩ := agrees.keeps.coupon?_some found
  exact agrees.idle.takeUnit_of_more agrees.distinct there (stock_eq same ▸ more)

theorem takeUnit_none (none : ∀ c, l.find? coupon = some c → c.stock ≤ 0) :
    db.takeUnit coupon = (.error (.stockDrift coupon), db) := by
  apply agrees.idle.takeUnit_of_none agrees.distinct
  intro d there
  cases found : l.find? coupon with
  | none => simp [agrees.keeps.coupon?_none found] at there
  | some c =>
    obtain ⟨e, here, same⟩ := agrees.keeps.coupon?_some found
    cases here.symm.trans there
    exact stock_eq same ▸ none c found

theorem decrement (coupon : CouponId) :
    (db.decrement coupon).1 = (l.decrement coupon).1 ∧
      (db.decrement coupon).2.Agrees (l.decrement coupon).2 := by
  by_cases more : ∃ c, l.find? coupon = some c ∧ 0 < c.stock
  · obtain ⟨c, found, more⟩ := more
    have took := agrees.takeUnit_more found more
    rw [Database.decrement, agrees.idle.transact_ok took agrees.idle.withLess]
    simp only [Ledger.decrement, found, if_pos more]
    exact ⟨trivial, agrees.withLess coupon⟩
  · have none : ∀ c, l.find? coupon = some c → c.stock ≤ 0 := by
      intro c found
      exact Int.not_lt.mp fun some => more ⟨c, found, some⟩
    have missed := agrees.takeUnit_none none
    rw [Database.decrement, agrees.idle.transact_error missed]
    have refused : l.decrement coupon = (.error (.stockDrift coupon), l) := by
      unfold Ledger.decrement
      split
      · rename_i c found
        rw [if_neg (Int.not_lt.mpr (none c found))]
      · rfl
    rw [refused]
    exact ⟨rfl, agrees⟩

theorem insertClaim (user : UserId) (coupon : CouponId) :
    Answer.plain id (db.insertClaim user coupon).1 =
        Answer.plain id (l.insertClaim user coupon).1 ∧
      (db.insertClaim user coupon).2.Agrees (l.insertClaim user coupon).2 := by
  have same := agrees.keeps.hasClaim user coupon
  cases found : l.find? coupon with
  | none =>
    have free := agrees.linked.unclaimed user found
    have failed := agrees.idle.addClaim_missing (same.trans free)
      (agrees.keeps.coupon?_none found)
    rw [Database.insertClaim, agrees.idle.transact_error failed]
    simp only [Ledger.insertClaim, found]
    exact ⟨rfl, agrees⟩
  | some c =>
    obtain ⟨d, there, _⟩ := agrees.keeps.coupon?_some found
    cases held : l.hasClaim user coupon with
    | true =>
      have kept := agrees.idle.addClaim_held (same.trans held)
      rw [Database.insertClaim, agrees.idle.transact_ok kept agrees.idle]
      simp only [Ledger.insertClaim, found, held]
      exact ⟨rfl, agrees⟩
    | false =>
      have wrote := agrees.idle.addClaim_new (same.trans held) there
      rw [Database.insertClaim, agrees.idle.transact_ok wrote agrees.idle.withClaim]
      simp only [Ledger.insertClaim, found, held]
      exact ⟨rfl, agrees.withClaim user found⟩

theorem persist (user : UserId) (coupon : CouponId) :
    Answer.plain id (db.persist user coupon).1 = Answer.plain id (l.persist user coupon).1 ∧
      (db.persist user coupon).2.Agrees (l.persist user coupon).2 := by
  have same := agrees.keeps.hasClaim user coupon
  have persists := l.persist_persists user coupon
  generalize (l.persist user coupon).1 = answer, (l.persist user coupon).2 = k at persists
  cases persists with
  | alreadyThere held =>
    have kept := agrees.idle.addClaim_held (same.trans held)
    rw [Database.persist, agrees.idle.transact_ok (by rw [kept]) agrees.idle]
    exact ⟨rfl, agrees⟩
  | missing free unknown =>
    have failed := agrees.idle.addClaim_missing (same.trans free)
      (agrees.keeps.coupon?_none unknown)
    rw [Database.persist, agrees.idle.transact_error (by rw [failed])]
    exact ⟨rfl, agrees⟩
  | @written c free found more =>
    obtain ⟨d, there, _⟩ := agrees.keeps.coupon?_some found
    have wrote := agrees.idle.addClaim_new (same.trans free) there
    have both := agrees.withClaim user found
    have took := both.takeUnit_more found more
    rw [agrees.idle.persist_ok wrote took both.idle.withLess]
    exact ⟨rfl, both.withLess coupon⟩
  | @drifted c free found none =>
    obtain ⟨d, there, _⟩ := agrees.keeps.coupon?_some found
    have wrote := agrees.idle.addClaim_new (same.trans free) there
    have missed := (agrees.withClaim user found).takeUnit_none fun d there => by
      cases found.symm.trans there
      exact none
    rw [agrees.idle.persist_error wrote missed]
    -- The claim is taken back; the clock goes on.
    exact ⟨rfl, agrees.idle.tick, agrees.keeps, agrees.linked, agrees.numbers⟩

theorem claimsOf (user : UserId) :
    Answer.plain (·.map ClaimRecord.undated) (db.claimsOf user).1 =
        .ok ((l.claimsOf user).map ClaimRecord.undated) ∧
      (db.claimsOf user).2.Agrees l := by
  have same := congrArg (List.filter (·.user = user)) agrees.keeps.claims
  simp only [List.filter_map, Function.comp_def, ClaimRow.undated] at same
  rw [Database.claimsOf, agrees.idle.look]
  exact ⟨ClaimRow.read_rows same, agrees⟩

end Agrees

/-- A call answers the same on both and keeps them in agreement. -/
theorem Agrees.sales (sound : m.writing.failing = 0) (agrees : db.Agrees m.ledger)
    (call : SalesCall) (storable : ∀ new, call = .create new → new.Storable) :
    (db.sales call).1.plain = (m.sales call).1.plain ∧
      (db.sales call).2.Agrees (m.sales call).2.ledger ∧
      (m.sales call).2.writing.failing = 0 := by
  cases call with
  | create new =>
    obtain ⟨same, after⟩ := agrees.create (storable new rfl)
    exact ⟨congrArg SalesAnswer.created same, after, sound⟩
  | get coupon =>
    obtain ⟨same, after⟩ := agrees.get coupon
    exact ⟨congrArg SalesAnswer.found same, after, sound⟩
  | insertClaim user coupon =>
    obtain ⟨same, after⟩ := agrees.insertClaim user coupon
    exact ⟨congrArg SalesAnswer.inserted same, after, sound⟩
  | decrement coupon =>
    obtain ⟨same, after⟩ := agrees.decrement coupon
    exact ⟨congrArg (fun answer => SalesAnswer.taken (Answer.plain id answer)) same, after, sound⟩
  | persist user coupon =>
    obtain ⟨same, after⟩ := agrees.persist user coupon
    have wrote : Backend.write (Backend.beginWrite m) user coupon =
        ((m.ledger.persist user coupon).1,
          { Backend.beginWrite m with ledger := (m.ledger.persist user coupon).2 }) := by
      simp only [Backend.write, Backend.beginWrite, Service.begin, Memory.write, sound]
    simp only [Memory.sales, wrote]
    exact ⟨congrArg SalesAnswer.persisted same, after, sound⟩
  | claimsOf user =>
    obtain ⟨same, after⟩ := agrees.claimsOf user
    exact ⟨congrArg SalesAnswer.claims same, after, sound⟩

/-- A list of calls is answered the same on both, which agree at its end. -/
theorem Agrees.served {calls : List SalesCall} (sound : m.writing.failing = 0)
    (agrees : db.Agrees m.ledger) (storable : ∀ new, .create new ∈ calls → new.Storable) :
    (CouponSale.served Database.sales db calls).1.map SalesAnswer.plain =
        (CouponSale.served Memory.sales m calls).1.map SalesAnswer.plain ∧
      (CouponSale.served Database.sales db calls).2.Agrees
        (CouponSale.served Memory.sales m calls).2.ledger := by
  induction calls generalizing db m with
  | nil => exact ⟨rfl, agrees⟩
  | cons call calls ih =>
    obtain ⟨same, after, still⟩ := agrees.sales sound call fun new first => by
      rw [first] at storable
      exact storable new List.mem_cons_self
    obtain ⟨rest, agree⟩ := ih still after fun new later =>
      storable new (List.mem_cons_of_mem _ later)
    exact ⟨congrArg₂ List.cons same rest, agree⟩

/-- A database that is empty at first answers every list of calls as an empty store in memory does,
and keeps the same coupons and claims. -/
theorem serves_as_memory (sink : Sink) {calls : List SalesCall}
    (storable : ∀ new, .create new ∈ calls → new.Storable) :
    let there := served Database.sales Database.new.migrate.2.1 calls
    let here := served Memory.sales (.new sink) calls
    there.1.map SalesAnswer.plain = here.1.map SalesAnswer.plain ∧
      there.2.tables.coupons.map Coupon.undated = here.2.ledger.coupons.map Coupon.undated ∧
      there.2.tables.claims.map ClaimRow.undated = here.2.ledger.claims.map ClaimRecord.row := by
  intro there here
  have agrees : Database.new.migrate.2.1.Agrees (Memory.new sink).ledger := .new
  obtain ⟨same, after⟩ := agrees.served rfl storable
  exact ⟨same, after.keeps.coupons, after.keeps.claims⟩

/-- A coupon with one unit, which is claimed twice by one user and wanted by another; then claims
that nothing stands for. -/
def scarceSale : List SalesCall :=
  [.create ⟨" Spring ", 1, 500, ⟨0, 0⟩, ⟨3600, 250000⟩⟩, .persist ⟨7⟩ ⟨1⟩, .persist ⟨7⟩ ⟨1⟩,
    .persist ⟨8⟩ ⟨1⟩, .decrement ⟨1⟩, .insertClaim ⟨8⟩ ⟨1⟩, .insertClaim ⟨8⟩ ⟨1⟩,
    .persist ⟨9⟩ ⟨2⟩, .get ⟨2⟩, .claimsOf ⟨7⟩]

theorem serves_scarceSale :
    (∀ new, .create new ∈ scarceSale → new.Storable) ∧
      (served Memory.sales (.new .recording) scarceSale).1.length = 10 ∧
      (served Database.sales Database.new.migrate.2.1 scarceSale).1.map SalesAnswer.plain =
        (served Memory.sales (.new .recording) scarceSale).1.map SalesAnswer.plain ∧
      (served Memory.sales (.new .recording) scarceSale).1.drop 1 =
        [.persisted (.ok .written), .persisted (.ok .alreadyThere),
          .persisted (.error (.stockDrift ⟨1⟩)), .taken (.error (.stockDrift ⟨1⟩)),
          .inserted (.ok true), .inserted (.ok false),
          .persisted (.error (Ledger.missing ⟨2⟩)),
          .found (.error (.couponNotFound ⟨2⟩)),
          .claims (.ok [⟨⟨7⟩, ⟨1⟩, .unused, ⟨0, 0⟩⟩])] := by
  have storable : ∀ new, .create new ∈ scarceSale → new.Storable := by
    intro new member
    obtain rfl : new = ⟨" Spring ", 1, 500, ⟨0, 0⟩, ⟨3600, 250000⟩⟩ := by
      simpa [scarceSale] using member
    exact ⟨⟨_, rfl⟩, ⟨by decide, by decide⟩, ⟨by decide, by decide⟩⟩
  exact ⟨storable, rfl, (serves_as_memory .recording storable).1, rfl⟩

end Database
end CouponSale

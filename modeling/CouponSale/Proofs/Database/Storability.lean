import CouponSale.Proofs.Coupon
import CouponSale.Proofs.Database.Statements
import CouponSale.Proofs.Time.Moment

/-!
Which accepted requests the database takes. What validation asks of a request, the checks of the
table ask of its row; but validation reads the name as it came and the times to the nanosecond, and
the table keeps texts without U+0000 and times in microseconds. Where the two readings agree, an
accepted request is stored; where they differ, it is refused and nothing is stored. The times of a
request are taken to be within the range of the time columns, which validation does not ask.
-/
namespace CouponSale

/-- A text column takes the name, and the window is open to the microsecond. Its times are assumed
to be ones that a time column takes, of which the first is in the year 4713 BC. -/
structure NewCoupon.Keepable (c : NewCoupon) : Prop where
  text : isColumnText c.cleanName = true
  opens : c.start.toMicros < c.finish.toMicros

variable {c : NewCoupon} {now : Moment} {db : Database}

/-- Of an accepted request, only the window can fail the checks of the table. -/
theorem NewCoupon.Valid.fits_iff (valid : c.Valid now) :
    (db.couponRow c).Fits ↔ c.start.toMicros < c.finish.toMicros := by
  rw [← Moment.stored_lt_iff]
  constructor
  · rintro ⟨_, _, _, _, opens, _⟩
    exact opens
  · intro opens
    exact ⟨valid.short, valid.stocked, Int.le_of_lt valid.stocked, valid.priced, opens,
      Int.le_refl _⟩

namespace Database

/-- On a working database an accepted request is stored exactly if a text column takes its name and
its window is open to the microsecond. Then the row is the request, with the name trimmed and the
stock at its total, and fits every column and check; otherwise the answer is the failure of the
statement, and the tables stay as they are. A window that lasts two microseconds is open in any
case. -/
theorem Idle.create_validated (idle : db.Idle) (accepted : c.validate now = .ok ()) :
    ((∃ row, (db.create c).1 = .ok row) ↔ c.Keepable) ∧
      (c.Keepable →
        (db.create c).1 = .ok (db.couponRow c) ∧ (db.couponRow c).Fits ∧
          (db.couponRow c).name = trim c.name ∧ (db.couponRow c).total = c.total ∧
          (db.couponRow c).stock = c.total ∧
          (db.create c).2.1.tables.coupons = db.tables.coupons ++ [db.couponRow c]) ∧
      (¬ c.Keepable →
        (db.create c).1 = .error Statement.create.failure ∧
          (db.create c).2.1.tables = db.tables) ∧
      (isColumnText c.cleanName = true → c.start.elapsed + 2000 ≤ c.finish.elapsed →
        c.Keepable) := by
  have valid := NewCoupon.validate_iff.mp accepted
  have stored : c.Keepable → db.create c = (.ok (db.couponRow c), db.withCoupon c,
      [.rowCreated (db.couponRow c).id (db.couponRow c).total]) := by
    intro keepable
    exact idle.create_of_fits keepable.text (valid.fits_iff.mpr keepable.opens)
  have refused : ¬ c.Keepable → (db.create c).1 = .error Statement.create.failure ∧
      (db.create c).2.1.tables = db.tables := by
    intro unkeepable
    have unfit : ¬ (isColumnText c.cleanName = true ∧ (db.couponRow c).Fits) := by
      rintro ⟨text, fits⟩
      exact unkeepable ⟨text, valid.fits_iff.mp fits⟩
    obtain ⟨failed, same, _⟩ := idle.create_of_unfit unfit
    exact ⟨failed, same⟩
  refine ⟨⟨?_, ?_⟩, ?_, refused, ?_⟩
  · rintro ⟨row, made⟩
    by_contra unkeepable
    rw [(refused unkeepable).1] at made
    cases made
  · intro keepable
    rw [stored keepable]
    exact ⟨_, rfl⟩
  · intro keepable
    rw [stored keepable]
    exact ⟨rfl, valid.fits_iff.mpr keepable.opens, rfl, rfl, rfl, rfl⟩
  · intro text apart
    exact ⟨text, Moment.toMicros_lt_of_apart apart⟩

/-- The tables of a new database are made. -/
def ready : Database := new.migrate.2.1

/-- A coupon for a window in the year 3000, which lasts some nanoseconds. -/
def shortSale (name : String) (nanos : Nat) : NewCoupon :=
  ⟨name, 5, 500, ⟨32503680000, 0⟩, ⟨32503680000, nanos⟩⟩

/-- Both requests are accepted and neither is stored: the name of one is no column text, the window
of the other is shorter than a microsecond. -/
theorem create_refuses_accepted :
    ((shortSale "Gift\x00" 5000).validate .epoch = .ok () ∧
      (ready.create (shortSale "Gift\x00" 5000)).1 = .error Statement.create.failure) ∧
    ((shortSale "Gift" 999).validate .epoch = .ok () ∧
      (ready.create (shortSale "Gift" 999)).1 = .error Statement.create.failure) := by
  decide

theorem create_validated_shortSale :
    (shortSale "Gift" 2000).validate .epoch = .ok () ∧
      (ready.create (shortSale "Gift" 2000)).1 = .ok (ready.couponRow (shortSale "Gift" 2000)) := by
  have idle : ready.Idle := ⟨rfl, fun _ => rfl⟩
  have accepted : (shortSale "Gift" 2000).validate .epoch = .ok () := by decide
  obtain ⟨_, stores, _, keeps⟩ := idle.create_validated accepted
  exact ⟨accepted, (stores (keeps (by decide) (by decide))).1⟩

end Database
end CouponSale

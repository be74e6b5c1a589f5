import CouponSale.Time.Moment
import Mathlib.Tactic.SplitIfs

/-!
The order of moments, the moments that a table column keeps as they are, and how a column orders
the moments that it keeps.
-/
namespace CouponSale.Moment

/-- A moment at a whole microsecond, and in no leap second. -/
structure Whole (m : Moment) : Prop where
  plain : m.nanos < billion
  micro : 1000 ∣ m.nanos

theorem toMicros_of_whole {m : Moment} {micros : Nat} (nanos : m.nanos = 1000 * micros) :
    m.toMicros = (m.second - 946684800) * 1000000 + micros := by
  have thousands : (m.second - 946684800) * billion + m.nanos =
      1000 * ((m.second - 946684800) * 1000000 + micros) := by
    rw [nanos, billion]
    omega
  rw [toMicros, thousands, Int.mul_tdiv_cancel_left _ (by decide)]

theorem Whole.stored {m : Moment} (whole : m.Whole) : m.stored = m := by
  obtain ⟨second, nanos⟩ := m
  obtain ⟨micros, rfl⟩ := whole.micro
  have bound : 1000 * micros < 1000000000 := whole.plain
  have count := toMicros_of_whole (m := ⟨second, 1000 * micros⟩) rfl
  simp only at count
  rw [Moment.stored, count, ofMicros]
  congr 1 <;> omega

/-- The nanoseconds from 2000-01-01T00:00:00Z, a leap second counting as the second after it. -/
def elapsed (m : Moment) : Int := (m.second - 946684800) * billion + m.nanos

theorem toMicros_eq (m : Moment) : m.toMicros = m.elapsed.tdiv 1000 := rfl

/-- A column orders moments by their microseconds. -/
theorem stored_lt_iff {a b : Moment} : a.stored < b.stored ↔ a.toMicros < b.toMicros := by
  show before (ofMicros a.toMicros) (ofMicros b.toMicros) ↔ _
  simp only [before, ofMicros]
  omega

theorem le_iff {a b : Moment} :
    a ≤ b ↔ a.second < b.second ∨ a.second = b.second ∧ a.nanos ≤ b.nanos := by
  show ¬ before b a ↔ _
  unfold before
  omega

theorem le_trans {a b c : Moment} (first : a ≤ b) (second : b ≤ c) : a ≤ c := by
  rw [le_iff] at first second ⊢
  omega

theorem le_total (a b : Moment) : a ≤ b ∨ b ≤ a := by
  rw [le_iff, le_iff]
  omega

/-- Moments two microseconds apart are kept apart. -/
theorem toMicros_lt_of_apart {a b : Moment} (apart : a.elapsed + 2000 ≤ b.elapsed) :
    a.toMicros < b.toMicros := by
  -- Cutting moves each moment by less than a microsecond, on either side of the year 2000.
  have cut (nanos : Int) :
      nanos.tdiv 1000 = nanos / 1000 + if 0 ≤ nanos ∨ 1000 ∣ nanos then 0 else 1 :=
    Int.tdiv_eq_ediv
  rw [toMicros_eq, toMicros_eq, cut, cut]
  split_ifs <;> omega

end CouponSale.Moment

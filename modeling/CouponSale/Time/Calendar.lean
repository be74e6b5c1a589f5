/-!
The proleptic Gregorian calendar: dates against days counted from 1970-01-01. Years start in
March inside the computation, so that a leap day ends the year it belongs to; four hundred years
always have 146097 days.
-/
namespace CouponSale

/-- A calendar date. Month and day count from one. -/
structure Date where
  year : Int
  month : Nat
  day : Nat
  deriving DecidableEq, Repr, Inhabited

namespace Date

def isLeap (year : Int) : Bool := year % 4 = 0 ∧ (year % 100 ≠ 0 ∨ year % 400 = 0)

/-- The days of a month, zero for a number that is no month. -/
def monthLength (year : Int) (month : Nat) : Nat :=
  match month with
  | 2 => if isLeap year then 29 else 28
  | 4 | 6 | 9 | 11 => 30
  | 1 | 3 | 5 | 7 | 8 | 10 | 12 => 31
  | _ => 0

/-- The date exists in the calendar. -/
def Valid (d : Date) : Prop := 1 ≤ d.day ∧ d.day ≤ monthLength d.year d.month

instance (d : Date) : Decidable d.Valid := inferInstanceAs (Decidable (_ ∧ _))

/-- The days before month `m` of a year that starts in March, March being zero. -/
def daysBefore (m : Nat) : Nat := (153 * m + 2) / 5

/-- The days from 1970-01-01 to a date. -/
def toDays (d : Date) : Int :=
  let year := if d.month ≤ 2 then d.year - 1 else d.year
  let ofEra := year % 400
  let ofYear := daysBefore ((d.month + 9) % 12) + d.day - 1
  year / 400 * 146097 + (ofEra * 365 + ofEra / 4 - ofEra / 100 + ofYear) - 719468

/-- The date that lies the given number of days after 1970-01-01. -/
def ofDays (days : Int) : Date :=
  let shifted := days + 719468
  let ofEra := (shifted % 146097).toNat
  let yearOfEra := (ofEra - ofEra / 1460 + ofEra / 36524 - ofEra / 146096) / 365
  let ofYear := ofEra - (365 * yearOfEra + yearOfEra / 4 - yearOfEra / 100)
  let m := (5 * ofYear + 2) / 153
  let year := shifted / 146097 * 400 + yearOfEra
  let month := if m < 10 then m + 3 else m - 9
  { year := if month ≤ 2 then year + 1 else year, month, day := ofYear - daysBefore m + 1 }

example : toDays ⟨1970, 1, 1⟩ = 0 := by decide
example : ofDays (toDays ⟨2000, 2, 29⟩) = ⟨2000, 2, 29⟩ := by decide
example : ofDays (toDays ⟨-1, 12, 31⟩) = ⟨-1, 12, 31⟩ := by decide

end Date
end CouponSale

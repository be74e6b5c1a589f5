import CouponSale.Time.Calendar
import Mathlib.Tactic.IntervalCases

/-!
The calendar. The date of a day exists and is the date of no other day. The year that a day of an
era lies in is found by a formula; it grows with the day and is right on the first and the last day
of every year, so that it is right on every day.
-/
namespace CouponSale.Date

/-- The years of an era, each with the number of days before it; the last one ends the era. -/
def yearStart (year : Nat) : Nat := 365 * year + year / 4 - year / 100 + year / 400

/-- The year of the era that a day of the era lies in, years beginning in March. -/
def yearOfEra (day : Nat) : Nat := (day - day / 1460 + day / 36524 - day / 146096) / 365

theorem yearOfEra_mono {day day' : Nat} (le : day ≤ day') : yearOfEra day ≤ yearOfEra day' := by
  induction le with
  | refl => exact Nat.le_refl _
  | step _ ih =>
    refine Nat.le_trans ih (Nat.div_le_div_right ?_)
    omega

/-- On the first and on the last day of a year the formula gives the year. -/
theorem yearOfEra_ends : ∀ year < 400,
    yearOfEra (yearStart year) = year ∧ yearOfEra (yearStart (year + 1) - 1) = year := by
  decide +kernel

/-- The year of a day begins no later than on that day and ends no earlier. -/
theorem yearOfEra_spec {day : Nat} (bound : day < 146097) :
    yearOfEra day < 400 ∧ yearStart (yearOfEra day) ≤ day ∧
      day < yearStart (yearOfEra day + 1) := by
  have last : yearOfEra day ≤ 399 := yearOfEra_mono (Nat.le_of_lt_succ bound)
  refine ⟨by omega, ?_, ?_⟩
  · cases year : yearOfEra day with
    | zero => exact Nat.zero_le day
    | succ before =>
      by_contra early
      have ends := (yearOfEra_ends before (by omega)).2
      have le : yearOfEra day ≤ before := ends ▸ yearOfEra_mono (by omega)
      omega
  · by_contra late
    rcases Nat.lt_or_eq_of_le last with less | final
    · have starts := (yearOfEra_ends (yearOfEra day + 1) (by omega)).1
      have le := yearOfEra_mono (Nat.le_of_not_lt late)
      omega
    · rw [final] at late
      exact late bound

/-- The length of a year of the era: its leap day, if it has one, is at its end and falls into the
calendar year after it. -/
theorem yearStart_succ (era : Int) {year : Nat} (bound : year < 400) :
    yearStart (year + 1) =
      yearStart year + 365 + if isLeap (era * 400 + year + 1) then 1 else 0 := by
  have leap : isLeap (era * 400 + year + 1) = decide ((year + 1) % 4 = 0 ∧
      ((year + 1) % 100 ≠ 0 ∨ (year + 1) % 400 = 0)) := by
    rw [isLeap, decide_eq_decide]
    omega
  rw [leap]
  unfold yearStart
  split
  · rename_i yes
    simp at yes
    omega
  · rename_i no
    simp at no
    omega

/-- A day of a year of an era, the year beginning in March. -/
def ofYear (era : Int) (year day : Nat) : Date :=
  let m := (5 * day + 2) / 153
  let month := if m < 10 then m + 3 else m - 9
  { year := if month ≤ 2 then era * 400 + year + 1 else era * 400 + year
    month
    day := day - daysBefore m + 1 }

/-- January and February are in the next calendar year. -/
theorem ofYear_eq (era : Int) (year : Nat) {day : Nat} (short : day < 366) :
    ofYear era year day =
      let m := (5 * day + 2) / 153
      if m < 10 then ⟨era * 400 + year, m + 3, day - daysBefore m + 1⟩
      else ⟨era * 400 + year + 1, m - 9, day - daysBefore m + 1⟩ := by
  have months : (5 * day + 2) / 153 < 12 := by omega
  simp only [ofYear]
  split
  · rw [if_neg (by omega)]
  · rw [if_pos (by omega)]

/-- A day lies in an era, there in a year, and there has a number. -/
theorem ofDays_eq (days : Int) : ∃ era : Int, ∃ year day : Nat, year < 400 ∧
    yearStart year + day < yearStart (year + 1) ∧
    days = era * 146097 + (yearStart year + day : Nat) - 719468 ∧
    ofDays days = ofYear era year day := by
  have nonneg : 0 ≤ (days + 719468) % 146097 := Int.emod_nonneg _ (by decide)
  have small : (days + 719468) % 146097 < 146097 := Int.emod_lt_of_pos _ (by decide)
  obtain ⟨ofEra, count⟩ := Int.eq_ofNat_of_zero_le nonneg
  obtain ⟨bound, starts, ends⟩ := yearOfEra_spec (show ofEra < 146097 by omega)
  have start : yearStart (yearOfEra ofEra) =
      365 * yearOfEra ofEra + yearOfEra ofEra / 4 - yearOfEra ofEra / 100 := by
    unfold yearStart
    omega
  refine ⟨(days + 719468) / 146097, yearOfEra ofEra, ofEra - yearStart (yearOfEra ofEra), bound,
    by omega, by omega, ?_⟩
  have same : ofEra = ((days + 719468) % 146097).toNat := by omega
  rw [start, same]
  rfl

theorem daysBefore_le (day : Nat) : daysBefore ((5 * day + 2) / 153) ≤ day := by
  unfold daysBefore
  omega

theorem toDays_ofYear (era : Int) {year day : Nat} (bound : year < 400) (short : day < 366) :
    (ofYear era year day).toDays = era * 146097 + (yearStart year + day : Nat) - 719468 := by
  have months : (5 * day + 2) / 153 < 12 := by omega
  have before := daysBefore_le day
  rw [ofYear_eq era year short]
  generalize (5 * day + 2) / 153 = m at months before
  simp only
  split
  · have march : (m + 3 + 9) % 12 = m := by omega
    have later : ¬ m + 3 ≤ 2 := by omega
    simp only [toDays, march, later, if_false, yearStart]
    omega
  · have march : (m - 9 + 9) % 12 = m := by omega
    have early : m - 9 ≤ 2 := by omega
    simp only [toDays, march, early, if_true, yearStart]
    omega

theorem valid_ofYear (era : Int) {year day : Nat}
    (within : day < 365 + if isLeap (era * 400 + year + 1) then 1 else 0) :
    (ofYear era year day).Valid := by
  have short : day < 366 := by
    split at within <;> omega
  have months : (5 * day + 2) / 153 < 12 := by omega
  have before : daysBefore ((5 * day + 2) / 153) ≤ day := daysBefore_le day
  have after : day < daysBefore ((5 * day + 2) / 153 + 1) := by
    unfold daysBefore
    omega
  rw [ofYear_eq era year short]
  generalize (5 * day + 2) / 153 = m at months before after
  rcases Nat.lt_or_eq_of_le (Nat.le_of_lt_succ months) with range | rfl
  · clear within months
    interval_cases m <;> simp only [daysBefore] at before after <;>
      simp [Valid, daysBefore, monthLength] <;> omega
  · -- February ends with the year.
    have first : daysBefore 11 = 337 := rfl
    refine ⟨Nat.le_add_left 1 _, ?_⟩
    show day - daysBefore 11 + 1 ≤ if isLeap (era * 400 + year + 1) then 29 else 28
    cases leap : isLeap (era * 400 + year + 1) with
    | false =>
      rw [if_neg (by simp [leap])] at within
      rw [if_neg (by simp)]
      omega
    | true =>
      rw [if_pos leap] at within
      rw [if_pos rfl]
      omega

/-- The date of a day is in the calendar, and is counted back to the day. -/
theorem ofDays_spec (days : Int) : (ofDays days).Valid ∧ (ofDays days).toDays = days := by
  obtain ⟨era, year, day, bound, within, count, same⟩ := ofDays_eq days
  rw [yearStart_succ era bound] at within
  have short : day < 366 := by
    split at within <;> omega
  constructor
  · rw [same]
    exact valid_ofYear era (by omega)
  · rw [same, toDays_ofYear era bound short, ← count]

end CouponSale.Date

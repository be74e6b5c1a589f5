import CouponSale.Proofs.Text.Spelling
import CouponSale.Proofs.Time.Calendar
import CouponSale.Time.Stamp
import Mathlib.Data.List.TakeWhile

/-!
Stamps. A moment of a year from 0 to 9999 is read back from its stamp, with all its nanoseconds and
with its leap second, if it is in one. Leap seconds end a minute of universal time, and no other
is made: not by the reader, whatever the zone, nor by a table, nor by adding seconds.
-/
namespace CouponSale.Stamp

open Decimal (digitChar isDigit readNat? isDigit_digitChar)

theorem not_isBlank_of_isDigit {c : Char} (digit : isDigit c = true) : isBlank c = false := by
  obtain ⟨above, below⟩ := Decimal.range_of_isDigit digit
  have others : blankChars.all fun d => d.toNat < 48 || 57 < d.toNat := by decide
  refine Bool.eq_false_iff.mpr fun blank => ?_
  have range := List.all_eq_true.mp others c (List.contains_iff_mem.mp blank)
  simp only [Bool.or_eq_true, decide_eq_true_eq] at range
  omega

theorem skipBlanks_cons {c : Char} (plain : isBlank c = false) (rest : List Char) :
    skipBlanks (c :: rest) = c :: rest := by
  simp [skipBlanks, plain]

theorem length_digits (width n : Nat) : (digits width n).length = width := by
  induction width generalizing n with
  | zero => rfl
  | succ width ih => rw [digits, List.length_append, ih, List.length_singleton]

theorem isDigit_of_mem_digits {width n : Nat} {c : Char} (member : c ∈ digits width n) :
    isDigit c = true := by
  induction width generalizing n with
  | zero => contradiction
  | succ width ih =>
    rw [digits] at member
    rcases List.mem_append.mp member with earlier | last
    · exact ih earlier
    · exact List.mem_singleton.mp last ▸ isDigit_digitChar (Nat.mod_lt _ (by decide))

theorem readFrom?_digits (width n : Nat) :
    Decimal.readFrom? 0 (digits width n) = some (n % 10 ^ width) := by
  induction width generalizing n with
  | zero => simp [digits, Decimal.readFrom?, Nat.mod_one]
  | succ width ih =>
    have last : n % 10 < 10 := Nat.mod_lt _ (by decide)
    rw [digits, Decimal.readFrom?_append, ih]
    simp only [Option.bind_some, Decimal.readFrom?, Decimal.digitValue?_digitChar last]
    rw [Nat.pow_succ', Nat.mod_mul, Nat.add_comm]

theorem readNat?_digits {width : Nat} (some : 0 < width) {n : Nat} (fits : n < 10 ^ width) :
    readNat? (digits width n) = Option.some n := by
  have read := readFrom?_digits width n
  rw [Nat.mod_eq_of_lt fits] at read
  cases text : digits width n with
  | nil =>
    have length := length_digits width n
    rw [text, List.length_nil] at length
    omega
  | cons c cs => rwa [text] at read

/-- What a run of digits starts with. -/
theorem digits_eq_cons {width : Nat} (some : 0 < width) (n : Nat) :
    ∃ c cs, digits width n = c :: cs ∧ isDigit c = true := by
  cases text : digits width n with
  | nil =>
    have length := length_digits width n
    rw [text, List.length_nil] at length
    omega
  | cons c cs => exact ⟨c, cs, rfl, isDigit_of_mem_digits (text ▸ List.mem_cons_self)⟩

theorem skipBlanks_digits {width : Nat} (some : 0 < width) (n : Nat) (rest : List Char) :
    skipBlanks (digits width n ++ rest) = digits width n ++ rest := by
  obtain ⟨c, cs, text, digit⟩ := digits_eq_cons some n
  rw [text, List.cons_append, skipBlanks_cons (not_isBlank_of_isDigit digit)]

theorem number_digits {width : Nat} (some : 0 < width) {n : Nat} (fits : n < 10 ^ width)
    (rest : List Char) : number width (digits width n ++ rest) = Option.some (n, rest) := by
  have taken : (digits width n ++ rest).take width = digits width n := by
    rw [List.take_left' (length_digits width n)]
  have run : (digits width n).takeWhile isDigit = digits width n :=
    List.takeWhile_eq_self_iff.mpr fun c member => isDigit_of_mem_digits member
  have dropped : (digits width n ++ rest).drop (digits width n).length = rest := List.drop_left
  simp only [number, skipBlanks_digits some, taken, run, dropped, readNat?_digits some fits,
    Option.map_some]

theorem two_eq_digits {n : Nat} (small : n < 100) : two n = digits 2 n := by
  have tens : n / 10 % 10 = n / 10 := Nat.mod_eq_of_lt (by omega)
  simp [two, digits, tens]

theorem number_two {n : Nat} (small : n < 100) (rest : List Char) :
    number 2 (two n ++ rest) = some (n, rest) := by
  rw [two_eq_digits small]
  exact number_digits (by decide) small rest

theorem year_digits {n : Nat} (small : n < 10000) (rest : List Char) :
    year (digits 4 n ++ rest) = some ((n : Int), rest) := by
  have read : number 4 (digits 4 n ++ rest) = some (n, rest) := number_digits (by decide) small rest
  obtain ⟨c, cs, text, digit⟩ := digits_eq_cons (show 0 < 4 by decide) n
  unfold year
  rw [skipBlanks_digits (by decide)]
  split
  · rename_i minus
    rw [text] at minus
    obtain ⟨rfl, -⟩ := List.cons.inj minus
    contradiction
  · rename_i plus
    rw [text] at plus
    obtain ⟨rfl, -⟩ := List.cons.inj plus
    contradiction
  · rw [read, Option.map_some]

theorem separator_cons {c : Char} (plain : isBlank c = false) (rest : List Char) :
    separator c (c :: rest) = some ((), rest) := by
  simp [separator, skipBlanks_cons plain]

theorem zone_utc (rest : List Char) : zone ('Z' :: rest) = some (0, rest) := by
  simp only [zone, skipBlanks_cons (show isBlank 'Z' = false by decide)]

theorem fraction_digits {width n : Nat} (some : 0 < width) (short : width ≤ 9)
    (fits : n < 10 ^ width) (rest : List Char) :
    fraction ('.' :: (digits width n ++ 'Z' :: rest)) =
      Option.some (n * 10 ^ (9 - width), 'Z' :: rest) := by
  have digit : ∀ c ∈ digits width n, isDigit c = true := fun c => isDigit_of_mem_digits
  have run : (digits width n ++ 'Z' :: rest).takeWhile isDigit = digits width n := by
    rw [List.takeWhile_append_of_pos digit]
    simp [show isDigit 'Z' = false by decide]
  have left : (digits width n ++ 'Z' :: rest).dropWhile isDigit = 'Z' :: rest := by
    rw [List.dropWhile_append_of_pos digit]
    simp [show isDigit 'Z' = false by decide]
  have kept : (digits width n).take 9 = digits width n :=
    List.take_of_length_le (by rwa [length_digits])
  simp only [fraction, run, left, kept, readNat?_digits some fits, length_digits, Option.map_some,
    Decimal.tenTo]
  rfl

theorem fraction_writeFraction {nanos : Nat} (small : nanos < Moment.billion) (rest : List Char) :
    fraction (writeFraction nanos ++ 'Z' :: rest) = some (nanos, 'Z' :: rest) := by
  unfold Moment.billion at small
  unfold writeFraction
  split
  · rename_i zero
    rw [zero]
    rfl
  · split
    · rw [List.cons_append, fraction_digits (by decide) (by decide) (by omega)]
      congr 2
      omega
    · split
      · rw [List.cons_append, fraction_digits (by decide) (by decide) (by omega)]
        congr 2
        omega
      · rw [List.cons_append, fraction_digits (by decide) (by decide) (by omega)]
        congr 2
        omega

/-- The parts of a stamp for a year of four digits. -/
theorem write_eq {m : Moment} (year : 0 ≤ m.date.year ∧ m.date.year ≤ 9999) :
    write m = digits 4 m.date.year.toNat ++ '-' :: (two m.date.month ++ '-' ::
      (two m.date.day ++ 'T' :: (two (m.ofDay / 3600) ++ ':' :: (two (m.ofDay / 60 % 60) ++ ':' ::
        (two (m.ofDay % 60 + if Moment.billion ≤ m.nanos then 1 else 0) ++
          (writeFraction (if Moment.billion ≤ m.nanos then m.nanos - Moment.billion else m.nanos) ++
            ['Z'])))))) := by
  simp only [write, writeYear, if_pos year.1, if_pos year.2, List.append_assoc, List.cons_append]

end Stamp

theorem Date.Valid.short {d : Date} (valid : d.Valid) : d.month < 100 ∧ d.day < 100 := by
  obtain ⟨first, last⟩ := valid
  unfold monthLength at last
  split at last
  · split at last <;> omega
  all_goals omega

namespace Stamp

/-- A stamp names the moment of its date, its time of day and its fraction of a second. -/
theorem read?_parts {date : Date} {hour minute second nanos : Nat}
    (year : 0 ≤ date.year ∧ date.year ≤ 9999) (valid : date.Valid) (hours : hour ≤ 23)
    (minutes : minute ≤ 59) (seconds : second ≤ 60) (fraction : nanos < Moment.billion)
    (dated : hasDate (Moment.ofDate date hour minute (if second = 60 then 59 else second)
      (if second = 60 then nanos + Moment.billion else nanos))) :
    read? (digits 4 date.year.toNat ++ '-' :: (two date.month ++ '-' :: (two date.day ++ 'T' ::
      (two hour ++ ':' :: (two minute ++ ':' :: (two second ++ (writeFraction nanos ++ ['Z'])))))))
      = some (Moment.ofDate date hour minute (if second = 60 then 59 else second)
        (if second = 60 then nanos + Moment.billion else nanos)) := by
  obtain ⟨y, month, day⟩ := date
  obtain ⟨y, rfl⟩ := Int.eq_ofNat_of_zero_le year.1
  have small : y < 10000 := by
    have upper : (y : Int) ≤ 9999 := year.2
    omega
  obtain ⟨months, days⟩ := valid.short
  have dash : isBlank '-' = false := by decide
  have colon : isBlank ':' = false := by decide
  have range : yearInRange y := ⟨by omega, by omega⟩
  unfold read?
  refine Option.bind_eq_some_iff.mpr ⟨_, year_digits small _, ?_⟩
  refine Option.bind_eq_some_iff.mpr ⟨_, separator_cons dash _, ?_⟩
  refine Option.bind_eq_some_iff.mpr ⟨_, number_two months _, ?_⟩
  refine Option.bind_eq_some_iff.mpr ⟨_, separator_cons dash _, ?_⟩
  refine Option.bind_eq_some_iff.mpr ⟨_, number_two days _, ?_⟩
  refine Option.bind_eq_some_iff.mpr ⟨_, rfl, ?_⟩
  refine Option.bind_eq_some_iff.mpr ⟨_, number_two (show hour < 100 by omega) _, ?_⟩
  refine Option.bind_eq_some_iff.mpr ⟨_, separator_cons colon _, ?_⟩
  refine Option.bind_eq_some_iff.mpr ⟨_, number_two (show minute < 100 by omega) _, ?_⟩
  refine Option.bind_eq_some_iff.mpr ⟨_, separator_cons colon _, ?_⟩
  refine Option.bind_eq_some_iff.mpr ⟨_, number_two (show second < 100 by omega) _, ?_⟩
  refine Option.bind_eq_some_iff.mpr ⟨_, fraction_writeFraction fraction _, ?_⟩
  refine Option.bind_eq_some_iff.mpr ⟨_, zone_utc _, ?_⟩
  have allowed : (skipBlanks []).isEmpty = true ∧ yearInRange y ∧ (Date.mk y month day).Valid ∧
      hour ≤ 23 ∧ minute ≤ 59 ∧ second ≤ 60 := ⟨rfl, range, valid, hours, minutes, seconds⟩
  dsimp only
  rw [if_pos allowed]
  simp only [decide_eq_true_eq, Int.zero_mul, Int.sub_zero]
  exact if_pos dated

end Stamp

namespace Moment

/-- A moment is in a leap second only at the end of a minute. -/
def Proper (m : Moment) : Prop :=
  m.nanos < billion ∨ m.nanos < 2 * billion ∧ m.second % 60 = 59

theorem proper_ofMicros (micros : Int) : (ofMicros micros).Proper := by
  have fraction : (micros % 1000000).toNat * 1000 < 1000000000 := by omega
  exact .inl fraction

theorem Proper.addSeconds {m : Moment} (proper : m.Proper) (s : Nat) : (m.addSeconds s).Proper := by
  unfold Moment.addSeconds
  split
  · exact proper
  · exact .inl (Nat.mod_lt _ (by decide))

/-- A proper moment of a year of four digits. -/
structure Stampable (m : Moment) : Prop where
  year : 0 ≤ m.date.year ∧ m.date.year ≤ 9999
  proper : m.Proper

/-- A moment is the one of its date and its time of day. -/
theorem ofDate_date (m : Moment) :
    ofDate m.date (m.ofDay / 3600) (m.ofDay / 60 % 60) (m.ofDay % 60) m.nanos = m := by
  have count : m.date.toDays = m.second / 86400 := (Date.ofDays_spec _).2
  obtain ⟨second, nanos⟩ := m
  simp only [ofDate, count, ofDay]
  congr 1
  omega

end Moment

namespace Stamp

/-- A moment is read back from its stamp. -/
theorem read?_write {m : Moment} (stampable : m.Stampable) : read? (write m) = some m := by
  obtain ⟨year, proper⟩ := stampable
  unfold Moment.Proper at proper
  have valid : m.date.Valid := (Date.ofDays_spec _).1
  have inDay : m.ofDay < 86400 := by
    unfold Moment.ofDay
    omega
  have dated : hasDate m := ⟨by omega, by omega⟩
  rw [write_eq year]
  by_cases leap : Moment.billion ≤ m.nanos
  · have last : m.ofDay % 60 = 59 := by
      unfold Moment.ofDay
      omega
    have same : Moment.ofDate m.date (m.ofDay / 3600) (m.ofDay / 60 % 60) 59
        (m.nanos - Moment.billion + Moment.billion) = m := by
      rw [Nat.sub_add_cancel leap, ← last, m.ofDate_date]
    rw [if_pos leap, if_pos leap, last, read?_parts year valid (by omega) (by omega) (by omega)
      (by omega)]
    · rw [if_pos rfl, if_pos rfl, same]
    · rwa [if_pos rfl, if_pos rfl, same]
  · have short : m.ofDay % 60 + 0 ≠ 60 := by omega
    rw [if_neg leap, if_neg leap, read?_parts year valid (by omega) (by omega) (by omega)
      (by omega)]
    · rw [if_neg short, if_neg short, Nat.add_zero, m.ofDate_date]
    · rwa [if_neg short, if_neg short, Nat.add_zero, m.ofDate_date]

theorem lt_billion_of_fraction {cs rest : List Char} {nanos : Nat}
    (read : fraction cs = some (nanos, rest)) : nanos < Moment.billion := by
  unfold fraction at read
  split at read
  · rename_i cs
    obtain ⟨n, number, same⟩ := Option.map_eq_some_iff.mp read
    obtain ⟨rfl, -⟩ := Prod.mk.inj same
    have short := List.length_take_le 9 (cs.takeWhile Decimal.isDigit)
    generalize (cs.takeWhile Decimal.isDigit).take 9 = kept at number short ⊢
    have bound := (Decimal.readNat?_eq_some_iff.mp number).lt
    calc n * Decimal.tenTo (9 - kept.length)
        < 10 ^ kept.length * Decimal.tenTo (9 - kept.length) :=
          Nat.mul_lt_mul_of_pos_right bound (Nat.pow_pos (by decide))
      _ = 10 ^ 9 := by rw [Decimal.tenTo, Nat.pow_eq, ← Nat.pow_add, Nat.add_sub_cancel' short]
      _ = Moment.billion := rfl
  · obtain ⟨rfl, -⟩ := Prod.mk.inj (Option.some.inj read)
    decide

/-- What is read is a proper moment: a zone is a whole number of minutes off. -/
theorem proper_of_read? {cs : List Char} {m : Moment} (read : read? cs = some m) : m.Proper := by
  unfold read? at read
  obtain ⟨⟨year, cs⟩, -, read⟩ := Option.bind_eq_some_iff.mp read
  obtain ⟨⟨_, cs⟩, -, read⟩ := Option.bind_eq_some_iff.mp read
  obtain ⟨⟨month, cs⟩, -, read⟩ := Option.bind_eq_some_iff.mp read
  obtain ⟨⟨_, cs⟩, -, read⟩ := Option.bind_eq_some_iff.mp read
  obtain ⟨⟨day, cs⟩, -, read⟩ := Option.bind_eq_some_iff.mp read
  obtain ⟨⟨_, cs⟩, -, read⟩ := Option.bind_eq_some_iff.mp read
  obtain ⟨⟨hour, cs⟩, -, read⟩ := Option.bind_eq_some_iff.mp read
  obtain ⟨⟨_, cs⟩, -, read⟩ := Option.bind_eq_some_iff.mp read
  obtain ⟨⟨minute, cs⟩, -, read⟩ := Option.bind_eq_some_iff.mp read
  obtain ⟨⟨_, cs⟩, -, read⟩ := Option.bind_eq_some_iff.mp read
  obtain ⟨⟨second, cs⟩, -, read⟩ := Option.bind_eq_some_iff.mp read
  obtain ⟨⟨nanos, cs⟩, fractional, read⟩ := Option.bind_eq_some_iff.mp read
  obtain ⟨⟨offset, cs⟩, -, read⟩ := Option.bind_eq_some_iff.mp read
  have bound := lt_billion_of_fraction fractional
  obtain ⟨-, read⟩ := Option.ite_none_right_eq_some.mp read
  obtain ⟨-, same⟩ := Option.ite_none_right_eq_some.mp read
  obtain rfl := Option.some.inj same
  simp only [Moment.Proper, Moment.ofDate, decide_eq_true_eq]
  split
  · right
    omega
  · left
    exact bound

end CouponSale.Stamp

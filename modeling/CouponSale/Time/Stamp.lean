import CouponSale.Text.Blank
import CouponSale.Text.Decimal
import CouponSale.Text.Reader
import CouponSale.Time.Moment

/-!
Time stamps: the text of a moment. The written form is in universal time, ends in `Z`, has four
digits for a year from 0 to 9999 and a sign otherwise, and 0, 3, 6 or 9 digits of a second's
fraction, the fewest that are exact. The reader is more generous: any zone of whole minutes, one
digit where two are usual, blanks between the parts, a signed year, a space or a lower case
letter for `T` and `Z`, and any number of fraction digits, of which nine count. The second 60 is
the leap second of the minute.
-/
namespace CouponSale.Stamp

def two (n : Nat) : List Char := [Decimal.digitChar (n / 10), Decimal.digitChar (n % 10)]

def digits : Nat → Nat → List Char
  | 0, _ => []
  | width + 1, n => digits width (n / 10) ++ [Decimal.digitChar (n % 10)]

/-- At least four digits. -/
def fourOrMore (n : Nat) : List Char := if n < 10000 then digits 4 n else Decimal.ofNat n

def writeYear (year : Int) : List Char :=
  if 0 ≤ year then
    if year ≤ 9999 then digits 4 year.toNat else '+' :: fourOrMore year.toNat
  else '-' :: fourOrMore year.natAbs

/-- The fraction of a second in the fewest of 0, 3, 6 or 9 digits that are exact. -/
def writeFraction (nanos : Nat) : List Char :=
  if nanos = 0 then []
  else if nanos % 1000000 = 0 then '.' :: digits 3 (nanos / 1000000)
  else if nanos % 1000 = 0 then '.' :: digits 6 (nanos / 1000)
  else '.' :: digits 9 nanos

def write (m : Moment) : List Char :=
  let date := m.date
  let leap := Moment.billion ≤ m.nanos
  writeYear date.year ++ '-' :: two date.month ++ '-' :: two date.day
    ++ 'T' :: two (m.ofDay / 3600) ++ ':' :: two (m.ofDay / 60 % 60)
    ++ ':' :: two (m.ofDay % 60 + if leap then 1 else 0)
    ++ writeFraction (if leap then m.nanos - Moment.billion else m.nanos) ++ ['Z']

def text (m : Moment) : String := String.ofList (write m)

def skipBlanks (cs : List Char) : List Char := cs.dropWhile isBlank

def number (most : Nat) : Reader Nat := fun cs =>
  let cs := skipBlanks cs
  let run := (cs.take most).takeWhile Decimal.isDigit
  (Decimal.readNat? run).map (·, cs.drop run.length)

def digitRun : Reader Nat := fun cs =>
  (Decimal.readNat? (cs.takeWhile Decimal.isDigit)).map (·, cs.dropWhile Decimal.isDigit)

def year : Reader Int := fun cs =>
  match skipBlanks cs with
  | '-' :: rest => (digitRun rest).map (fun (n, rest) => (-(n : Int), rest))
  | '+' :: rest => (digitRun rest).map (fun (n, rest) => ((n : Int), rest))
  | cs => (number 4 cs).map (fun (n, rest) => ((n : Int), rest))

/-- A separator, after any blanks. -/
def separator (c : Char) : Reader Unit := fun cs =>
  match skipBlanks cs with
  | d :: rest => if d = c then some ((), rest) else none
  | [] => none

def timeMark : Reader Unit
  | 'T' :: cs => some ((), cs)
  | 't' :: cs => some ((), cs)
  | ' ' :: cs => some ((), cs)
  | _ => none

/-- The nanoseconds of an optional fraction: a point and at least one digit. -/
def fraction : Reader Nat
  | '.' :: cs =>
    let kept := (cs.takeWhile Decimal.isDigit).take 9
    (Decimal.readNat? kept).map
      (fun n => (n * Decimal.tenTo (9 - kept.length), cs.dropWhile Decimal.isDigit))
  | cs => some (0, cs)

def pair : Reader Nat
  | a :: b :: cs => (Decimal.readNat? [a, b]).map (·, cs)
  | _ => none

/-- Hours and minutes of a zone, in minutes; colons and blanks between the two may be missing. -/
def zoneMinutes : Reader Nat := fun cs => do
  let (hours, cs) ← pair cs
  let (minutes, cs) ← pair (cs.dropWhile (fun c => c = ':' || isBlank c))
  if hours ≤ 23 ∧ minutes ≤ 59 then some (hours * 60 + minutes, cs) else none

/-- The distance of a zone from universal time, in minutes. The minus sign may be the one of
ASCII or U+2212. -/
def zone : Reader Int := fun cs =>
  match skipBlanks cs with
  | 'Z' :: cs => some (0, cs)
  | 'z' :: cs => some (0, cs)
  | '+' :: cs => (zoneMinutes cs).map (fun (n, cs) => ((n : Int), cs))
  | '-' :: cs => (zoneMinutes cs).map (fun (n, cs) => (-(n : Int), cs))
  | '\u2212' :: cs => (zoneMinutes cs).map (fun (n, cs) => (-(n : Int), cs))
  | a :: b :: c :: cs => if [a, b, c].map Char.toUpper = ['U', 'T', 'C'] then some (0, cs) else none
  | _ => none

/-- The years a date can lie in. -/
def yearInRange (y : Int) : Prop := -262143 ≤ y ∧ y ≤ 262142

instance (y : Int) : Decidable (yearInRange y) := inferInstanceAs (Decidable (_ ∧ _))

def hasDate (m : Moment) : Prop := yearInRange m.date.year

instance (m : Moment) : Decidable (hasDate m) := inferInstanceAs (Decidable (yearInRange _))

/-- The moment a stamp names, if the whole text is one. Neither its own date nor the one in
universal time may be out of range. -/
def read? (cs : List Char) : Option Moment := do
  let (year, cs) ← year cs
  let ((), cs) ← separator '-' cs
  let (month, cs) ← number 2 cs
  let ((), cs) ← separator '-' cs
  let (day, cs) ← number 2 cs
  let ((), cs) ← timeMark cs
  let (hour, cs) ← number 2 cs
  let ((), cs) ← separator ':' cs
  let (minute, cs) ← number 2 cs
  let ((), cs) ← separator ':' cs
  let (second, cs) ← number 2 cs
  let (nanos, cs) ← fraction cs
  let (offset, cs) ← zone cs
  let date : Date := ⟨year, month, day⟩
  if (skipBlanks cs).isEmpty ∧ yearInRange year ∧ date.Valid
      ∧ hour ≤ 23 ∧ minute ≤ 59 ∧ second ≤ 60 then
    let leap : Bool := second = 60
    let there := Moment.ofDate date hour minute (if leap then 59 else second)
      (if leap then nanos + Moment.billion else nanos)
    let moment : Moment := ⟨there.second - offset * 60, there.nanos⟩
    if hasDate moment then some moment else none
  else none

def ofText? (s : String) : Option Moment := read? s.toList

end CouponSale.Stamp

import CouponSale.Number.Binary64
import CouponSale.Text.Hexadecimal

/-!
Numerals as a reservation script reads them: a sign, then a decimal or a hexadecimal number with
an optional fraction and exponent, or a word for infinity or for no number; spaces may stand
around the whole. An exponent counts places, decimal or binary ones. The value is the nearest
binary64 number. Any other text is no numeral.
-/
namespace CouponSale.Numeral

/-- The characters that may stand around a numeral: the space and the five controls from the
tab to the carriage return. -/
def isSpace (c : Char) : Bool := c.toNat = 32 || (9 ≤ c.toNat && c.toNat ≤ 13)

def strip (cs : List Char) : List Char :=
  ((cs.dropWhile isSpace).reverse.dropWhile isSpace).reverse

/-- Takes a sign off the front; the answer says whether it was a minus. -/
def sign : List Char → Bool × List Char
  | '-' :: rest => (true, rest)
  | '+' :: rest => (false, rest)
  | cs => (false, cs)

/-- The exponent after the digits: nothing, or a mark in either case, a sign and digits. -/
def exponent? (mark : Char) : List Char → Option Int
  | [] => some 0
  | c :: rest =>
    if c.toLower = mark then
      let (negative, digits) := sign rest
      (Decimal.readNat? digits).map (fun n => if negative then -(n : Int) else n)
    else none

/-- The digits before and after the point, and what follows them. -/
def mantissa (isDigit : Char → Bool) (cs : List Char) : List Char × List Char × List Char :=
  let (whole, rest) := cs.span isDigit
  match rest with
  | '.' :: rest =>
    let (fraction, rest) := rest.span isDigit
    (whole, fraction, rest)
  | _ => (whole, [], rest)

/-- More than the binary places of every binary64 number that is neither zero nor infinite, on
either side of the point. -/
def farthestPlace : Nat := 1100

/-- The binary64 number nearest to `n` times a power of the base. Places too far from the point
are not worked out: they make the number infinite, or zero. -/
def scaled (base : Nat) (negative : Bool) (n : Nat) (places : Int) : Binary64 :=
  if n = 0 then .finite negative 0
  else if farthestPlace < places then .infinite negative
  else if 0 ≤ places then .ofQuotient negative (n * Nat.pow base places.toNat) 1
  else if Nat.log2 n + 1 + farthestPlace < -places then .finite negative 0
  else .ofQuotient negative n (Nat.pow base (-places).toNat)

def decimal? (negative : Bool) (cs : List Char) : Option Binary64 := do
  let (whole, fraction, rest) := mantissa Decimal.isDigit cs
  let n ← Decimal.readNat? (whole ++ fraction)
  let exponent ← exponent? 'e' rest
  some (scaled 10 negative n (exponent - fraction.length))

/-- A hexadecimal numeral without its sign and its mark. A digit is four binary places. -/
def hexadecimal? (negative : Bool) (cs : List Char) : Option Binary64 := do
  let (whole, fraction, rest) := mantissa (fun c => (Hexadecimal.digit? c).isSome) cs
  let n ← Hexadecimal.readNat? (whole ++ fraction)
  let exponent ← exponent? 'p' rest
  some (scaled 2 negative n (exponent - 4 * fraction.length))

def isRemarkChar (c : Char) : Bool := c.isAlphanum || c = '_'

/-- A word in lower case: infinity, or no number. -/
def word? (negative : Bool) : List Char → Option Binary64
  | ['i', 'n', 'f'] => some (.infinite negative)
  | ['i', 'n', 'f', 'i', 'n', 'i', 't', 'y'] => some (.infinite negative)
  | ['n', 'a', 'n'] => some .nan
  | 'n' :: 'a' :: 'n' :: '(' :: rest =>
    match rest.reverse with
    | ')' :: remark => if remark.all isRemarkChar then some .nan else none
    | _ => none
  | _ => none

def unsigned? (negative : Bool) (cs : List Char) : Option Binary64 :=
  match cs with
  | '0' :: 'x' :: digits | '0' :: 'X' :: digits => hexadecimal? negative digits
  | _ => (decimal? negative cs).or (word? negative (cs.map Char.toLower))

/-- The value of a numeral. The null character ends the text. -/
def read? (cs : List Char) : Option Binary64 :=
  let (negative, rest) := sign (strip (cs.takeWhile (· ≠ '\u0000')))
  unsigned? negative rest

example : read? " 0x.8P1 ".toList = some .one := by decide +kernel
example : read? "-nan(x_9)".toList = some .nan := by decide +kernel
example : read? "infinit".toList = none := by decide +kernel

end CouponSale.Numeral

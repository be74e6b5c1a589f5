/-!
Decimal integers as text. The written form is canonical: no leading zero, no plus sign, a minus
sign only before a negative number. The readers accept more: an optional sign and leading zeros.
-/
namespace CouponSale.Decimal

def digitChar (d : Nat) : Char := Char.ofNat (48 + d)

def digitValue? (c : Char) : Option Nat :=
  if '0' ≤ c ∧ c ≤ '9' then some (c.toNat - 48) else none

def isDigit (c : Char) : Bool := (digitValue? c).isSome

/-- The digits of a natural number, most significant first. -/
def ofNat (n : Nat) : List Char :=
  if n < 10 then [digitChar n] else ofNat (n / 10) ++ [digitChar (n % 10)]

/-- The canonical written form of an integer. -/
def ofInt : Int → List Char
  | .ofNat n => ofNat n
  | .negSucc n => '-' :: ofNat (n + 1)

/-- The canonical written form as a string. -/
def text (i : Int) : String := String.ofList (ofInt i)

def tenTo (n : Nat) : Nat := Nat.pow 10 n

/-- The value of a digit string read after the value `start`; refuses any other character. -/
def readFrom? (start : Nat) : List Char → Option Nat
  | [] => some start
  | c :: cs =>
    match digitValue? c with
    | some d => readFrom? (10 * start + d) cs
    | none => none

/-- The value of a nonempty string of ASCII digits. -/
def readNat? : List Char → Option Nat
  | [] => none
  | cs => readFrom? 0 cs

/-- An optional plus sign and digits, with a value of at most `top`. -/
def readUnsigned? (top : Nat) (cs : List Char) : Option Nat :=
  (readNat? (match cs with
    | '+' :: rest => rest
    | _ => cs)).filter (· ≤ top)

/-- An optional sign and digits, with a value between `bottom` and `top`. -/
def readSigned? (bottom top : Int) (cs : List Char) : Option Int :=
  (match cs with
    | '+' :: rest => (readNat? rest).map Int.ofNat
    | '-' :: rest => (readNat? rest).map (fun n => -Int.ofNat n)
    | _ => (readNat? cs).map Int.ofNat).filter (fun i => bottom ≤ i ∧ i ≤ top)

end CouponSale.Decimal

namespace CouponSale

def minInt64 : Int := -9223372036854775808

def maxInt64 : Int := 9223372036854775807

def maxUInt64 : Nat := 18446744073709551615

def maxUInt32 : Nat := 4294967295

def maxInt32 : Nat := 2147483647

def InInt64 (i : Int) : Prop := minInt64 ≤ i ∧ i ≤ maxInt64

instance (i : Int) : Decidable (InInt64 i) := inferInstanceAs (Decidable (_ ∧ _))

namespace Decimal

/-- The signed 64-bit reader: sign, leading zeros and nothing else around the digits. -/
def readInt64? (cs : List Char) : Option Int := readSigned? minInt64 maxInt64 cs

/-- The canonical decimal form of a signed 64-bit integer, and no other spelling of it. -/
def readCanonical? (cs : List Char) : Option Int :=
  (readInt64? cs).filter (fun i => ofInt i = cs)

end Decimal
end CouponSale

/-!
Binary64 numbers on exact naturals. A finite number is a sign and a count of units, one unit
being 2^-1074, the least positive number of the format; so every finite number is a whole count
and all rounding happens on naturals. Results round to the nearest number of the format, a tie
to the one with an even last bit, and counts that round to 2^1024 or more become infinite.
Exception flags and the payload of a NaN are not modelled.
-/
namespace CouponSale

/-- A binary64 number. The sign of a zero and of an infinity is kept. -/
inductive Binary64 where
  | nan
  | infinite (negative : Bool)
  | finite (negative : Bool) (units : Nat)
  deriving DecidableEq, Repr, Inhabited

namespace Binary64

def twoTo (n : Nat) : Nat := Nat.pow 2 n

/-- The units in one. -/
def oneUnits : Nat := twoTo 1074

/-- The units in 2^1024, the first power of two that is not finite. -/
def overflowUnits : Nat := twoTo 2098

/-- The whole number nearest to `num / den`; a tie goes to the even one. -/
def nearest (num den : Nat) : Nat :=
  let low := num / den
  let rest := 2 * (num % den)
  if rest < den then low
  else if den < rest then low + 1
  else low + low % 2

/-- The spacing, in units, of the numbers of the format around a magnitude of `units` units. -/
def spacing (units : Nat) : Nat := twoTo (Nat.log2 units - 52)

/-- The magnitude of `num / den` units rounded to 53 significant bits, not yet cut off at
infinity. -/
def roundUnits (num den : Nat) : Nat :=
  let step := spacing (num / den)
  step * nearest num (step * den)

/-- The number with the given sign whose magnitude is `num / den` units, rounded. -/
def ofUnits (negative : Bool) (num den : Nat) : Binary64 :=
  let units := roundUnits num den
  if overflowUnits ≤ units then .infinite negative else .finite negative units

def ofNat (n : Nat) : Binary64 := ofUnits false (n * oneUnits) 1

def ofInt (i : Int) : Binary64 := ofUnits (decide (i < 0)) (i.natAbs * oneUnits) 1

def ofQuotient (negative : Bool) (num den : Nat) : Binary64 := ofUnits negative (num * oneUnits) den

def one : Binary64 := .finite false oneUnits

def half : Binary64 := .finite false (twoTo 1073)

def isFinite : Binary64 → Bool
  | .finite _ _ => true
  | _ => false

/-- The product, rounded once. Zero times infinity is not a number. -/
def mul : Binary64 → Binary64 → Binary64
  | .finite s a, .finite t b => ofUnits (s ^^ t) (a * b) oneUnits
  | .finite s a, .infinite t => if a = 0 then .nan else .infinite (s ^^ t)
  | .infinite s, .finite t b => if b = 0 then .nan else .infinite (s ^^ t)
  | .infinite s, .infinite t => .infinite (s ^^ t)
  | .nan, _ => .nan
  | _, .nan => .nan

instance : Mul Binary64 := ⟨mul⟩

/-- A finite number as a signed count of units. -/
def signed (negative : Bool) (units : Nat) : Int := if negative then -units else units

/-- Strictly below; false when one side is not a number. -/
def below : Binary64 → Binary64 → Bool
  | .finite s a, .finite t b => decide (signed s a < signed t b)
  | .finite _ _, .infinite t => !t
  | .infinite s, .finite _ _ => s
  | .infinite s, .infinite t => s && !t
  | .nan, _ => false
  | _, .nan => false

/-- The lesser of two numbers; one that is not a number gives way to the other. -/
def min (x y : Binary64) : Binary64 :=
  match x, y with
  | .nan, _ => y
  | _, .nan => x
  | _, _ => if y.below x then y else x

/-- The greater of two numbers; one that is not a number gives way to the other. -/
def max (x y : Binary64) : Binary64 :=
  match x, y with
  | .nan, _ => y
  | _, .nan => x
  | _, _ => if x.below y then y else x

/-- Numeric equality: the two zeros are equal, and nothing equals a number that is none. -/
def same : Binary64 → Binary64 → Bool
  | .finite s a, .finite t b => decide (signed s a = signed t b)
  | .infinite s, .infinite t => s == t
  | _, _ => false

def atMost (x y : Binary64) : Bool := x.below y || x.same y

/-- The whole part, between zero and `top`. A negative number and one that is not a number
give zero. -/
def truncate (top : Nat) : Binary64 → Nat
  | .nan => 0
  | .infinite negative => if negative then 0 else top
  | .finite negative units => if negative then 0 else Nat.min top (units / oneUnits)

/-- One round of repeated squaring: `acc` collects the factors whose bit is set in the exponent,
`base` is squared between two bits, every product being rounded. -/
def powLoop : Nat → Binary64 → Binary64 → Nat → Binary64
  | 0, acc, _, _ => acc
  | fuel + 1, acc, base, exponent =>
    let acc := if exponent % 2 = 1 then acc * base else acc
    if exponent / 2 = 0 then acc else powLoop fuel acc (base * base) (exponent / 2)

/-- The power by repeated squaring, from the lowest bit of the exponent up. -/
def pow (base : Binary64) (exponent : Nat) : Binary64 :=
  powLoop (exponent + 1) one base exponent

def ofBits (bits : Nat) : Binary64 :=
  let negative := bits / twoTo 63 % 2 = 1
  let exponent := bits / twoTo 52 % twoTo 11
  let fraction := bits % twoTo 52
  if exponent = 2047 then
    if fraction = 0 then .infinite negative else .nan
  else if exponent = 0 then .finite negative fraction
  else .finite negative ((twoTo 52 + fraction) * twoTo (exponent - 1))

/-- The 64 bits of a number that has an encoding of its own. -/
def toBits? : Binary64 → Option Nat
  | .nan => none
  | .infinite negative => some (sign negative + 2047 * twoTo 52)
  | .finite negative units =>
    if units < twoTo 52 then some (sign negative + units)
    else
      let shift := Nat.log2 units - 52
      some (sign negative + (shift + 1) * twoTo 52 + (units / twoTo shift - twoTo 52))
where
  sign (negative : Bool) : Nat := if negative then twoTo 63 else 0

end Binary64
end CouponSale

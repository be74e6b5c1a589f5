import CouponSale.Json.Value
import CouponSale.Text.Reader

/-!
The JSON reader. It is strict: no comment, no trailing comma, no leading zero, no control
character inside a string, nothing but blanks after the value.
-/
namespace CouponSale.Json

/-- The four blank characters of the format. -/
def isSpace (c : Char) : Bool := c = ' ' || c = '\u0009' || c = '\u000a' || c = '\u000d'

def skipSpace (cs : List Char) : List Char := cs.dropWhile isSpace

def hex4? (a b c d : Char) : Option Nat := do
  let a ← Hexadecimal.digit? a
  let b ← Hexadecimal.digit? b
  let c ← Hexadecimal.digit? c
  let d ← Hexadecimal.digit? d
  some (a * 4096 + b * 256 + c * 16 + d)

def shortEscape? : Char → Option Char
  | '"' => some '"'
  | '\\' => some '\\'
  | '/' => some '/'
  | 'b' => some '\u0008'
  | 'f' => some '\u000c'
  | 'n' => some '\u000a'
  | 'r' => some '\u000d'
  | 't' => some '\u0009'
  | _ => none

def isHighHalf (n : Nat) : Bool := 0xD800 ≤ n && n < 0xDC00

def isLowHalf (n : Nat) : Bool := 0xDC00 ≤ n && n < 0xE000

def joinHalves (high low : Nat) : Char :=
  Char.ofNat (0x10000 + (high - 0xD800) * 0x400 + (low - 0xDC00))

/-- What a string body holds: its characters, or `none` once half of a pair has been met. -/
abbrev Body := Option (List Char)

def Body.push (c : Char) (b : Body) : Body := b.map (c :: ·)

/-- The body of a string, up to and without its closing quote. -/
def body : Reader Body
  | [] => none
  | '"' :: cs => some (some [], cs)
  | '\\' :: 'u' :: a :: b :: c :: d :: '\\' :: 'u' :: e :: f :: g :: h :: cs => do
    let unit ← hex4? a b c d
    let next ← hex4? e f g h
    if isHighHalf unit && isLowHalf next then
      let (b, rest) ← body cs
      some (b.push (joinHalves unit next), rest)
    else
      let (b, rest) ← body ('\\' :: 'u' :: e :: f :: g :: h :: cs)
      some (if isHighHalf unit || isLowHalf unit then (none, rest)
        else (b.push (Char.ofNat unit), rest))
  | '\\' :: 'u' :: a :: b :: c :: d :: cs => do
    let unit ← hex4? a b c d
    let (b, rest) ← body cs
    some (if isHighHalf unit || isLowHalf unit then (none, rest)
      else (b.push (Char.ofNat unit), rest))
  | '\\' :: c :: cs => do
    let c ← shortEscape? c
    let (b, rest) ← body cs
    some (b.push c, rest)
  | c :: cs =>
    if c.toNat < 32 ∨ c = '\\' then none
    else do
      let (b, rest) ← body cs
      some (b.push c, rest)

/-- A string with its quotes still to come off; `none` when it holds half of a pair. -/
def key : Reader (Option String)
  | '"' :: cs => (body cs).map (fun (b, rest) => (b.map String.ofList, rest))
  | _ => none

/-- What an object holds: its members, or `none` once a key has half of a pair. -/
abbrev Members := Option (List (String × Json))

def Members.push (name : Option String) (v : Json) (ms : Members) : Members :=
  match name, ms with
  | some name, some ms => some ((name, v) :: ms)
  | _, _ => none

/-- The text between two places of a text, kept as it is. -/
def verbatim (start after : List Char) : Json :=
  raw (String.ofList (start.take (start.length - after.length)))

def digitSpan (cs : List Char) : List Char × List Char :=
  (cs.takeWhile Decimal.isDigit, cs.dropWhile Decimal.isDigit)

/-- The whole part of a number: one zero, or digits that do not start with zero. -/
def wholePart : Reader (List Char) := fun cs =>
  match digitSpan cs with
  | ([], _) => none
  | (['0'], rest) => some (['0'], rest)
  | ('0' :: _, _) => none
  | (digits, rest) => some (digits, rest)

/-- An optional fraction: a point and at least one digit. -/
def fractionPart : Reader (List Char)
  | '.' :: cs =>
    match digitSpan cs with
    | ([], _) => none
    | (digits, rest) => some ('.' :: digits, rest)
  | cs => some ([], cs)

def exponentDigits (mark : Char) (sign : List Char) : Reader (List Char) := fun cs =>
  match digitSpan cs with
  | ([], _) => none
  | (digits, rest) => some (mark :: (sign ++ digits), rest)

def exponentPart : Reader (List Char)
  | c :: cs =>
    if c = 'e' ∨ c = 'E' then
      match cs with
      | '+' :: rest => exponentDigits c ['+'] rest
      | '-' :: rest => exponentDigits c ['-'] rest
      | _ => exponentDigits c [] cs
    else some ([], c :: cs)
  | [] => some ([], [])

/-- A number without its sign. Only one without fraction and exponent, and not minus zero, is an
integer. -/
def magnitude (negative : Bool) : Reader Json := fun cs => do
  let (whole, cs) ← wholePart cs
  let (fraction, cs) ← fractionPart cs
  let (exponent, cs) ← exponentPart cs
  let n ← Decimal.readNat? whole
  if fraction.isEmpty ∧ exponent.isEmpty ∧ ¬ (negative ∧ n = 0) then
    some (int (if negative then -(n : Int) else n), cs)
  else
    let sign := if negative then ['-'] else []
    some (raw (String.ofList (sign ++ whole ++ fraction ++ exponent)), cs)

def number : Reader Json
  | '-' :: cs => magnitude true cs
  | cs => magnitude false cs

mutual

/-- A value, after any blanks. -/
def value : Nat → Reader Json
  | 0, _ => none
  | fuel + 1, cs =>
    match skipSpace cs with
    | 'n' :: 'u' :: 'l' :: 'l' :: rest => some (null, rest)
    | 't' :: 'r' :: 'u' :: 'e' :: rest => some (bool true, rest)
    | 'f' :: 'a' :: 'l' :: 's' :: 'e' :: rest => some (bool false, rest)
    | '"' :: rest =>
      match body rest with
      | some (some chars, rest) => some (str (String.ofList chars), rest)
      | some (none, after) => some (verbatim rest after, after)
      | none => none
    | '[' :: rest =>
      match skipSpace rest with
      | ']' :: rest => some (arr [], rest)
      | _ => (items fuel rest).map (fun (vs, rest) => (arr vs, rest))
    | '{' :: rest =>
      match skipSpace rest with
      | '}' :: rest => some (obj [], rest)
      | _ => (members fuel rest).map fun (ms, after) =>
        ((ms.map obj).getD (verbatim rest after), after)
    | cs => number cs

def items : Nat → Reader (List Json)
  | 0, _ => none
  | fuel + 1, cs =>
    match value fuel cs with
    | none => none
    | some (v, cs) =>
      match skipSpace cs with
      | ',' :: cs => (items fuel cs).map (fun (vs, rest) => (v :: vs, rest))
      | ']' :: cs => some ([v], cs)
      | _ => none

def members : Nat → Reader Members
  | 0, _ => none
  | fuel + 1, cs =>
    match key (skipSpace cs) with
    | none => none
    | some (name, cs) =>
      match skipSpace cs with
      | ':' :: cs =>
        match value fuel cs with
        | none => none
        | some (v, cs) =>
          match skipSpace cs with
          | ',' :: cs => (members fuel cs).map (fun (ms, rest) => (ms.push name v, rest))
          | '}' :: cs => some (Members.push name v (some []), cs)
          | _ => none
      | _ => none

end

/-- The value a text consists of, blanks around it allowed. Every call of a reader is paid for
by a character, at two calls a character. -/
def read? (cs : List Char) : Option Json :=
  match value (2 * cs.length + 2) cs with
  | some (v, rest) => if (skipSpace rest).isEmpty then some v else none
  | none => none

def ofText? (s : String) : Option Json := read? s.toList

end CouponSale.Json

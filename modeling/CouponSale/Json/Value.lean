import CouponSale.Text.Hexadecimal

/-!
JSON values and their compact text. Numbers are integers; a number with a fraction or an
exponent, a string that holds half of a surrogate pair, and an object with such a key are kept as
raw text that no type of this library reads. Members keep their order and may repeat a key.
-/
namespace CouponSale

inductive Json where
  | null
  | bool (b : Bool)
  | int (i : Int)
  | str (s : String)
  | arr (items : List Json)
  | obj (members : List (String × Json))
  | raw (text : String)
  deriving Inhabited

namespace Json

def writeChar (c : Char) : List Char :=
  if c = '"' then ['\\', '"']
  else if c = '\\' then ['\\', '\\']
  else if 32 ≤ c.toNat then [c]
  else if c = '\u0008' then ['\\', 'b']
  else if c = '\u0009' then ['\\', 't']
  else if c = '\u000a' then ['\\', 'n']
  else if c = '\u000c' then ['\\', 'f']
  else if c = '\u000d' then ['\\', 'r']
  else
    ['\\', 'u', '0', '0', Hexadecimal.digitChar (c.toNat / 16),
      Hexadecimal.digitChar (c.toNat % 16)]

def writeString (s : String) : List Char := '"' :: (s.toList.flatMap writeChar ++ ['"'])

mutual

/-- The compact text of a value. -/
def write : Json → List Char
  | null => ['n', 'u', 'l', 'l']
  | bool true => ['t', 'r', 'u', 'e']
  | bool false => ['f', 'a', 'l', 's', 'e']
  | int i => Decimal.ofInt i
  | str s => writeString s
  | arr items => '[' :: writeItems items
  | obj members => '{' :: writeMembers members
  | raw text => text.toList

/-- The items of an array and its closing bracket. -/
def writeItems : List Json → List Char
  | [] => [']']
  | [v] => write v ++ [']']
  | v :: vs => write v ++ ',' :: writeItems vs

/-- The members of an object and its closing brace. -/
def writeMembers : List (String × Json) → List Char
  | [] => ['}']
  | [(key, v)] => writeString key ++ ':' :: (write v ++ ['}'])
  | (key, v) :: ms => writeString key ++ ':' :: (write v ++ ',' :: writeMembers ms)

end

def text (v : Json) : String := String.ofList v.write

end Json
end CouponSale

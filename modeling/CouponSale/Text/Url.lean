import CouponSale.Text.Hexadecimal

/-!
Addresses with a scheme. After the scheme and its colon stand, if there are two slashes, the
authority (a host with what belongs to it), then the path, after a question mark the query, and
after a number sign a fragment, which is not kept.
-/
namespace CouponSale

structure Url where
  /-- In lower case. -/
  scheme : String
  authority : Option (List Char)
  path : List Char
  query : List Char
  deriving DecidableEq, Repr, Inhabited

namespace Url

/-- A space or a control, which may stand around an address. -/
def isMargin (c : Char) : Bool := c.toNat ≤ 32

/-- A tabulator or the end of a line, which count nowhere. -/
def isIgnored (c : Char) : Bool := c = '\u0009' || c = '\u000a' || c = '\u000d'

def significant (cs : List Char) : List Char :=
  (((cs.dropWhile isMargin).reverse.dropWhile isMargin).reverse).filter (fun c => !isIgnored c)

def isSchemeChar (c : Char) : Bool := c.isAlphanum || c = '+' || c = '-' || c = '.'

def isScheme : List Char → Bool
  | [] => false
  | c :: cs => c.isAlpha && cs.all isSchemeChar

/-- The authority, if there is one, and what follows it. -/
def splitAuthority : List Char → Option (List Char) × List Char
  | '/' :: '/' :: rest =>
    let (authority, rest) := rest.span (fun c => c ≠ '/' && c ≠ '?')
    (some authority, rest)
  | rest => (none, rest)

def ofText? (s : String) : Option Url :=
  match (significant s.toList).span (· ≠ ':') with
  | (scheme, ':' :: rest) =>
    if isScheme scheme then
      let (authority, rest) := splitAuthority (rest.takeWhile (· ≠ '#'))
      let (path, query) := rest.span (· ≠ '?')
      some ⟨String.ofList (scheme.map Char.toLower), authority, path, query.drop 1⟩
    else none
  | _ => none

/-! Written octets -/

/-- The octets that a text stands for: a percent sign and two hexadecimal digits spell one, any
other character stands for the octets that encode it. -/
def octets : List Char → List UInt8
  | '%' :: a :: b :: cs =>
    match Hexadecimal.readNat? [a, b] with
    | some n => UInt8.ofNat n :: octets cs
    | none => 37 :: octets (a :: b :: cs)
  | c :: cs => String.utf8EncodeChar c ++ octets cs
  | [] => []

/-- The octets that a text stands for encode characters. -/
def isEncoded (cs : List Char) : Bool := (octets cs).toByteArray.validateUTF8

example : isEncoded "%C3%a9".toList = true := by decide +kernel
example : isEncoded "%C3a9".toList = false := by decide +kernel

/-! The path -/

def segments : List Char → List (List Char)
  | [] => [[]]
  | '/' :: cs => [] :: segments cs
  | c :: cs =>
    match segments cs with
    | s :: ss => (c :: s) :: ss
    | [] => [[c]]

/-- A segment with its dots written out. -/
def dots : List Char → List Char
  | '%' :: '2' :: 'e' :: cs | '%' :: '2' :: 'E' :: cs => '.' :: dots cs
  | c :: cs => c :: dots cs
  | [] => []

/-- The segments of a path after the steps in it: one dot stays where it is, two dots take the
last segment back. The last segment comes first. -/
def walk (segments : List (List Char)) : List (List Char) :=
  segments.foldl (fun passed s =>
    match dots s with
    | ['.'] => passed
    | ['.', '.'] => passed.tail
    | _ => s :: passed) []

/-- The path without steps and without the slashes around it. -/
def trimmedPath (u : Url) : List Char :=
  trim (List.intercalate ['/'] (walk (segments (u.path.drop 1))).reverse)
where
  trim (cs : List Char) : List Char :=
    ((cs.dropWhile (· = '/')).reverse.dropWhile (· = '/')).reverse

/-! The query -/

def fields : List Char → List (List Char)
  | [] => [[]]
  | '&' :: cs => [] :: fields cs
  | c :: cs =>
    match fields cs with
    | f :: fs => (c :: f) :: fs
    | [] => [[c]]

/-- The characters that a field stands for: a plus sign is a space, and an octet may be written
as a percent sign and two hexadecimal digits. -/
def unescape : List Char → List Char
  | '%' :: a :: b :: cs =>
    match Hexadecimal.readNat? [a, b] with
    | some n => Char.ofNat n :: unescape cs
    | none => '%' :: unescape (a :: b :: cs)
  | '+' :: cs => ' ' :: unescape cs
  | c :: cs => c :: unescape cs
  | [] => []

def nameAndValue (field : List Char) : List Char × List Char :=
  let (name, value) := field.span (· ≠ '=')
  (unescape name, unescape (value.drop 1))

/-- The value that a query gives to a name; the last one counts. -/
def parameter? (u : Url) (name : String) : Option (List Char) :=
  ((fields u.query).reverse.map nameAndValue).lookup name.toList

example : (ofText? "a://b/c/../%2E/5/").map trimmedPath = some ['5'] := by decide +kernel
example : (ofText? "Unix:///a/b?db=3&db=%34#c").bind (parameter? · "db") = some ['4'] := by
  decide +kernel
example : ofText? "nope" = none := by decide +kernel

end Url
end CouponSale

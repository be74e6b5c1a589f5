/-!
Blank characters and trimming. A character is blank when it has the Unicode property
`White_Space`; the zero-width space U+200B and the byte order mark U+FEFF do not have it.
The length of a text counts Unicode scalar values.
-/
namespace CouponSale

/-- The characters with the Unicode property `White_Space`, in code point order. -/
def blankChars : List Char :=
  ['\u0009', '\u000a', '\u000b', '\u000c', '\u000d', '\u0020', '\u0085', '\u00a0', '\u1680',
   '\u2000', '\u2001', '\u2002', '\u2003', '\u2004', '\u2005', '\u2006', '\u2007', '\u2008',
   '\u2009', '\u200a', '\u2028', '\u2029', '\u202f', '\u205f', '\u3000']

def isBlank (c : Char) : Bool := blankChars.contains c

/-- The characters left after dropping the blank ones at both ends. -/
def trimBlanks (cs : List Char) : List Char :=
  ((cs.dropWhile isBlank).reverse.dropWhile isBlank).reverse

/-- The text without the blank characters at its two ends. -/
def trim (s : String) : String := String.ofList (trimBlanks s.toList)

example : blankChars.length = 25 := by decide

end CouponSale

/-!
Readers: functions that take a value off the front of a text and return the rest of it.
-/
namespace CouponSale

/-- A reader takes a value off the front of the text, or refuses. -/
abbrev Reader (α : Type) := List Char → Option (α × List Char)

/-- Reads a text to its end. -/
def Reader.whole? {α : Type} (r : Reader α) (s : String) : Option α :=
  match r s.toList with
  | some (a, []) => some a
  | _ => none

end CouponSale

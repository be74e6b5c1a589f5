import CouponSale.Json.Reader
import CouponSale.Time.Stamp

/-!
Reading typed values out of JSON. A record is an object that holds each of its fields exactly
once, other members being passed over, or an array of all its fields in their order. A label is
its own string, or an object whose only member is the label with the value null.
-/
namespace CouponSale.Json

/-- The values stored under a key. -/
def under (name : String) (ms : List (String × Json)) : List Json :=
  ms.filterMap (fun (key, v) => if key = name then some v else none)

/-- The value of a field that is present exactly once. -/
def once? (ms : List (String × Json)) (name : String) : Option Json :=
  match under name ms with
  | [v] => some v
  | _ => none

/-- The values of a record's fields, in the order of their names. -/
def record? (names : List String) : Json → Option (List Json)
  | obj ms => names.mapM (once? ms)
  | arr vs => if vs.length = names.length then some vs else none
  | _ => none

def label? : Json → Option String
  | str s => some s
  | obj [(s, null)] => some s
  | _ => none

def text? : Json → Option String
  | str s => some s
  | _ => none

def bool? : Json → Option Bool
  | bool b => some b
  | _ => none

/-- An integer from `bottom` to `top`. -/
def intWithin? (bottom top : Int) : Json → Option Int
  | int i => if bottom ≤ i ∧ i ≤ top then some i else none
  | _ => none

def int64? (v : Json) : Option Int := v.intWithin? minInt64 maxInt64

def natWithin? (top : Nat) (v : Json) : Option Nat := (v.intWithin? 0 top).map Int.toNat

def moment? (v : Json) : Option Moment := v.text?.bind Stamp.ofText?

/-- The JSON form of a moment is its stamp. -/
def ofMoment (m : Moment) : Json := str (Stamp.text m)

end CouponSale.Json

import CouponSale.Keyed
import CouponSale.Text.Decimal

/-!
A keyspace: texts and sets of texts under keys, and the commands on them. A command on a cell of
the wrong kind is refused and changes nothing. A text counts as a number for a decrement only in
its canonical form.
-/
namespace CouponSale

inductive Cell where
  | text (s : String)
  /-- The members of a set, each once, the latest first. -/
  | members (ms : List String)
  deriving DecidableEq, Repr, Inhabited

inductive Refusal where
  | wrongKind
  | notInteger
  | outOfRange
  deriving DecidableEq, Repr, Inhabited

abbrev Reply (α : Type) := Except Refusal α

structure Keyspace where
  cells : List (String × Cell)
  deriving DecidableEq, Repr, Inhabited

namespace Keyspace

def empty : Keyspace := ⟨[]⟩

def cell? (k : Keyspace) (key : String) : Option Cell := k.cells.lookup key

def put (k : Keyspace) (key : String) (cell : Cell) : Keyspace := ⟨Keyed.put key cell k.cells⟩

@[simp] theorem cell?_put (k : Keyspace) (a b : String) (cell : Cell) :
    (k.put a cell).cell? b = if b = a then some cell else k.cell? b :=
  Keyed.lookup_put a b cell k.cells

/-- Puts a text under a key, in place of whatever was there. -/
def set (k : Keyspace) (key value : String) : Keyspace := k.put key (.text value)

/-- The text under a key, if there is any cell. -/
def get (k : Keyspace) (key : String) : Reply (Option String) :=
  match k.cell? key with
  | none => .ok none
  | some (.text s) => .ok (some s)
  | some (.members _) => .error .wrongKind

/-- Takes one off the number under a key; a missing cell counts as zero. -/
def decrement (k : Keyspace) (key : String) : Reply Int × Keyspace :=
  match k.get key with
  | .error e => (.error e, k)
  | .ok value =>
    match (value.map (Decimal.readCanonical? ·.toList)).getD (some 0) with
    | none => (.error .notInteger, k)
    | some i =>
      if i = minInt64 then (.error .outOfRange, k)
      else (.ok (i - 1), k.set key (Decimal.text (i - 1)))

/-- The members of the set under a key; a missing cell is an empty set. -/
def membersOf (k : Keyspace) (key : String) : Reply (List String) :=
  match k.cell? key with
  | none => .ok []
  | some (.members ms) => .ok ms
  | some (.text _) => .error .wrongKind

def isMember (k : Keyspace) (key m : String) : Reply Bool :=
  (k.membersOf key).map (·.contains m)

def memberCount (k : Keyspace) (key : String) : Reply Nat := (k.membersOf key).map List.length

/-- Adds a member to the set under a key; the reply counts the new ones. -/
def addMember (k : Keyspace) (key m : String) : Reply Nat × Keyspace :=
  match k.membersOf key with
  | .error e => (.error e, k)
  | .ok ms => if ms.contains m then (.ok 0, k) else (.ok 1, k.put key (.members (m :: ms)))

def delete (k : Keyspace) (key : String) : Keyspace := ⟨Keyed.remove key k.cells⟩

@[simp] theorem cell?_delete (k : Keyspace) (a b : String) :
    (k.delete a).cell? b = if b = a then none else k.cell? b :=
  Keyed.lookup_remove a b k.cells

end Keyspace
end CouponSale

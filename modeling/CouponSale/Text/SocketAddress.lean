import CouponSale.Text.Hexadecimal
import CouponSale.Text.Reader

/-!
Socket addresses: a numeric host and the number of a service there. A host is four octets with
points between them, or eight groups of hexadecimal digits in brackets, of which one run of zeros
may be left out and the last two may be written as octets; a scope may follow the groups. Names of
hosts are no such addresses.
-/
namespace CouponSale

inductive Host where
  | v4 (octets : List Nat)
  | v6 (groups : List Nat) (scope : Nat)
  deriving DecidableEq, Repr, Inhabited

/-- A numeric host and the number of a service there. -/
structure SocketAddress where
  host : Host
  service : Nat
  deriving DecidableEq, Repr, Inhabited

namespace SocketAddress

def mark (m : Char) : Reader Unit
  | c :: rest => if c = m then some ((), rest) else none
  | [] => none

/-- Decimal digits with a value up to `top`. -/
def number (top : Nat) : Reader Nat := fun cs =>
  let (digits, rest) := cs.span Decimal.isDigit
  (Decimal.readNat? digits).bind fun n => if n ≤ top then some (n, rest) else none

/-- One to three digits without a needless zero, up to 255. -/
def octet : Reader Nat := fun cs =>
  match cs with
  | '0' :: c :: _ => if Decimal.isDigit c then none else number 255 cs
  | _ => number 255 cs

def octets : Reader (List Nat) := fun cs => do
  let (a, cs) ← octet cs
  let ((), cs) ← mark '.' cs
  let (b, cs) ← octet cs
  let ((), cs) ← mark '.' cs
  let (c, cs) ← octet cs
  let ((), cs) ← mark '.' cs
  let (d, cs) ← octet cs
  some ([a, b, c, d], cs)

/-- One to four hexadecimal digits. -/
def group : Reader Nat := fun cs =>
  let (digits, rest) := cs.span (fun c => (Hexadecimal.digit? c).isSome)
  if digits.length ≤ 4 then (Hexadecimal.readNat? digits).map (·, rest) else none

/-- The two groups that four octets make. -/
def paired : List Nat → List Nat
  | a :: b :: rest => (256 * a + b) :: paired rest
  | rest => rest

/-- As many groups as there are, no more than `left`, with colons between them. The answer also
says whether the last two were octets, which end the run. -/
def groups : Nat → Bool → List Char → List Nat × Bool × List Char
  | 0, _, cs => ([], false, cs)
  | left + 1, isFirst, cs =>
    match if isFirst then some cs else (mark ':' cs).map (·.2) with
    | none => ([], false, cs)
    | some start =>
      match if 1 ≤ left then octets start else none with
      | some (four, rest) => (paired four, true, rest)
      | none =>
        match group start with
        | some (g, rest) =>
          let (more, ended, rest) := groups left false rest
          (g :: more, ended, rest)
        | none => ([], false, cs)

/-- Eight groups. Two colons stand for one zero or more; octets do not stand before them. -/
def eightGroups : Reader (List Nat) := fun cs =>
  let (head, ended, rest) := groups 8 true cs
  if head.length = 8 then some (head, rest)
  else if ended then none
  else
    match rest with
    | ':' :: ':' :: rest =>
      let (tail, _, rest) := groups (7 - head.length) true rest
      some (head ++ List.replicate (8 - head.length - tail.length) 0 ++ tail, rest)
    | _ => none

def scope : Reader Nat := fun cs =>
  match (mark '%' cs).bind (fun ((), rest) => number maxUInt32 rest) with
  | some found => some found
  | none => some (0, cs)

def anyHost : Reader Host := fun cs =>
  match octets cs with
  | some (four, rest) => some (.v4 four, rest)
  | none => do
    let ((), cs) ← mark '[' cs
    let (eight, cs) ← eightGroups cs
    let (scope, cs) ← scope cs
    let ((), cs) ← mark ']' cs
    some (.v6 eight scope, cs)

def address : Reader SocketAddress := fun cs => do
  let (host, cs) ← anyHost cs
  let ((), cs) ← mark ':' cs
  let (service, cs) ← number 65535 cs
  some (⟨host, service⟩, cs)

def ofText? (s : String) : Option SocketAddress := address.whole? s

example : ofText? "127.0.0.1:80" = some ⟨.v4 [127, 0, 0, 1], 80⟩ := by decide +kernel
example : ofText? "[::1]:80" = some ⟨.v6 [0, 0, 0, 0, 0, 0, 0, 1] 0, 80⟩ := by decide +kernel
example : ofText? "localhost:80" = none := by decide +kernel
example : ofText? "1.2.3.04:80" = none := by decide +kernel

end SocketAddress
end CouponSale

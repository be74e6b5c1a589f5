import CouponSale.Text.Decimal

/-!
Hexadecimal digits. Letters of either case are read, lower-case ones are written.
-/
namespace CouponSale.Hexadecimal

def digit? (c : Char) : Option Nat :=
  if '0' ≤ c ∧ c ≤ '9' then some (c.toNat - 48)
  else if 'a' ≤ c ∧ c ≤ 'f' then some (c.toNat - 87)
  else if 'A' ≤ c ∧ c ≤ 'F' then some (c.toNat - 55)
  else none

def digitChar (n : Nat) : Char := if n < 10 then Decimal.digitChar n else Char.ofNat (87 + n)

def readNat? : List Char → Option Nat
  | [] => none
  | cs => cs.foldlM (fun n c => (digit? c).map (16 * n + ·)) 0

end CouponSale.Hexadecimal

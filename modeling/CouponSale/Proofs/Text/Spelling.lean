import CouponSale.Proofs.Text.Decimal
import Mathlib.Data.Nat.Digits.Defs

/-!
Spellings of numbers. What a reader of decimal numbers takes is an optional sign and digits in
positional notation, with any leading zeros, as long as the number is in its range; it takes nothing
else.
-/
namespace CouponSale.Decimal

/-- At least one digit, the most significant first, and the number that they stand for. -/
def Spells (cs : List Char) (n : Nat) : Prop :=
  ∃ digits : List Nat, digits ≠ [] ∧ (∀ d ∈ digits, d < 10) ∧ cs = digits.map digitChar ∧
    n = Nat.ofDigits 10 digits.reverse

theorem Spells.lt {cs : List Char} {n : Nat} (spells : Spells cs n) : n < 10 ^ cs.length := by
  obtain ⟨digits, -, small, rfl, rfl⟩ := spells
  have bound := Nat.ofDigits_lt_base_pow_length (by decide)
    (fun d member => small d (List.mem_reverse.mp member))
  rw [List.length_map]
  rwa [List.length_reverse] at bound

/-- Digits after an optional plus sign. -/
def SpellsUnsigned (cs : List Char) (n : Nat) : Prop :=
  Spells cs n ∨ ∃ rest, cs = '+' :: rest ∧ Spells rest n

/-- Digits after an optional sign. -/
def SpellsSigned (cs : List Char) (i : Int) : Prop :=
  (∃ n : Nat, SpellsUnsigned cs n ∧ i = n) ∨
    ∃ rest, ∃ n : Nat, cs = '-' :: rest ∧ Spells rest n ∧ i = -n

theorem digitValue?_eq_some_iff {c : Char} {d : Nat} :
    digitValue? c = some d ↔ d < 10 ∧ c = digitChar d := by
  constructor
  · intro value
    have digit : isDigit c = true := by rw [isDigit, value]; rfl
    obtain ⟨above, below⟩ := range_of_isDigit digit
    unfold digitValue? at value
    split at value
    · have same : d = c.toNat - 48 := (Option.some.inj value).symm
      refine ⟨by omega, ?_⟩
      rw [digitChar, same, Nat.add_sub_cancel' above, Char.ofNat_toNat]
    · contradiction
  · rintro ⟨small, rfl⟩
    exact digitValue?_digitChar small

theorem readFrom?_eq_some_iff {start n : Nat} {cs : List Char} :
    readFrom? start cs = some n ↔ ∃ digits : List Nat, (∀ d ∈ digits, d < 10) ∧
      cs = digits.map digitChar ∧
      n = Nat.ofDigits 10 digits.reverse + 10 ^ digits.length * start := by
  induction cs generalizing start with
  | nil =>
    constructor
    · intro read
      exact ⟨[], by simp, rfl, by simpa [readFrom?, eq_comm] using read⟩
    · rintro ⟨digits, -, empty, rfl⟩
      simp [List.map_eq_nil_iff.mp empty.symm, readFrom?]
  | cons c cs ih =>
    have positional (d : Nat) (digits : List Nat) :
        Nat.ofDigits 10 (d :: digits).reverse + 10 ^ (d :: digits).length * start =
          Nat.ofDigits 10 digits.reverse + 10 ^ digits.length * (10 * start + d) := by
      rw [List.reverse_cons, Nat.ofDigits_append, Nat.ofDigits_singleton, List.length_reverse,
        List.length_cons]
      ring
    constructor
    · intro read
      cases value : digitValue? c with
      | none => simp [readFrom?, value] at read
      | some d =>
        obtain ⟨small, rfl⟩ := digitValue?_eq_some_iff.mp value
        simp only [readFrom?, value] at read
        obtain ⟨digits, rest, rfl, rfl⟩ := ih.mp read
        exact ⟨d :: digits, by simpa using ⟨small, rest⟩, rfl, (positional d digits).symm⟩
    · rintro ⟨digits, small, same, rfl⟩
      cases digits with
      | nil => simp at same
      | cons d digits =>
        obtain ⟨rfl, rfl⟩ := List.cons.inj same
        simp only [readFrom?, digitValue?_digitChar (small d List.mem_cons_self)]
        exact ih.mpr ⟨digits, fun e member => small e (List.mem_cons_of_mem d member), rfl,
          positional d digits⟩

theorem readNat?_eq_some_iff {cs : List Char} {n : Nat} : readNat? cs = some n ↔ Spells cs n := by
  cases cs with
  | nil =>
    constructor
    · intro read
      contradiction
    · rintro ⟨digits, some, -, empty, -⟩
      exact absurd (List.map_eq_nil_iff.mp empty.symm) some
  | cons c cs =>
    rw [readNat?, readFrom?_eq_some_iff]
    · constructor
      · rintro ⟨digits, small, same, rfl⟩
        refine ⟨digits, ?_, small, same, by simp⟩
        rintro rfl
        contradiction
      · rintro ⟨digits, -, small, same, rfl⟩
        exact ⟨digits, small, same, by simp⟩
    · simp

/-- No spelling without a sign starts with one. -/
theorem not_spells_cons {c : Char} (other : isDigit c = false) (rest : List Char) (n : Nat) :
    ¬ Spells (c :: rest) n := by
  rintro ⟨digits, some, small, same, -⟩
  cases digits with
  | nil => exact some rfl
  | cons d digits =>
    obtain ⟨rfl, -⟩ := List.cons.inj same
    rw [isDigit_digitChar (small d List.mem_cons_self)] at other
    contradiction

theorem readUnsigned?_eq_some_iff {top n : Nat} {cs : List Char} :
    readUnsigned? top cs = some n ↔ SpellsUnsigned cs n ∧ n ≤ top := by
  unfold readUnsigned? SpellsUnsigned
  rw [Option.filter_eq_some_iff, decide_eq_true_eq]
  refine and_congr_left' ?_
  split
  · rename_i rest
    have unsigned : ¬ Spells ('+' :: rest) n := not_spells_cons (by decide) rest n
    simp [readNat?_eq_some_iff, unsigned]
  · rename_i plain
    have none (rest : List Char) : cs ≠ '+' :: rest := plain rest
    simp [readNat?_eq_some_iff, none]

theorem readSigned?_eq_some_iff {bottom top i : Int} {cs : List Char} :
    readSigned? bottom top cs = some i ↔ SpellsSigned cs i ∧ bottom ≤ i ∧ i ≤ top := by
  unfold readSigned? SpellsSigned SpellsUnsigned
  rw [Option.filter_eq_some_iff, decide_eq_true_eq]
  refine and_congr_left' ?_
  split
  · rename_i rest
    have unsigned (n : Nat) : ¬ Spells ('+' :: rest) n := not_spells_cons (by decide) rest n
    simp [readNat?_eq_some_iff, unsigned, @eq_comm _ i]
  · rename_i rest
    have unsigned (n : Nat) : ¬ Spells ('-' :: rest) n := not_spells_cons (by decide) rest n
    simp [readNat?_eq_some_iff, unsigned, @eq_comm _ i]
  · rename_i plus minus
    have noPlus (rest : List Char) : cs ≠ '+' :: rest := plus rest
    have noMinus (rest : List Char) : cs ≠ '-' :: rest := minus rest
    simp [readNat?_eq_some_iff, noPlus, noMinus, @eq_comm _ i]

/-- The written form of a natural number spells it. -/
theorem spellsUnsigned_ofNat (n : Nat) : SpellsUnsigned (ofNat n) n :=
  .inl (readNat?_eq_some_iff.mp (readNat?_ofNat n))

/-- The written form of an integer spells it. -/
theorem spellsSigned_ofInt (i : Int) : SpellsSigned (ofInt i) i :=
  (readSigned?_eq_some_iff.mp (readSigned?_ofInt (Int.le_refl i) (Int.le_refl i))).1

end CouponSale.Decimal

import CouponSale.Text.Decimal

/-!
Decimal text. The written form of an integer consists of digits after an optional minus sign, the
readers take it back, and different integers have different texts.
-/
namespace CouponSale.Decimal

theorem ofNat_eq (n : Nat) :
    ofNat n = if n < 10 then [digitChar n] else ofNat (n / 10) ++ [digitChar (n % 10)] := by
  rw [ofNat]

theorem digitValue?_digitChar {d : Nat} (small : d < 10) : digitValue? (digitChar d) = some d := by
  have digits : ∀ e < 10, digitValue? (digitChar e) = some e := by decide
  exact digits d small

theorem readFrom?_append (start : Nat) (earlier later : List Char) :
    readFrom? start (earlier ++ later) =
      (readFrom? start earlier).bind fun n => readFrom? n later := by
  induction earlier generalizing start with
  | nil => rfl
  | cons c earlier ih =>
    simp only [List.cons_append, readFrom?]
    cases digitValue? c with
    | none => rfl
    | some d => exact ih _

theorem readFrom?_ofNat (n : Nat) : readFrom? 0 (ofNat n) = some n := by
  induction n using Nat.strongRecOn with
  | ind n ih =>
    rw [ofNat_eq]
    by_cases small : n < 10
    · simp [small, readFrom?, digitValue?_digitChar small]
    · have last : n % 10 < 10 := Nat.mod_lt _ (by omega)
      rw [if_neg small, readFrom?_append, ih (n / 10) (by omega)]
      simp only [Option.bind_some, readFrom?, digitValue?_digitChar last]
      congr 1
      omega

theorem ofNat_ne_nil (n : Nat) : ofNat n ≠ [] := by
  rw [ofNat_eq]
  split <;> simp

theorem readNat?_ofNat (n : Nat) : readNat? (ofNat n) = some n := by
  have read := readFrom?_ofNat n
  cases digits : ofNat n with
  | nil => exact absurd digits (ofNat_ne_nil n)
  | cons c cs => rwa [digits] at read

theorem isDigit_digitChar {d : Nat} (small : d < 10) : isDigit (digitChar d) = true := by
  rw [isDigit, digitValue?_digitChar small]
  rfl

theorem isDigit_of_mem {n : Nat} {c : Char} (member : c ∈ ofNat n) : isDigit c = true := by
  induction n using Nat.strongRecOn with
  | ind n ih =>
    rw [ofNat_eq] at member
    by_cases small : n < 10
    · rw [if_pos small, List.mem_singleton] at member
      exact member ▸ isDigit_digitChar small
    · rw [if_neg small] at member
      rcases List.mem_append.mp member with earlier | last
      · exact ih (n / 10) (by omega) earlier
      · exact List.mem_singleton.mp last ▸ isDigit_digitChar (Nat.mod_lt _ (by omega))

/-- What a digit is not: a sign, a space, the null character or a letter. -/
theorem range_of_isDigit {c : Char} (digit : isDigit c = true) : 48 ≤ c.toNat ∧ c.toNat ≤ 57 := by
  unfold isDigit digitValue? at digit
  split at digit
  · rename_i range
    exact ⟨UInt32.le_iff_toNat_le.mp range.1, UInt32.le_iff_toNat_le.mp range.2⟩
  · contradiction

/-- The written form of a natural number has no sign. -/
theorem ofNat_ne_cons {n : Nat} {c : Char} (other : isDigit c = false) (rest : List Char) :
    ofNat n ≠ c :: rest := by
  intro same
  have digit : isDigit c = true := isDigit_of_mem (same ▸ List.mem_cons_self)
  rw [other] at digit
  contradiction

/-- The written form of a number other than zero has no leading zero. -/
theorem ofNat_eq_cons {n : Nat} (positive : 0 < n) : ∃ c cs, ofNat n = c :: cs ∧ c ≠ '0' := by
  induction n using Nat.strongRecOn with
  | ind n ih =>
    rw [ofNat_eq]
    by_cases small : n < 10
    · have nonzero : ∀ d < 10, 0 < d → digitChar d ≠ '0' := by decide
      exact ⟨digitChar n, [], if_pos small, nonzero n small positive⟩
    · obtain ⟨c, cs, text, leading⟩ := ih (n / 10) (by omega) (by omega)
      exact ⟨c, cs ++ [digitChar (n % 10)], by rw [if_neg small, text, List.cons_append], leading⟩

/-- The reader takes the written form of an integer back. -/
theorem readSigned?_ofInt {bottom top i : Int} (above : bottom ≤ i) (below : i ≤ top) :
    readSigned? bottom top (ofInt i) = some i := by
  unfold readSigned?
  cases i with
  | ofNat n =>
    simp only [ofInt]
    split
    · rename_i rest plus
      exact absurd plus (ofNat_ne_cons (by decide) rest)
    · rename_i rest minus
      exact absurd minus (ofNat_ne_cons (by decide) rest)
    · rw [readNat?_ofNat]
      simp only [Option.map_some, Option.filter_some, above, below, and_self, decide_true, if_true]
  | negSucc n =>
    simp only [ofInt, readNat?_ofNat, Option.map_some]
    have same : -Int.ofNat (n + 1) = Int.negSucc n := rfl
    simp only [same, Option.filter_some, above, below, and_self, decide_true, if_true]

theorem readInt64?_ofInt {i : Int} (fits : InInt64 i) : readInt64? (ofInt i) = some i :=
  readSigned?_ofInt fits.1 fits.2

theorem readCanonical?_ofInt {i : Int} (fits : InInt64 i) : readCanonical? (ofInt i) = some i := by
  rw [readCanonical?, readInt64?_ofInt fits]
  simp

/-- Only the canonical form of a number of 64 bits is read as a canonical form. -/
theorem readCanonical?_eq_some_iff {cs : List Char} {i : Int} :
    readCanonical? cs = some i ↔ cs = ofInt i ∧ InInt64 i := by
  constructor
  · intro read
    obtain ⟨number, same⟩ := Option.filter_eq_some_iff.mp read
    obtain ⟨_, range⟩ := Option.filter_eq_some_iff.mp number
    exact ⟨(of_decide_eq_true same).symm, of_decide_eq_true range⟩
  · rintro ⟨rfl, fits⟩
    exact readCanonical?_ofInt fits

theorem ofInt_injective {i j : Int} (same : ofInt i = ofInt j) : i = j := by
  have read : readSigned? (min i j) (max i j) (ofInt i) = some i :=
    readSigned?_ofInt (by omega) (by omega)
  rw [same, readSigned?_ofInt (by omega) (by omega)] at read
  exact (Option.some.inj read).symm

theorem text_injective {i j : Int} (same : text i = text j) : i = j :=
  ofInt_injective (String.ofList_injective same)

theorem toList_text (i : Int) : (text i).toList = ofInt i := String.toList_ofList

end CouponSale.Decimal

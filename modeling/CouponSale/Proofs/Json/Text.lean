import CouponSale.Json.Reader
import CouponSale.Proofs.Text.Decimal
import Mathlib.Data.List.TakeWhile

/-!
The text of a JSON value. The strict reader takes the compact text of a value and gives the value
back, if the value is made of texts, integers, truth values, arrays and objects: strings with every
character escaped that needs it, members in their order, a key as often as it is there.
-/
namespace CouponSale.Json

/-- What starts like a hexadecimal escape is read only if it is one. -/
theorem hex4?_of_body {a b c d : Char} {tail : List Char} {read : Body × List Char}
    (success : body ('\\' :: 'u' :: a :: b :: c :: d :: tail) = some read) :
    ∃ unit, hex4? a b c d = some unit := by
  cases digits : hex4? a b c d with
  | some unit => exact ⟨unit, rfl⟩
  | none =>
    by_cases paired : ∃ e f g h rest, tail = '\\' :: 'u' :: e :: f :: g :: h :: rest
    · obtain ⟨e, f, g, h, rest, rfl⟩ := paired
      rw [body, digits] at success
      contradiction
    · rw [body, digits] at success
      · contradiction
      · intro e f g h rest same
        exact paired ⟨e, f, g, h, rest, same⟩

/-- A hexadecimal escape for a character, whatever follows it. -/
theorem body_escape {a b c d : Char} {unit : Nat} {tail s after : List Char}
    (digits : hex4? a b c d = some unit) (high : isHighHalf unit = false)
    (low : isLowHalf unit = false) (read : body tail = some (some s, after)) :
    body ('\\' :: 'u' :: a :: b :: c :: d :: tail) = some (some (Char.ofNat unit :: s), after) := by
  by_cases paired : ∃ e f g h rest, tail = '\\' :: 'u' :: e :: f :: g :: h :: rest
  · obtain ⟨e, f, g, h, rest, rfl⟩ := paired
    obtain ⟨next, digits'⟩ := hex4?_of_body read
    rw [body, digits, digits']
    simp [read, high, low, Body.push]
  · rw [body, digits]
    · simp [read, high, low, Body.push]
    · intro e f g h rest same
      exact paired ⟨e, f, g, h, rest, same⟩

theorem body_shortEscape {c d : Char} {tail s after : List Char} (short : shortEscape? c = some d)
    (read : body tail = some (some s, after)) :
    body ('\\' :: c :: tail) = some (some (d :: s), after) := by
  have other : c ≠ 'u' := by
    rintro rfl
    contradiction
  rw [body]
  · simp [short, read, Body.push]
  all_goals simp [other]

theorem body_plain {c : Char} {tail s after : List Char} (printable : 32 ≤ c.toNat)
    (quote : c ≠ '"') (backslash : c ≠ '\\') (read : body tail = some (some s, after)) :
    body (c :: tail) = some (some (c :: s), after) := by
  rw [body]
  · simp [read, Body.push, backslash, printable]
  all_goals simp [quote, backslash]

/-- The escapes of the control characters that have no short one. -/
theorem hex4?_control {n : Nat} (control : n < 32) :
    hex4? '0' '0' (Hexadecimal.digitChar (n / 16)) (Hexadecimal.digitChar (n % 16)) = some n := by
  have all : ∀ k < 32, hex4? '0' '0' (Hexadecimal.digitChar (k / 16))
      (Hexadecimal.digitChar (k % 16)) = some k := by decide
  exact all n control

/-- The ways in which a character is written. -/
inductive Written (c : Char) : List Char → Prop
  | plain (printable : 32 ≤ c.toNat) (quote : c ≠ '"') (backslash : c ≠ '\\') : Written c [c]
  | short {mark : Char} (short : shortEscape? mark = some c) : Written c ['\\', mark]
  | hex (control : c.toNat < 32) :
      Written c ['\\', 'u', '0', '0', Hexadecimal.digitChar (c.toNat / 16),
        Hexadecimal.digitChar (c.toNat % 16)]

theorem written_writeChar (c : Char) : Written c (writeChar c) := by
  unfold writeChar
  split_ifs with quote backslash printable
  case pos =>
    subst quote
    exact .short rfl
  case pos =>
    subst backslash
    exact .short rfl
  case pos => exact .plain printable quote backslash
  case neg => exact .hex (Nat.lt_of_not_le printable)
  all_goals
    subst c
    exact .short rfl

/-- A character is read back from the way it is written in a string. -/
theorem body_writeChar (c : Char) {tail s after : List Char}
    (read : body tail = some (some s, after)) :
    body (writeChar c ++ tail) = some (some (c :: s), after) := by
  have written := written_writeChar c
  generalize writeChar c = text at written ⊢
  cases written with
  | plain printable quote backslash => exact body_plain printable quote backslash read
  | short short => exact body_shortEscape short read
  | hex control =>
    have high : isHighHalf c.toNat = false := by
      simp [isHighHalf]
      omega
    have low : isLowHalf c.toNat = false := by
      simp [isLowHalf]
      omega
    have escaped := body_escape (hex4?_control control) high low read
    rwa [Char.ofNat_toNat] at escaped

/-- The characters of a string are read back, up to its closing quote. -/
theorem body_write (s rest : List Char) :
    body (s.flatMap writeChar ++ '"' :: rest) = some (some s, rest) := by
  induction s with
  | nil =>
    rw [List.flatMap_nil, List.nil_append, body]
  | cons c s ih =>
    rw [List.flatMap_cons, List.append_assoc]
    exact body_writeChar c ih

theorem key_writeString (s : String) (rest : List Char) :
    key (writeString s ++ rest) = some (some s, rest) := by
  have text : writeString s ++ rest = '"' :: (s.toList.flatMap writeChar ++ '"' :: rest) := by
    simp [writeString]
  rw [text, key, body_write]
  simp

/-- The text does not go on with a digit, a fraction or an exponent. -/
def EndsNumber : List Char → Prop
  | [] => True
  | c :: _ => Decimal.isDigit c = false ∧ c ≠ '.' ∧ c ≠ 'e' ∧ c ≠ 'E'

/-- A number ends where the value that it is part of goes on. -/
theorem EndsNumber.of_mark {c : Char} (mark : c = ',' ∨ c = ']' ∨ c = '}') (rest : List Char) :
    EndsNumber (c :: rest) := by
  rcases mark with rfl | rfl | rfl
  all_goals exact ⟨by decide, by decide, by decide, by decide⟩

theorem digitSpan_append {digits rest : List Char} (all : ∀ c ∈ digits, Decimal.isDigit c = true)
    (ends : EndsNumber rest) : digitSpan (digits ++ rest) = (digits, rest) := by
  have stop : rest.takeWhile Decimal.isDigit = [] ∧ rest.dropWhile Decimal.isDigit = rest := by
    cases rest with
    | nil => exact ⟨rfl, rfl⟩
    | cons c rest => simp [ends.1]
  rw [digitSpan, List.takeWhile_append_of_pos all, List.dropWhile_append_of_pos all, stop.1, stop.2,
    List.append_nil]

theorem wholePart_ofNat (n : Nat) {rest : List Char} (ends : EndsNumber rest) :
    wholePart (Decimal.ofNat n ++ rest) = some (Decimal.ofNat n, rest) := by
  rw [wholePart, digitSpan_append (fun c => Decimal.isDigit_of_mem) ends]
  rcases Nat.eq_zero_or_pos n with rfl | positive
  · have zero : Decimal.ofNat 0 = ['0'] := by
      rw [Decimal.ofNat_eq]
      rfl
    rw [zero]
    rfl
  · obtain ⟨c, cs, text, leading⟩ := Decimal.ofNat_eq_cons positive
    rw [text]
    simp [leading]

theorem fractionPart_of_ends {rest : List Char} (ends : EndsNumber rest) :
    fractionPart rest = some ([], rest) := by
  cases rest with
  | nil => rfl
  | cons c rest =>
    rw [fractionPart]
    rintro cs same
    exact ends.2.1 (List.cons.inj same).1

theorem exponentPart_of_ends {rest : List Char} (ends : EndsNumber rest) :
    exponentPart rest = some ([], rest) := by
  cases rest with
  | nil => rfl
  | cons c rest => exact if_neg (by simp [ends.2.2])

theorem magnitude_ofNat {negative : Bool} {n : Nat} (proper : ¬ (negative = true ∧ n = 0))
    {rest : List Char} (ends : EndsNumber rest) :
    magnitude negative (Decimal.ofNat n ++ rest) =
      some (int (if negative then -(n : Int) else n), rest) := by
  unfold magnitude
  refine Option.bind_eq_some_iff.mpr ⟨_, wholePart_ofNat n ends, ?_⟩
  refine Option.bind_eq_some_iff.mpr ⟨_, fractionPart_of_ends ends, ?_⟩
  refine Option.bind_eq_some_iff.mpr ⟨_, exponentPart_of_ends ends, ?_⟩
  refine Option.bind_eq_some_iff.mpr ⟨_, Decimal.readNat?_ofNat n, ?_⟩
  exact if_pos ⟨rfl, rfl, proper⟩

/-- What the text of a number starts with. -/
theorem ofNat_append_eq_cons (n : Nat) (rest : List Char) :
    ∃ c cs, Decimal.ofNat n ++ rest = c :: cs ∧ Decimal.isDigit c = true := by
  cases text : Decimal.ofNat n with
  | nil => exact absurd text (Decimal.ofNat_ne_nil n)
  | cons c cs =>
    exact ⟨c, cs ++ rest, rfl, Decimal.isDigit_of_mem (text ▸ List.mem_cons_self)⟩

/-- An integer is read back from its canonical form. -/
theorem number_ofInt (i : Int) {rest : List Char} (ends : EndsNumber rest) :
    number (Decimal.ofInt i ++ rest) = some (int i, rest) := by
  cases i with
  | ofNat n =>
    have unsigned :
        number (Decimal.ofNat n ++ rest) = magnitude false (Decimal.ofNat n ++ rest) := by
      obtain ⟨c, cs, text, digit⟩ := ofNat_append_eq_cons n rest
      rw [text, number]
      rintro ds same
      obtain ⟨rfl, -⟩ := List.cons.inj same
      contradiction
    rw [Decimal.ofInt, unsigned, magnitude_ofNat (by simp) ends]
    rfl
  | negSucc n =>
    rw [Decimal.ofInt, List.cons_append, number, magnitude_ofNat (by simp) ends]
    rfl

theorem skipSpace_cons {c : Char} (solid : isSpace c = false) (rest : List Char) :
    skipSpace (c :: rest) = c :: rest := by
  simp [skipSpace, solid]

/-- No part of the value is kept as raw text. -/
inductive Plain : Json → Prop
  | null : Plain null
  | bool (b : Bool) : Plain (bool b)
  | int (i : Int) : Plain (int i)
  | str (s : String) : Plain (str s)
  | arr {items : List Json} (plain : ∀ v ∈ items, Plain v) : Plain (arr items)
  | obj {members : List (String × Json)} (plain : ∀ m ∈ members, Plain m.2) : Plain (obj members)

/-- The text starts with neither a blank nor the end of an array. -/
def Starts (cs : List Char) : Prop :=
  ∃ c rest, cs = c :: rest ∧ isSpace c = false ∧ c ≠ ']'

theorem starts_of_digit {c : Char} (digit : Decimal.isDigit c = true) (rest : List Char) :
    Starts (c :: rest) := by
  obtain ⟨above, below⟩ := Decimal.range_of_isDigit digit
  refine ⟨c, rest, rfl, ?_, ?_⟩
  · have blanks : ∀ d : Char, isSpace d = true → d.toNat < 48 := by
      intro d space
      simp only [isSpace, Bool.or_eq_true, decide_eq_true_eq] at space
      rcases space with ((rfl | rfl) | rfl) | rfl <;> decide
    refine Bool.eq_false_iff.mpr fun space => ?_
    have less := blanks c space
    omega
  · rintro rfl
    exact absurd below (by decide)

theorem Plain.starts {v : Json} (plain : v.Plain) (rest : List Char) :
    Starts (v.write ++ rest) := by
  cases plain with
  | null => exact ⟨'n', _, rfl, by decide, by decide⟩
  | bool b => cases b <;> exact ⟨_, _, rfl, by decide, by decide⟩
  | int i =>
    rw [write]
    cases i with
    | ofNat n =>
      obtain ⟨c, cs, text, digit⟩ := ofNat_append_eq_cons n rest
      rw [Decimal.ofInt, text]
      exact starts_of_digit digit cs
    | negSucc n => exact ⟨'-', _, rfl, by decide, by decide⟩
  | str s => exact ⟨'"', _, by rw [write, writeString, List.cons_append], by decide, by decide⟩
  | arr _ => exact ⟨'[', _, by rw [write, List.cons_append], by decide, by decide⟩
  | obj _ => exact ⟨'{', _, by rw [write, List.cons_append], by decide, by decide⟩

/-- The reader takes the text of the value, if it has two units of fuel for each character. -/
def Reads (v : Json) : Prop :=
  ∀ {fuel : Nat} {rest : List Char}, 2 * v.write.length ≤ fuel → EndsNumber rest →
    value fuel (v.write ++ rest) = some (v, rest)

/-- It is enough to read with some fuel. -/
theorem Plain.reads_of_succ {v : Json} (plain : v.Plain)
    (read : ∀ {fuel : Nat} {rest : List Char}, 2 * v.write.length ≤ fuel + 1 → EndsNumber rest →
      value (fuel + 1) (v.write ++ rest) = some (v, rest)) : Reads v := by
  intro fuel rest enough ends
  obtain ⟨c, cs, text, -⟩ := plain.starts []
  have length := congrArg List.length text
  simp only [List.append_nil, List.length_cons] at length
  obtain _ | fuel := fuel
  · omega
  · exact read enough ends

theorem value_number {c : Char} (start : Decimal.isDigit c = true ∨ c = '-') (fuel : Nat)
    (cs : List Char) : value (fuel + 1) (c :: cs) = number (c :: cs) := by
  have solid : isSpace c = false := by
    rcases start with digit | rfl
    · obtain ⟨d, ds, same, solid, -⟩ := starts_of_digit digit cs
      exact (List.cons.inj same).1 ▸ solid
    · decide
  rw [value, skipSpace_cons solid]
  split
  case h_7 => rfl
  all_goals
    rename_i same
    obtain ⟨rfl, -⟩ := List.cons.inj same
    exact absurd start (by decide)

theorem value_arr {cs : List Char} (some : ∀ rest, skipSpace cs ≠ ']' :: rest) (fuel : Nat) :
    value (fuel + 1) ('[' :: cs) = (items fuel cs).map fun (vs, rest) => (arr vs, rest) := by
  simp only [value, skipSpace_cons (show isSpace '[' = false by decide)]

theorem value_obj {cs : List Char} (some : ∀ rest, skipSpace cs ≠ '}' :: rest) (fuel : Nat) :
    value (fuel + 1) ('{' :: cs) = (members fuel cs).map fun (ms, after) =>
      ((ms.map obj).getD (verbatim cs after), after) := by
  simp only [value, skipSpace_cons (show isSpace '{' = false by decide)]

theorem writeItems_singleton (v : Json) : writeItems [v] = v.write ++ [']'] := by
  rw [writeItems]

theorem writeItems_cons (v w : Json) (ws : List Json) :
    writeItems (v :: w :: ws) = v.write ++ ',' :: writeItems (w :: ws) := by
  rw [writeItems]
  simp

theorem writeMembers_singleton (name : String) (v : Json) :
    writeMembers [(name, v)] = writeString name ++ ':' :: (v.write ++ ['}']) := by
  rw [writeMembers]

theorem writeMembers_cons (name : String) (v : Json) (m : String × Json)
    (ms : List (String × Json)) :
    writeMembers ((name, v) :: m :: ms) =
      writeString name ++ ':' :: (v.write ++ ',' :: writeMembers (m :: ms)) := by
  rw [writeMembers]
  simp

/-- The items of an array are read back, with its closing bracket. -/
theorem items_write {vs : List Json} (some : vs ≠ []) (reads : ∀ v ∈ vs, Reads v) {fuel : Nat}
    {rest : List Char} (enough : 2 * (writeItems vs).length ≤ fuel) :
    items fuel (writeItems vs ++ rest) = Option.some (vs, rest) := by
  induction vs generalizing fuel with
  | nil => contradiction
  | cons v vs ih =>
    have read : Reads v := reads v List.mem_cons_self
    cases vs with
    | nil =>
      rw [writeItems_singleton] at enough ⊢
      simp only [List.length_append, List.length_singleton] at enough
      obtain _ | fuel := fuel
      · omega
      have ends : EndsNumber (']' :: rest) := .of_mark (by decide) rest
      rw [List.append_assoc, List.singleton_append, items, read (by omega) ends]
      simp only [skipSpace_cons (show isSpace ']' = false by decide)]
    | cons w ws =>
      have others : ∀ u ∈ w :: ws, Reads u :=
        fun u member => reads u (List.mem_cons_of_mem v member)
      rw [writeItems_cons] at enough ⊢
      simp only [List.length_append, List.length_cons] at enough
      obtain _ | fuel := fuel
      · omega
      have ends : EndsNumber (',' :: (writeItems (w :: ws) ++ rest)) := .of_mark (by decide) _
      rw [List.append_assoc, List.cons_append, items, read (by omega) ends]
      simp only [skipSpace_cons (show isSpace ',' = false by decide)]
      rw [ih (by simp) others (by omega), Option.map_some]

/-- The members of an object are read back in their order, with its closing brace. -/
theorem members_write {ms : List (String × Json)} (some : ms ≠ []) (reads : ∀ m ∈ ms, Reads m.2)
    {fuel : Nat} {rest : List Char} (enough : 2 * (writeMembers ms).length ≤ fuel) :
    members fuel (writeMembers ms ++ rest) = Option.some (Option.some ms, rest) := by
  induction ms generalizing fuel with
  | nil => contradiction
  | cons m ms ih =>
    obtain ⟨name, v⟩ := m
    have read : Reads v := reads (name, v) List.mem_cons_self
    have quoted : ∀ cs, skipSpace (writeString name ++ cs) = writeString name ++ cs :=
      fun cs => skipSpace_cons (by decide) _
    have colon : ∀ cs, skipSpace (':' :: cs) = ':' :: cs := skipSpace_cons (by decide)
    cases ms with
    | nil =>
      rw [writeMembers_singleton] at enough ⊢
      simp only [List.length_append, List.length_cons] at enough
      obtain _ | fuel := fuel
      · omega
      have ends : EndsNumber ('}' :: rest) := .of_mark (by decide) rest
      rw [List.append_assoc, List.cons_append, List.append_assoc, members, quoted,
        key_writeString]
      simp only [colon]
      rw [List.singleton_append, read (by omega) ends]
      simp only [skipSpace_cons (show isSpace '}' = false by decide), Members.push]
    | cons w ws =>
      have others : ∀ u ∈ w :: ws, Reads u.2 :=
        fun u member => reads u (List.mem_cons_of_mem (name, v) member)
      rw [writeMembers_cons] at enough ⊢
      simp only [List.length_append, List.length_cons] at enough
      obtain _ | fuel := fuel
      · omega
      have ends : EndsNumber (',' :: (writeMembers (w :: ws) ++ rest)) := .of_mark (by decide) _
      rw [List.append_assoc, List.cons_append, List.append_assoc, members, quoted,
        key_writeString]
      simp only [colon]
      rw [List.cons_append, read (by omega) ends]
      simp only [skipSpace_cons (show isSpace ',' = false by decide)]
      rw [ih (by simp) others (by omega)]
      rfl

/-- The members start with the quote of the first key. -/
theorem writeMembers_eq_cons (m : String × Json) (ms : List (String × Json)) :
    ∃ rest, writeMembers (m :: ms) = '"' :: rest := by
  obtain ⟨name, v⟩ := m
  cases ms with
  | nil => exact ⟨_, writeMembers_singleton name v⟩
  | cons w ws => exact ⟨_, writeMembers_cons name v w ws⟩

theorem starts_writeItems {v : Json} (plain : v.Plain) (vs : List Json) (rest : List Char) :
    Starts (writeItems (v :: vs) ++ rest) := by
  cases vs with
  | nil =>
    rw [writeItems_singleton, List.append_assoc]
    exact plain.starts _
  | cons w ws =>
    rw [writeItems_cons, List.append_assoc]
    exact plain.starts _

theorem reads_arr {vs : List Json} (plain : ∀ v ∈ vs, Plain v) (reads : ∀ v ∈ vs, Reads v) :
    Reads (arr vs) := by
  refine (Plain.arr plain).reads_of_succ fun {fuel rest} enough _ => ?_
  rw [write, List.length_cons] at enough
  rw [write, List.cons_append]
  cases vs with
  | nil =>
    rw [writeItems]
    rfl
  | cons v vs =>
    obtain ⟨c, cs, text, solid, other⟩ := starts_writeItems (plain v List.mem_cons_self) vs rest
    rw [value_arr, items_write (by simp) reads (by omega), Option.map_some]
    intro after same
    rw [text, skipSpace_cons solid] at same
    exact other (List.cons.inj same).1

theorem reads_obj {ms : List (String × Json)} (plain : ∀ m ∈ ms, Plain m.2)
    (reads : ∀ m ∈ ms, Reads m.2) : Reads (obj ms) := by
  refine (Plain.obj plain).reads_of_succ fun {fuel rest} enough _ => ?_
  rw [write, List.length_cons] at enough
  rw [write, List.cons_append]
  cases ms with
  | nil =>
    rw [writeMembers]
    rfl
  | cons m ms =>
    obtain ⟨cs, text⟩ := writeMembers_eq_cons m ms
    rw [value_obj, members_write (by simp) reads (by omega)]
    · rfl
    intro after same
    rw [text, List.cons_append, skipSpace_cons (by decide)] at same
    exact absurd (List.cons.inj same).1 (by decide)

theorem reads_int (i : Int) : Reads (int i) := by
  refine (Plain.int i).reads_of_succ fun {fuel rest} _ ends => ?_
  have numeral := number_ofInt i ends
  rw [write]
  cases i with
  | ofNat n =>
    rw [Decimal.ofInt] at numeral ⊢
    obtain ⟨c, cs, text, digit⟩ := ofNat_append_eq_cons n rest
    rw [text] at numeral ⊢
    rw [value_number (Or.inl digit), numeral]
  | negSucc n =>
    rw [Decimal.ofInt, List.cons_append] at numeral ⊢
    rw [value_number (Or.inr rfl), numeral]

theorem reads_str (s : String) : Reads (str s) := by
  refine (Plain.str s).reads_of_succ fun {fuel rest} _ _ => ?_
  have text : (str s).write ++ rest = '"' :: (s.toList.flatMap writeChar ++ '"' :: rest) := by
    simp [write, writeString]
  rw [text, value, skipSpace_cons (by decide)]
  simp only [body_write, String.ofList_toList]

/-- A value is read back from its text, by induction on the value. -/
theorem Plain.reads {v : Json} (plain : v.Plain) : Reads v := by
  induction plain with
  | null => exact Plain.null.reads_of_succ fun _ _ => rfl
  | bool b => exact (Plain.bool b).reads_of_succ fun _ _ => by cases b <;> rfl
  | int i => exact reads_int i
  | str s => exact reads_str s
  | arr plain ih => exact reads_arr plain ih
  | obj plain ih => exact reads_obj plain ih

/-- The text of a value without raw parts is read back as the value. -/
theorem ofText?_text {v : Json} (plain : v.Plain) : ofText? v.text = some v := by
  have read : value (2 * v.write.length + 2) (v.write ++ []) = some (v, []) :=
    plain.reads (by omega) trivial
  rw [List.append_nil] at read
  rw [ofText?, text, String.toList_ofList, read?, read]
  rfl

end CouponSale.Json

/-!
Entries under keys. Writing replaces the entry of a key in its place, or adds it at the end; so
the keys keep the order in which they were first written.
-/
namespace CouponSale.Keyed

variable {α β : Type} [DecidableEq α]

def put (key : α) (value : β) : List (α × β) → List (α × β)
  | [] => [(key, value)]
  | (k, v) :: rest => if key = k then (key, value) :: rest else (k, v) :: put key value rest

def remove (key : α) (l : List (α × β)) : List (α × β) := l.filter (·.1 ≠ key)

theorem lookup_put (a b : α) (value : β) (l : List (α × β)) :
    (put a value l).lookup b = if b = a then some value else l.lookup b := by
  induction l with
  | nil =>
    by_cases h : b = a
    · subst h; simp [put]
    · have hb : (b == a) = false := by simp [h]
      simp [put, List.lookup_cons, hb, h]
  | cons head rest ih =>
    obtain ⟨c, t⟩ := head
    by_cases hac : a = c
    · subst hac
      by_cases h : b = a
      · subst h; simp [put]
      · have hb : (b == a) = false := by simp [h]
        simp [put, List.lookup_cons, hb, h]
    · simp only [put, if_neg hac, List.lookup_cons]
      by_cases hbc : b = c
      · subst hbc
        simp [Ne.symm hac]
      · have hb : (b == c) = false := by simp [hbc]
        simp only [hb, ih]

theorem lookup_remove (a b : α) (l : List (α × β)) :
    (remove a l).lookup b = if b = a then none else l.lookup b := by
  induction l with
  | nil => simp [remove]
  | cons head rest ih =>
    obtain ⟨c, t⟩ := head
    simp only [remove] at ih
    by_cases hca : c = a
    · subst hca
      by_cases h : b = c
      · subst h; simpa [remove] using ih
      · have hb : (b == c) = false := by simp [h]
        simpa [remove, List.lookup_cons, hb, h] using ih
    · by_cases hbc : b = c
      · subst hbc; simp [remove, hca]
      · have hb : (b == c) = false := by simp [hbc]
        simpa [remove, hca, List.lookup_cons, hb] using ih

end CouponSale.Keyed

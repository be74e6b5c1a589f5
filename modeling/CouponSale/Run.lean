/-!
Runs of a labelled machine. A label names a move; a move leads to a state and reports something,
or is not possible. A run makes the moves of a list of labels and reports what they report, one
after the other. Whatever holds at the start and is kept by every move, holds at the end.
-/
namespace CouponSale

variable {S L N : Type}

/-- The state after some moves and everything they report; `none` when one of them is not
possible. -/
def run? (step? : S → L → Option (S × List N)) (s : S) : List L → Option (S × List N)
  | [] => some (s, [])
  | label :: labels =>
    match step? s label with
    | none => none
    | some (t, told) => (run? step? t labels).map fun (u, later) => (u, told ++ later)

/-- Some run leads from one state to another and reports just this. -/
def Leads (step? : S → L → Option (S × List N)) (s : S) (told : List N) (t : S) : Prop :=
  ∃ labels, run? step? s labels = some (t, told)

variable {step? : S → L → Option (S × List N)} {s t : S} {told : List N}

/-- A property of states and of what was reported up to them goes from move to move. -/
theorem run?_keeps {P : S → List N → Prop}
    (move : ∀ {s told label t more},
      P s told → step? s label = some (t, more) → P t (told ++ more))
    {labels : List L} {earlier : List N} (start : P s earlier)
    (run : run? step? s labels = some (t, told)) : P t (earlier ++ told) := by
  induction labels generalizing s earlier told with
  | nil =>
    obtain ⟨rfl, rfl⟩ : s = t ∧ [] = told := by simpa [run?] using run
    simpa using start
  | cons label labels ih =>
    cases first : step? s label with
    | none => simp [run?, first] at run
    | some moved =>
      obtain ⟨u, more⟩ := moved
      cases rest : run? step? u labels with
      | none => simp [run?, first, rest] at run
      | some ended =>
        obtain ⟨v, later⟩ := ended
        obtain ⟨rfl, rfl⟩ : v = t ∧ more ++ later = told := by
          simpa [run?, first, rest] using run
        simpa using ih (move start first) rest

/-- What holds of a start without reports and is kept by every move, holds wherever a run
leads. -/
theorem Leads.keeps {P : S → List N → Prop} (run : Leads step? s told t) (start : P s [])
    (move : ∀ {s told label t more},
      P s told → step? s label = some (t, more) → P t (told ++ more)) :
    P t told := by
  obtain ⟨labels, run⟩ := run
  simpa using run?_keeps move start run

end CouponSale

import CouponSale.Run

/-!
Runs one after the other, and runs of a part of a machine: what each move does to the part is a
run of the part.
-/
namespace CouponSale

variable {S L N : Type} {step? : S → L → Option (S × List N)} {s t u : S} {told more : List N}

theorem Leads.refl (s : S) : Leads step? s [] s := ⟨[], rfl⟩

theorem Leads.next {label : L} (step : step? s label = some (t, told)) : Leads step? s told t :=
  ⟨[label], by simp [run?, step]⟩

theorem run?_append (s : S) (earlier later : List L) :
    run? step? s (earlier ++ later) = (run? step? s earlier).bind fun (t, told) =>
      (run? step? t later).map fun (u, more) => (u, told ++ more) := by
  induction earlier generalizing s with
  | nil => simp [run?]
  | cons label earlier ih =>
    cases first : step? s label with
    | none => simp [run?, first]
    | some moved =>
      obtain ⟨t, told⟩ := moved
      simp only [List.cons_append, run?, first, ih, Option.map_bind, Option.bind_map,
        Function.comp_def, Option.map_map, List.append_assoc]

theorem Leads.trans (first : Leads step? s told t) (second : Leads step? t more u) :
    Leads step? s (told ++ more) u := by
  obtain ⟨earlier, first⟩ := first
  obtain ⟨later, second⟩ := second
  exact ⟨earlier ++ later, by simp [run?_append, first, second]⟩

/-- A part of a machine makes a run when each move makes one of it. -/
theorem Leads.part {S' L' M : Type} {small? : S' → L' → Option (S' × List M)} (view : S → S')
    (heard : List N → List M) (silent : heard [] = [])
    (joins : ∀ earlier later, heard (earlier ++ later) = heard earlier ++ heard later)
    (move : ∀ {s t label told}, step? s label = some (t, told) →
      Leads small? (view s) (heard told) (view t))
    (run : Leads step? s told t) : Leads small? (view s) (heard told) (view t) := by
  apply run.keeps (P := fun t told => Leads small? (view s) (heard told) (view t))
  · rw [silent]
    exact .refl _
  · intro t told label u more sofar step
    rw [joins]
    exact sofar.trans (move step)

/-- A machine whose moves keep a property and come nearer to a rest does not run for ever. -/
theorem rests_of_nearer {P : S → Prop} {nearer : S → S → Prop} (ends : WellFounded nearer)
    (move : ∀ {s label t told}, P s → step? s label = some (t, told) → P t ∧ nearer t s)
    (run : Nat → S) (start : P (run 0)) :
    ∃ n, ∀ label told, step? (run n) label ≠ some (run (n + 1), told) := by
  generalize first : run 0 = s at start
  induction s using ends.induction generalizing run with
  | _ s ih =>
    by_cases goes : ∃ label told, step? (run 0) label = some (run 1, told)
    · obtain ⟨label, told, step⟩ := goes
      rw [first] at step
      obtain ⟨kept, nearer⟩ := move start step
      obtain ⟨n, rests⟩ := ih (run 1) nearer (fun n => run (n + 1)) rfl kept
      exact ⟨n + 1, rests⟩
    · exact ⟨0, fun label told step => goes ⟨label, told, step⟩⟩

end CouponSale

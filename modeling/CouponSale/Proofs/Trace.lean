import CouponSale.Proofs.Runs
import Mathlib.Data.List.Induction

/-!
A run with everything about it: where each move began, what it was, where it led and what it
reported. The reports of a run say what happened; a trace also says which move did it, so that the
moves of one actor can be picked out of an interleaving.
-/
namespace CouponSale

structure Transition (S L N : Type) where
  before : S
  label : L
  after : S
  told : List N

variable {S L N : Type} {step? : S → L → Option (S × List N)} {s t u : S} {told : List N}

/-- The moves of a run in their order, and where it led. -/
inductive Trace (step? : S → L → Option (S × List N)) (s : S) :
    List (Transition S L N) → S → Prop where
  | start : Trace step? s [] s
  | move {moves : List (Transition S L N)} {t u : S} {label : L} {told : List N}
      (sofar : Trace step? s moves t) (step : step? t label = some (u, told)) :
      Trace step? s (moves ++ [⟨t, label, u, told⟩]) u

/-- Everything that some moves report. -/
def heard (moves : List (Transition S L N)) : List N := moves.flatMap Transition.told

theorem heard_append (earlier later : List (Transition S L N)) :
    heard (earlier ++ later) = heard earlier ++ heard later := List.flatMap_append

theorem heard_singleton (move : Transition S L N) : heard [move] = move.told := by
  simp [heard]

theorem mem_heard_append {moves : List (Transition S L N)} {move : Transition S L N} {note : N} :
    note ∈ heard (moves ++ [move]) ↔ note ∈ heard moves ∨ note ∈ move.told := by
  rw [heard_append, heard_singleton, List.mem_append]

namespace Trace

variable {moves more : List (Transition S L N)}

theorem leads (trace : Trace step? s moves t) : Leads step? s (heard moves) t := by
  induction trace with
  | start => exact .refl s
  | move sofar step ih =>
    rw [heard_append, heard_singleton]
    exact ih.trans (.next step)

theorem trans (first : Trace step? s moves t) (second : Trace step? t more u) :
    Trace step? s (moves ++ more) u := by
  induction second with
  | start => simpa using first
  | move sofar step ih =>
    rw [← List.append_assoc]
    exact .move ih step

theorem of_nil (trace : Trace step? s [] t) : t = s := by
  generalize same : ([] : List (Transition S L N)) = all at trace
  cases trace with
  | start => rfl
  | move sofar step => simp at same

theorem last {move : Transition S L N} (trace : Trace step? s (moves ++ [move]) t) :
    Trace step? s moves move.before ∧ step? move.before move.label = some (t, move.told) ∧
      t = move.after := by
  generalize same : moves ++ [move] = all at trace
  cases trace with
  | start => simp at same
  | move sofar step =>
    obtain ⟨rfl, single⟩ := List.append_inj' same rfl
    cases single
    exact ⟨sofar, step, rfl⟩

theorem split {earlier later : List (Transition S L N)}
    (trace : Trace step? s (earlier ++ later) u) :
    ∃ t, Trace step? s earlier t ∧ Trace step? t later u := by
  induction later using List.reverseRecOn generalizing u with
  | nil => exact ⟨u, by simpa using trace, .start⟩
  | append_singleton later move ih =>
    rw [← List.append_assoc] at trace
    obtain ⟨sofar, step, ends⟩ := trace.last
    obtain ⟨t, first, second⟩ := ih sofar
    refine ⟨t, first, ?_⟩
    have ended := Trace.move second step
    rw [ends] at ended ⊢
    exact ended

/-- A run up to one of its moves, that move, and the run after it. -/
theorem at_move {earlier later : List (Transition S L N)} {move : Transition S L N}
    (trace : Trace step? s (earlier ++ move :: later) u) :
    Trace step? s earlier move.before ∧
      step? move.before move.label = some (move.after, move.told) ∧
      Trace step? move.after later u := by
  rw [List.append_cons] at trace
  obtain ⟨t, first, rest⟩ := trace.split
  obtain ⟨sofar, step, rfl⟩ := first.last
  exact ⟨sofar, step, rest⟩

/-- The first move of a run, and the run after it. -/
theorem uncons {move : Transition S L N} {later : List (Transition S L N)}
    (trace : Trace step? s (move :: later) u) :
    move.before = s ∧ step? move.before move.label = some (move.after, move.told) ∧
      Trace step? move.after later u := by
  obtain ⟨first, step, rest⟩ := @at_move _ _ _ _ _ _ [] later move trace
  exact ⟨first.of_nil, step, rest⟩

theorem cons {label : L} {later : List (Transition S L N)} {v : S}
    (step : step? s label = some (v, told)) (rest : Trace step? v later u) :
    Trace step? s (⟨s, label, v, told⟩ :: later) u :=
  (Trace.move .start step).trans rest

/-- A run that can be computed has a trace. -/
theorem of_run? {labels : List L} (run : run? step? s labels = some (t, told)) :
    ∃ moves, Trace step? s moves t ∧ moves.map Transition.label = labels ∧ heard moves = told := by
  induction labels generalizing s told with
  | nil =>
    obtain ⟨rfl, rfl⟩ : s = t ∧ [] = told := by simpa [run?] using run
    exact ⟨[], .start, rfl, rfl⟩
  | cons label labels ih =>
    cases first : step? s label with
    | none => simp [run?, first] at run
    | some moved =>
      obtain ⟨v, early⟩ := moved
      cases rest : run? step? v labels with
      | none => simp [run?, first, rest] at run
      | some ended =>
        obtain ⟨w, later⟩ := ended
        obtain ⟨rfl, rfl⟩ : w = t ∧ early ++ later = told := by
          simpa [run?, first, rest] using run
        obtain ⟨moves, trace, labelled, reported⟩ := ih rest
        have opens : Trace step? s [⟨s, label, v, early⟩] v := .move .start first
        refine ⟨_, opens.trans trace, ?_, ?_⟩
        · simp [labelled]
        · rw [heard_append, heard_singleton, reported]

end Trace

/-- The moves of a list of labels and where they lead; `none` when one of them is not possible. -/
def trace? (step? : S → L → Option (S × List N)) (s : S) :
    List L → Option (List (Transition S L N) × S)
  | [] => some ([], s)
  | label :: labels =>
    match step? s label with
    | none => none
    | some (t, told) =>
      (trace? step? t labels).map fun (moves, u) => (⟨s, label, t, told⟩ :: moves, u)

theorem Trace.of_trace? {labels : List L} {moves : List (Transition S L N)}
    (traced : trace? step? s labels = some (moves, t)) : Trace step? s moves t := by
  induction labels generalizing s moves with
  | nil =>
    obtain ⟨rfl, rfl⟩ : [] = moves ∧ s = t := by simpa [trace?] using traced
    exact .start
  | cons label labels ih =>
    cases first : step? s label with
    | none => simp [trace?, first] at traced
    | some moved =>
      obtain ⟨v, told⟩ := moved
      simp only [trace?, first, Option.map_eq_some_iff, Prod.mk.injEq, Prod.exists] at traced
      obtain ⟨later, _, rest, rfl, rfl⟩ := traced
      have opens : Trace step? s [⟨s, label, v, told⟩] v := .move .start first
      exact opens.trans (ih rest)

end CouponSale

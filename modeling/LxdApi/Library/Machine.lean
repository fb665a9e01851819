import Mathlib.Data.List.Induction

set_option autoImplicit false

/- Deterministic machines seen from outside. A step takes an input, answers it and
   moves to the next state; the record of a run keeps for each step the state it
   was taken in, the input and the answer. -/
namespace Machine

structure Entry (S I O : Type) where
  before : S
  input : I
  output : O

variable {S I O : Type} (step : S → I → O × S)

def entry (s : S) (i : I) : Entry S I O := ⟨s, i, (step s i).1⟩

def final (s : S) : List I → S
  | [] => s
  | i :: rest => final (step s i).2 rest

def record (s : S) : List I → List (Entry S I O)
  | [] => []
  | i :: rest => entry step s i :: record (step s i).2 rest

@[simp] theorem final_nil (s : S) : final step s [] = s := rfl

@[simp] theorem record_nil (s : S) : record step s [] = [] := rfl

theorem final_snoc (s : S) (inputs : List I) (i : I) :
    final step s (inputs ++ [i]) = (step (final step s inputs) i).2 := by
  induction inputs generalizing s with
  | nil => rfl
  | cons first rest ih => exact ih (step s first).2

theorem record_snoc (s : S) (inputs : List I) (i : I) :
    record step s (inputs ++ [i]) =
      record step s inputs ++ [entry step (final step s inputs) i] := by
  induction inputs generalizing s with
  | nil => rfl
  | cons first rest ih =>
    simp only [List.cons_append, record, final, ih]

theorem final_comap {J : Type} (named : J → I) (s : S) (names : List J) :
    final (fun s j => step s (named j)) s names = final step s (names.map named) := by
  induction names generalizing s with
  | nil => rfl
  | cons j rest ih => exact ih _

theorem outputs_comap {J : Type} (named : J → I) (s : S) (names : List J) :
    (record (fun s j => step s (named j)) s names).map Entry.output =
      (record step s (names.map named)).map Entry.output := by
  induction names generalizing s with
  | nil => rfl
  | cons j rest ih => exact congrArg (List.cons _) (ih _)

/-- What every step keeps, given what the record says so far, holds of every run. -/
theorem history_induction {holds : List (Entry S I O) → S → Prop} {start : S}
    (first : holds [] start)
    (next : ∀ past s i, holds past s → holds (past ++ [entry step s i]) (step s i).2)
    (inputs : List I) : holds (record step start inputs) (final step start inputs) := by
  induction inputs using List.reverseRecOn with
  | nil => exact first
  | append_singleton inputs i ih =>
    rw [record_snoc, final_snoc]
    exact next _ _ i ih

/-- Two machines in lockstep: if their steps keep them related and look alike, so do their
    runs. -/
theorem lockstep {S' I' O' V : Type} {step' : S' → I' → O' × S'} {view : O → V} {view' : O' → V}
    {related : S → S' → Prop} {asked : I → I' → Prop}
    (next : ∀ s s' i i', related s s' → asked i i' →
      view (step s i).1 = view' (step' s' i').1 ∧ related (step s i).2 (step' s' i').2)
    {s : S} {s' : S'} (start : related s s') {inputs : List I} {inputs' : List I'}
    (same : List.Forall₂ asked inputs inputs') :
    (record step s inputs).map (fun e => view e.output) =
        (record step' s' inputs').map (fun e => view' e.output) ∧
      related (final step s inputs) (final step' s' inputs') := by
  induction same generalizing s s' with
  | nil => exact ⟨rfl, start⟩
  | cons first _ ih =>
    obtain ⟨alike, kept⟩ := next s s' _ _ start first
    obtain ⟨rest, reached⟩ := ih kept
    exact ⟨congrArg₂ List.cons alike rest, reached⟩

theorem step_of_mem_record {start : S} {inputs : List I} {e : Entry S I O}
    (member : e ∈ record step start inputs) : ∃ s i, e = entry step s i := by
  induction inputs generalizing start with
  | nil => cases member
  | cons i rest ih =>
    rcases List.mem_cons.mp member with first | later
    · exact ⟨start, i, first⟩
    · exact ih later

section Moves
variable (move : S → I → S)

def Throughout (holds : S → Prop) : S → List I → Prop
  | s, [] => holds s
  | s, i :: rest => holds s ∧ Throughout holds (move s i) rest

def AtEach (holds : S → I → Prop) : S → List I → Prop
  | _, [] => True
  | s, i :: rest => holds s i ∧ AtEach holds (move s i) rest

variable {move}

theorem atEach_congr_of_invariant {invariant : S → Prop} {holds holds' : S → I → Prop}
    (keeps : ∀ s i, invariant s → invariant (move s i))
    (same : ∀ s i, invariant s → (holds s i ↔ holds' s i)) {s : S} (start : invariant s)
    (inputs : List I) : AtEach move holds s inputs ↔ AtEach move holds' s inputs := by
  induction inputs generalizing s with
  | nil => exact Iff.rfl
  | cons i rest ih => exact and_congr (same s i start) (ih (keeps s i start))

theorem atEach_congr {holds holds' : S → I → Prop} (same : ∀ s i, holds s i ↔ holds' s i) (s : S)
    (inputs : List I) : AtEach move holds s inputs ↔ AtEach move holds' s inputs :=
  have keeps : ∀ s i, (fun _ : S => True) s → (fun _ : S => True) (move s i) := by
    intro s i kept
    exact kept
  atEach_congr_of_invariant keeps (fun s i _ => same s i) True.intro inputs

/-- Where an invariant holds, a property that each step keeps exactly if it is of some
    kind holds throughout the runs whose steps are of that kind, and no others. -/
theorem throughout_iff {invariant holds : S → Prop} {fine : S → I → Prop}
    (keeps : ∀ s i, invariant s → invariant (move s i))
    (step : ∀ s i, invariant s → holds s → (holds (move s i) ↔ fine s i)) {s : S}
    (start : invariant s) (first : holds s) (inputs : List I) :
    Throughout move holds s inputs ↔ AtEach move fine s inputs := by
  induction inputs generalizing s with
  | nil => exact iff_of_true first trivial
  | cons i rest ih =>
    have fineHere := step s i start first
    constructor
    · intro all
      have next : holds (move s i) := by
        cases rest with
        | nil => exact all.2
        | cons _ _ => exact all.2.1
      exact ⟨fineHere.mp next, (ih (keeps s i start) next).mp all.2⟩
    · intro each
      have next := fineHere.mpr each.1
      exact ⟨first, (ih (keeps s i start) next).mpr each.2⟩

end Moves

end Machine

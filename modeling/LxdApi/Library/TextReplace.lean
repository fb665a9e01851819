import Mathlib.Data.List.Infix
import Mathlib.Tactic.Common

set_option autoImplicit false

/- Replacing every occurrence of one text by another, from the left and without
   overlaps, as `str.replace` does. Texts are lists over any alphabet. -/
namespace TextReplace
variable {α : Type} [DecidableEq α]

/-- After an occurrence has been replaced, the rest of it is skipped. -/
def replaceFrom (old new : List α) : Nat → List α → List α
  | _, [] => []
  | skip + 1, _ :: rest => replaceFrom old new skip rest
  | 0, c :: rest =>
      if old <+: c :: rest then new ++ replaceFrom old new (old.length - 1) rest
      else c :: replaceFrom old new 0 rest

def replace (old new text : List α) : List α := replaceFrom old new 0 text

variable {old new : List α}

theorem replaceFrom_skip (skip : Nat) (text : List α) :
    replaceFrom old new skip text = replace old new (text.drop skip) := by
  induction skip generalizing text with
  | zero => rfl
  | succ skip ih =>
    cases text with
    | nil => rfl
    | cons c rest => exact ih rest

@[simp] theorem replace_nil : replace old new [] = [] := rfl

theorem replace_miss {c : α} {rest : List α} (miss : ¬ old <+: c :: rest) :
    replace old new (c :: rest) = c :: replace old new rest := by
  rw [replace, replaceFrom, if_neg miss]
  rfl

theorem replace_hit (some : old ≠ []) (rest : List α) :
    replace old new (old ++ rest) = new ++ replace old new rest := by
  obtain ⟨c, tail, rfl⟩ := List.exists_cons_of_ne_nil some
  have hit : c :: tail <+: c :: (tail ++ rest) := List.prefix_append (c :: tail) rest
  rw [List.cons_append, replace, replaceFrom, if_pos hit, replaceFrom_skip]
  simp

theorem replace_induction {holds : List α → Prop} (some : old ≠ []) (nil : holds [])
    (hit : ∀ rest, holds rest → holds (old ++ rest))
    (miss : ∀ c rest, ¬ old <+: c :: rest → holds rest → holds (c :: rest)) (text : List α) :
    holds text := by
  induction len : text.length using Nat.strongRecOn generalizing text with
  | ind n ih =>
    cases text with
    | nil => exact nil
    | cons c rest =>
      by_cases found : old <+: c :: rest
      · obtain ⟨tail, shape⟩ := found
        rw [← shape] at len ⊢
        have positive := List.length_pos_iff.mpr some
        refine hit tail (ih tail.length ?_ tail rfl)
        simp only [List.length_append] at len
        omega
      · refine miss c rest found (ih rest.length ?_ rest rfl)
        simp only [List.length_cons] at len
        omega

theorem replace_length_le (some : old ≠ []) (shorter : new.length ≤ old.length) (text : List α) :
    (replace old new text).length ≤ text.length := by
  induction text using replace_induction some with
  | nil => simp
  | hit rest ih =>
    rw [replace_hit some, List.length_append, List.length_append]
    omega
  | miss c rest miss ih =>
    rw [replace_miss miss, List.length_cons, List.length_cons]
    omega

theorem replace_absent (some : old ≠ []) {text : List α} (absent : ¬ old <:+: text) :
    replace old new text = text := by
  induction text using replace_induction some with
  | nil => rfl
  | hit rest ih => exact absurd ⟨[], rest, rfl⟩ absent
  | miss c rest miss ih =>
    rw [replace_miss miss, ih fun found => absent (List.infix_cons_iff.mpr (Or.inr found))]

theorem replace_length_lt (some : old ≠ []) (shorter : new.length < old.length) {text : List α}
    (found : old <:+: text) : (replace old new text).length < text.length := by
  induction text using replace_induction some with
  | nil => exact absurd (List.infix_nil.mp found) some
  | hit rest ih =>
    have bound := replace_length_le some (Nat.le_of_lt shorter) rest
    rw [replace_hit some, List.length_append, List.length_append]
    omega
  | miss c rest miss ih =>
    have later := ih ((List.infix_cons_iff.mp found).resolve_left miss)
    rw [replace_miss miss, List.length_cons, List.length_cons]
    omega

theorem count_replace (some : old ≠ []) {x : α} (same : old.count x = new.count x)
    (text : List α) : (replace old new text).count x = text.count x := by
  induction text using replace_induction some with
  | nil => rfl
  | hit rest ih => rw [replace_hit some, List.count_append, List.count_append, ih, same]
  | miss c rest miss ih => rw [replace_miss miss, List.count_cons, List.count_cons, ih]

omit [DecidableEq α] in
theorem prefix_of_separator {c : α} (absent : c ∉ old) {a t : List α}
    (found : old <+: a ++ c :: t) : old <+: a := by
  rcases List.prefix_or_prefix_of_prefix found (List.prefix_append a (c :: t)) with inside | beyond
  · exact inside
  · obtain ⟨more, shape⟩ := beyond
    cases more with
    | nil =>
      rw [List.append_nil] at shape
      rw [shape]
    | cons d rest =>
      rw [← shape, List.prefix_append_right_inj, List.cons_prefix_cons] at found
      exact absurd (by rw [← shape, ← found.1]; simp) absent

theorem replace_separator (some : old ≠ []) {c : α} (absent : c ∉ old) (a t : List α) :
    replace old new (a ++ c :: t) = replace old new a ++ c :: replace old new t := by
  induction a using replace_induction some with
  | nil =>
    rw [List.nil_append, replace_nil, List.nil_append]
    apply replace_miss
    intro found
    exact some (List.prefix_nil.mp (prefix_of_separator (a := []) absent found))
  | hit rest ih =>
    rw [List.append_assoc, replace_hit some, replace_hit some, ih, List.append_assoc]
  | miss d rest miss ih =>
    have still : ¬ old <+: d :: (rest ++ c :: t) := by
      intro found
      exact miss (prefix_of_separator absent found)
    rw [List.cons_append, replace_miss still, replace_miss miss, ih, List.cons_append]

omit [DecidableEq α] in
theorem prefix_separator_iff {c : α} {a s : List α} (left : c ∉ a) (right : c ∉ s)
    (y t : List α) : a ++ c :: y <+: s ++ c :: t ↔ a = s ∧ y <+: t := by
  induction a generalizing s with
  | nil =>
    cases s with
    | nil => simp
    | cons d s =>
      simp only [List.mem_cons, not_or] at right
      simp [List.cons_prefix_cons, right.1]
  | cons d a ih =>
    simp only [List.mem_cons, not_or] at left
    cases s with
    | nil => simp [List.cons_prefix_cons, Ne.symm left.1]
    | cons e s =>
      simp only [List.mem_cons, not_or] at right
      simp only [List.cons_append, List.cons_prefix_cons, ih left.2 right.2, List.cons.injEq]
      exact and_assoc.symm

omit [DecidableEq α] in
theorem separator_inj {c : α} {a s : List α} (left : c ∉ a) (right : c ∉ s) {y t : List α}
    (same : a ++ c :: y = s ++ c :: t) : a = s ∧ y = t := by
  have here : a ++ c :: y <+: s ++ c :: t := by rw [same]
  obtain ⟨first, _⟩ := (prefix_separator_iff left right y t).mp here
  subst first
  exact ⟨rfl, (List.cons.inj (List.append_cancel_left same)).2⟩

section Heads
variable {first : α} {more : List α}

theorem replace_free {a : List α} (free : first ∉ a) (rest : List α) :
    replace (first :: more) new (a ++ rest) = a ++ replace (first :: more) new rest := by
  induction a with
  | nil => rfl
  | cons c tail ih =>
    simp only [List.mem_cons, not_or] at free
    have miss : ¬ first :: more <+: c :: (tail ++ rest) := by
      intro found
      exact free.1 (List.cons_prefix_cons.mp found).1
    rw [List.cons_append, replace_miss miss, ih free.2, List.cons_append]

theorem prefix_replace_iff {other : α} {less : List α} {p : List α} (old : first ∉ p)
    (new : other ∉ p) (text : List α) :
    p <+: replace (first :: more) (other :: less) text ↔ p <+: text := by
  induction p generalizing text with
  | nil => simp
  | cons c p ih =>
    simp only [List.mem_cons, not_or] at old new
    cases text with
    | nil => simp
    | cons d rest =>
      by_cases hit : first :: more <+: d :: rest
      · obtain ⟨tail, shape⟩ := hit
        rw [← shape, replace_hit (List.cons_ne_nil _ _)]
        simp [List.cons_prefix_cons, Ne.symm old.1, Ne.symm new.1]
      · rw [replace_miss hit, List.cons_prefix_cons, List.cons_prefix_cons, ih old.2 new.2]

end Heads
end TextReplace

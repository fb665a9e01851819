import Mathlib.Data.List.Induction
import Mathlib.Logic.Function.Basic

set_option autoImplicit false

/- Writers that share one stream. Each has a state of its own and appends at every one of
   its steps what that state makes it write; the schedule says whose step is next. -/
namespace Writers
variable {ι S A : Type} (next : S → List A × S)

def alone (s : S) : Nat → List A
  | 0 => []
  | n + 1 => (next s).1 ++ alone (next s).2 n

def stream [DecidableEq ι] (states : ι → S) : List ι → List (ι × A)
  | [] => []
  | i :: rest =>
    (next (states i)).1.map (i, ·) ++
      stream (Function.update states i (next (states i)).2) rest

def own [DecidableEq ι] (i : ι) (entries : List (ι × A)) : List A :=
  (entries.filter (·.1 = i)).map (·.2)

variable [DecidableEq ι]

@[simp] theorem own_append (i : ι) (entries more : List (ι × A)) :
    own i (entries ++ more) = own i entries ++ own i more := by
  simp only [own, List.filter_append, List.map_append]

theorem own_same (i : ι) (written : List A) : own i (written.map (i, ·)) = written := by
  induction written with
  | nil => rfl
  | cons a rest ih =>
    simp only [own, List.map_cons, List.filter_cons, decide_true, if_true] at ih ⊢
    rw [ih]

theorem own_other {i j : ι} (other : j ≠ i) (written : List A) :
    own i (written.map (j, ·)) = [] := by
  induction written with
  | nil => rfl
  | cons a rest ih =>
    simp only [own, List.map_cons, List.filter_cons, decide_eq_true_eq, other, if_false] at ih ⊢
    exact ih

theorem own_stream (states : ι → S) (schedule : List ι) (i : ι) :
    own i (stream next states schedule) = alone next (states i) (schedule.count i) := by
  induction schedule generalizing states with
  | nil => rfl
  | cons j rest ih =>
    rw [stream, own_append, ih]
    by_cases same : j = i
    · subst same
      rw [own_same, Function.update_self, List.count_cons_self, alone]
    · rw [own_other same, Function.update_of_ne (Ne.symm same), List.nil_append,
        List.count_cons_of_ne same]

theorem mem_alone_of_mem_stream {states : ι → S} {schedule : List ι} {i : ι} {a : A}
    (inside : (i, a) ∈ stream next states schedule) :
    a ∈ alone next (states i) (schedule.count i) := by
  rw [← own_stream]
  exact List.mem_map.mpr ⟨(i, a), List.mem_filter.mpr ⟨inside, decide_eq_true rfl⟩, rfl⟩

theorem filter_stream {states : ι → S} {schedule : List ι} {i : ι} {looks : A → Bool}
    (only : ∀ j a, a ∈ alone next (states j) (schedule.count j) → looks a = true → j = i) :
    ((stream next states schedule).map (·.2)).filter looks =
      (alone next (states i) (schedule.count i)).filter looks := by
  rw [← own_stream, own, List.filter_map, List.filter_map, List.filter_filter]
  refine congrArg _ (List.filter_congr ?_)
  intro entry inside
  obtain ⟨j, a⟩ := entry
  have meant := only j a (mem_alone_of_mem_stream next inside)
  cases shown : looks a with
  | false => simp only [Function.comp_apply, shown, Bool.false_and]
  | true => simp only [Function.comp_apply, shown, meant shown, decide_true, Bool.true_and]

end Writers

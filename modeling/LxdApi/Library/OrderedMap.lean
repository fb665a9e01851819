import Mathlib.Logic.Function.Basic
import Mathlib.Data.List.Basic

set_option autoImplicit false

/- Maps written as lists of entries in insertion order. Overwriting a key keeps
   its position, a new key goes to the end. What a map stands for is the partial
   function of its first entries, so two maps that differ in order only denote
   the same function. -/
namespace OrderedMap
variable {K V : Type} [DecidableEq K]

def get? (m : List (K × V)) (k : K) : Option V := m.lookup k

def set (m : List (K × V)) (k : K) (v : V) : List (K × V) :=
  match m with
  | [] => [(k, v)]
  | (a, w) :: rest => if a = k then (k, v) :: rest else (a, w) :: set rest k v

def erase (m : List (K × V)) (k : K) : List (K × V) :=
  match m with
  | [] => []
  | (a, w) :: rest => if a = k then erase rest k else (a, w) :: erase rest k

/-- Set every entry of `changes`, from left to right. -/
def update (m changes : List (K × V)) : List (K × V) :=
  changes.foldl (fun m entry => set m entry.1 entry.2) m

/-- Lay the entries of `changes` over `m`; keys without an entry in `changes` are kept. -/
def merge (m changes : List (K × V)) : List (K × V) :=
  changes.foldr (fun entry m => set m entry.1 entry.2) m

@[simp] theorem get?_nil (k : K) : get? ([] : List (K × V)) k = none := rfl

@[simp] theorem get?_cons (a : K) (w : V) (m : List (K × V)) (k : K) :
    get? ((a, w) :: m) k = if a = k then some w else get? m k := by
  by_cases same : a = k
  · subst a; simp [get?]
  · simp [get?, List.lookup_cons, same, beq_eq_false_iff_ne.mpr (Ne.symm same)]

@[simp] theorem get?_set (m : List (K × V)) (k : K) (v : V) (a : K) :
    get? (set m k v) a = if k = a then some v else get? m a := by
  induction m with
  | nil => simp [set]
  | cons entry m ih =>
    obtain ⟨b, w⟩ := entry
    by_cases same : b = k
    · subst b; by_cases h : k = a <;> simp [set, h]
    · by_cases h : b = a
      · subst b; simp [set, same, Ne.symm same]
      · simp [set, same, h, ih]

@[simp] theorem get?_erase (m : List (K × V)) (k a : K) :
    get? (erase m k) a = if k = a then none else get? m a := by
  induction m with
  | nil => simp [erase]
  | cons entry m ih =>
    obtain ⟨b, w⟩ := entry
    by_cases same : b = k
    · subst b
      by_cases h : k = a
      · subst a; simpa [erase] using ih
      · simp [erase, ih, h]
    · by_cases h : b = a
      · subst b; simp [erase, same, Ne.symm same]
      · simp [erase, same, h, ih]

@[simp] theorem set_nil (k : K) (v : V) : set [] k v = [(k, v)] := rfl

@[simp] theorem set_cons (a : K) (w : V) (m : List (K × V)) (k : K) (v : V) :
    set ((a, w) :: m) k v = if a = k then (k, v) :: m else (a, w) :: set m k v := rfl

theorem filter_set_of_ne (m : List (K × V)) {k q : K} (v : V) (other : k ≠ q) :
    (set m k v).filter (fun entry => entry.1 = q) = m.filter fun entry => entry.1 = q := by
  induction m with
  | nil => simp [other]
  | cons entry m ih =>
    obtain ⟨a, w⟩ := entry
    by_cases same : a = k
    · subst a; simp [other]
    · simp [same, List.filter_cons, ih]

theorem filter_set_of_absent (m : List (K × V)) {k : K} (v : V)
    (absent : m.filter (fun entry => entry.1 = k) = []) :
    (set m k v).filter (fun entry => entry.1 = k) = [(k, v)] := by
  induction m with
  | nil => simp
  | cons entry m ih =>
    obtain ⟨a, w⟩ := entry
    by_cases same : a = k
    · simp [same] at absent
    · rw [List.filter_cons_of_neg (by simpa using same)] at absent
      simpa [same] using ih absent

@[simp] theorem update_nil (m : List (K × V)) : update m [] = m := rfl

@[simp] theorem update_cons (m : List (K × V)) (entry : K × V) (rest : List (K × V)) :
    update m (entry :: rest) = update (set m entry.1 entry.2) rest := rfl

@[simp] theorem get?_merge (m changes : List (K × V)) (k : K) :
    get? (merge m changes) k = (get? changes k).or (get? m k) := by
  induction changes with
  | nil => rfl
  | cons entry rest ih =>
    obtain ⟨a, v⟩ := entry
    have next : merge m ((a, v) :: rest) = set (merge m rest) a v := rfl
    rw [next, get?_set, get?_cons, ih]
    by_cases same : a = k
    · simp [same]
    · simp [same]

theorem get?_eq_none_iff {m : List (K × V)} {k : K} : get? m k = none ↔ ∀ entry ∈ m, entry.1 ≠ k := by
  induction m with
  | nil => simp
  | cons entry m ih =>
    obtain ⟨a, w⟩ := entry
    rw [get?_cons, List.forall_mem_cons, ← ih]
    by_cases same : a = k <;> simp [same]

theorem mem_of_get? {m : List (K × V)} {k : K} {v : V} (found : get? m k = some v) :
    (k, v) ∈ m := by
  induction m with
  | nil => simp at found
  | cons entry m ih =>
    obtain ⟨a, w⟩ := entry
    rw [get?_cons] at found
    by_cases same : a = k
    · rw [if_pos same, Option.some.injEq] at found
      rw [← found, ← same]
      exact List.mem_cons_self
    · rw [if_neg same] at found
      exact List.mem_cons_of_mem _ (ih found)

theorem get?_of_agree {m : List (K × V)} {k : K} {v : V} (member : (k, v) ∈ m)
    (agree : ∀ entry ∈ m, entry.1 = k → entry.2 = v) : get? m k = some v := by
  cases found : get? m k with
  | none => exact absurd rfl (get?_eq_none_iff.mp found _ member)
  | some w => rw [← agree _ (mem_of_get? found) rfl]

theorem get?_denotes_set (m : List (K × V)) (k : K) (v : V) :
    get? (set m k v) = Function.update (get? m) k (some v) := by
  funext a
  by_cases h : k = a
  · subst a; simp
  · simp [h, Function.update_of_ne (Ne.symm h)]

theorem get?_denotes_erase (m : List (K × V)) (k : K) :
    get? (erase m k) = Function.update (get? m) k none := by
  funext a
  by_cases h : k = a
  · subst a; simp
  · simp [h, Function.update_of_ne (Ne.symm h)]

end OrderedMap

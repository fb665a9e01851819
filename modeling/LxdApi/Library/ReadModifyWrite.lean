import Mathlib.Data.List.Nodup
import Mathlib.Logic.Function.Basic

set_option autoImplicit false

/- Agents that change a shared state in two steps: they read it, and later write what
   they make of what they have read. The state is of any type; a write is fresh if it
   does to the present state what it did to the one that was read. -/
namespace ReadModifyWrite
variable {S ι : Type}

inductive Phase (S : Type) where
  | idle
  | read (seen : S)
  | finished

structure State (S ι : Type) where
  current : S
  phase : ι → Phase S

variable (change : ι → S → S)

def serial (order : List ι) (s : S) : S := order.foldl (fun s i => change i s) s

def Fresh (s : State S ι) (i : ι) : Prop :=
  ∀ seen, s.phase i = .read seen → change i seen = change i s.current

/-- The finished agents, in the order of their writes, account for the whole state. -/
structure Accounts (start : S) (s : State S ι) (order : List ι) : Prop where
  nodup : order.Nodup
  finished : ∀ i, i ∈ order ↔ s.phase i = .finished
  current : s.current = serial change order start

variable {change}

theorem accounts_idle (start : S) : Accounts change start ⟨start, fun _ : ι => .idle⟩ [] := by
  refine ⟨List.nodup_nil, ?_, rfl⟩
  intro i
  simp

section Entries
variable {K V : Type} [DecidableEq K] (key : ι → K) (value : ι → V)

def entryChange (i : ι) (s : K → V) : K → V := Function.update s (key i) (value i)

theorem entryChange_eq_iff (i : ι) (seen now : K → V) :
    entryChange key value i seen = entryChange key value i now ↔
      ∀ k, k ≠ key i → seen k = now k := by
  unfold entryChange
  constructor
  · intro same k other
    have at' := congrFun same k
    rwa [Function.update_of_ne other, Function.update_of_ne other] at at'
  · intro agree
    funext k
    by_cases own : k = key i
    · subst k
      rw [Function.update_self, Function.update_self]
    · rw [Function.update_of_ne own, Function.update_of_ne own]
      exact agree k own

theorem serial_untouched {order : List ι} {k : K} (s : K → V)
    (untouched : ∀ j ∈ order, key j ≠ k) :
    serial (entryChange key value) order s k = s k := by
  induction order generalizing s with
  | nil => rfl
  | cons i rest ih =>
    have later := ih (entryChange key value i s) fun j member => untouched j (List.mem_cons_of_mem i member)
    have here := untouched i List.mem_cons_self
    simp only [serial, List.foldl_cons] at later ⊢
    rw [later]
    exact Function.update_of_ne (Ne.symm here) _ _

theorem serial_last {before later : List ι} {i : ι} (s : K → V)
    (last : ∀ j ∈ later, key j ≠ key i) :
    serial (entryChange key value) (before ++ i :: later) s (key i) = value i := by
  have tail := serial_untouched key value
    (entryChange key value i (serial (entryChange key value) before s)) last
  simp only [serial, List.foldl_append, List.foldl_cons] at tail ⊢
  rw [tail]
  exact Function.update_self _ _ _

end Entries
section Runs
variable [DecidableEq ι] (change : ι → S → S)

def step (s : State S ι) (i : ι) : State S ι :=
  match s.phase i with
  | .idle => ⟨s.current, Function.update s.phase i (.read s.current)⟩
  | .read seen => ⟨change i seen, Function.update s.phase i .finished⟩
  | .finished => s

def run (s : State S ι) (schedule : List ι) : State S ι := schedule.foldl (step change) s

def AllFresh (s : State S ι) : List ι → Prop
  | [] => True
  | i :: rest => Fresh change s i ∧ AllFresh (step change s i) rest

variable {change}

theorem accounts_step {start : S} {s : State S ι} {order : List ι} {i : ι}
    (accounts : Accounts change start s order) (fresh : Fresh change s i) :
    ∃ order', Accounts change start (step change s i) order' := by
  unfold step
  cases phase : s.phase i with
  | idle =>
    refine ⟨order, accounts.nodup, ?_, accounts.current⟩
    intro j
    by_cases same : j = i
    · subst j
      simp [accounts.finished, phase]
    · simp [accounts.finished, Function.update_of_ne same]
  | read seen =>
    have absent : i ∉ order := by
      intro member
      have finished := (accounts.finished i).mp member
      rw [phase] at finished
      cases finished
    refine ⟨order ++ [i], ?_, ?_, ?_⟩
    · apply List.nodup_append.mpr
      refine ⟨accounts.nodup, List.nodup_singleton i, ?_⟩
      intro a inside b last same
      rw [List.mem_singleton] at last
      rw [same, last] at inside
      exact absent inside
    · intro j
      by_cases same : j = i
      · subst j
        simp
      · simp [accounts.finished, same]
    · have written := fresh seen phase
      simp only [serial, List.foldl_append, List.foldl_cons, List.foldl_nil]
      rw [written, accounts.current]
      rfl
  | finished => exact ⟨order, accounts⟩

theorem accounts_run {start : S} {s : State S ι} {order : List ι} (schedule : List ι)
    (accounts : Accounts change start s order) (fresh : AllFresh change s schedule) :
    ∃ order', Accounts change start (run change s schedule) order' := by
  induction schedule generalizing s order with
  | nil => exact ⟨order, accounts⟩
  | cons i rest ih =>
    obtain ⟨next, accounted⟩ := accounts_step accounts fresh.1
    exact ih accounted fresh.2

end Runs
end ReadModifyWrite

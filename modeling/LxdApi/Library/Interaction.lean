import Mathlib.Logic.Basic
import Mathlib.Data.List.Basic

set_option autoImplicit false

/- Sequential programs that stop to call their environment and may raise.
   `R e` is the type of the answers to call `e`; a run is the trace of the
   calls made, each with its answer, and the outcome. Nothing is assumed about
   how the environment chooses its answers. -/
namespace Interaction

inductive Program (E : Type) (R : E → Type) (X A : Type) where
  | done : A → Program E R X A
  | raise : X → Program E R X A
  | call : (e : E) → (R e → Program E R X A) → Program E R X A

structure Event (E : Type) (R : E → Type) where
  call : E
  answer : R call

namespace Program
variable {E : Type} {R : E → Type} {X A B : Type}

def bind (p : Program E R X A) (next : A → Program E R X B) : Program E R X B :=
  match p with
  | .done a => next a
  | .raise x => .raise x
  | .call e rest => .call e fun r => (rest r).bind next

/-- Run `p`; an exception that escapes it continues with `recover`. -/
def handle (p : Program E R X A) (recover : X → Program E R X A) : Program E R X A :=
  match p with
  | .done a => .done a
  | .raise x => recover x
  | .call e rest => .call e fun r => (rest r).handle recover

instance : Monad (Program E R X) where
  pure := .done
  bind := bind

def ofExcept : Except X A → Program E R X A
  | .ok a => .done a
  | .error x => .raise x

def Uses (allowed : E → Prop) : Program E R X A → Prop
  | .done _ => True
  | .raise _ => True
  | .call e rest => allowed e ∧ ∀ r, (rest r).Uses allowed

def Ends (post : Except X A → Prop) : Program E R X A → Prop
  | .done a => post (.ok a)
  | .raise x => post (.error x)
  | .call _ rest => ∀ r, (rest r).Ends post

inductive Runs : Program E R X A → List (Event E R) → Except X A → Prop where
  | done (a : A) : Runs (.done a) [] (.ok a)
  | raise (x : X) : Runs (.raise x) [] (.error x)
  | call {e : E} {rest : R e → Program E R X A} {trace : List (Event E R)}
      {outcome : Except X A} (r : R e) (tail : Runs (rest r) trace outcome) :
      Runs (.call e rest) (⟨e, r⟩ :: trace) outcome

/-- The outcome against an environment that answers every call by `answer`. -/
def run (answer : (e : E) → R e) : Program E R X A → Except X A
  | .done a => .ok a
  | .raise x => .error x
  | .call e rest => (rest (answer e)).run answer

@[simp] theorem pure_eq (a : A) : (pure a : Program E R X A) = .done a := rfl

@[simp] theorem bind_eq (p : Program E R X A) (next : A → Program E R X B) :
    (p >>= next) = p.bind next := rfl

@[simp] theorem bind_done (a : A) (next : A → Program E R X B) :
    (Program.done a).bind next = next a := rfl

@[simp] theorem bind_raise (x : X) (next : A → Program E R X B) :
    (Program.raise x : Program E R X A).bind next = .raise x := rfl

@[simp] theorem bind_call (e : E) (rest : R e → Program E R X A)
    (next : A → Program E R X B) :
    (Program.call e rest).bind next = .call e fun r => (rest r).bind next := rfl

@[simp] theorem handle_done (a : A) (recover : X → Program E R X A) :
    (Program.done a).handle recover = .done a := rfl

@[simp] theorem handle_raise (x : X) (recover : X → Program E R X A) :
    (Program.raise x).handle recover = recover x := rfl

@[simp] theorem handle_call (e : E) (rest : R e → Program E R X A)
    (recover : X → Program E R X A) :
    (Program.call e rest).handle recover = .call e fun r => (rest r).handle recover := rfl

@[simp] theorem ofExcept_ok (a : A) : (ofExcept (.ok a) : Program E R X A) = .done a := rfl

@[simp] theorem ofExcept_error (x : X) :
    (ofExcept (.error x) : Program E R X A) = .raise x := rfl

@[simp] theorem ofExcept_bind (value : Except X A) (next : A → Program E R X B) :
    (ofExcept value).bind next = match value with
      | .ok a => next a
      | .error x => .raise x := by
  cases value <;> rfl

@[simp] theorem ofExcept_handle (value : Except X A) (f : X → X) :
    ((ofExcept value : Program E R X A).handle fun x => .raise (f x)) =
      ofExcept (value.mapError f) := by
  cases value <;> rfl

@[simp] theorem run_ofExcept (answer : (e : E) → R e) (value : Except X A) :
    (ofExcept value).run answer = value := by
  cases value <;> rfl

@[simp] theorem uses_done (allowed : E → Prop) (a : A) :
    (Program.done a : Program E R X A).Uses allowed := trivial

@[simp] theorem uses_raise (allowed : E → Prop) (x : X) :
    (Program.raise x : Program E R X A).Uses allowed := trivial

@[simp] theorem uses_call_iff (allowed : E → Prop) (e : E) (rest : R e → Program E R X A) :
    (Program.call e rest).Uses allowed ↔ allowed e ∧ ∀ r, (rest r).Uses allowed := Iff.rfl

@[simp] theorem uses_ofExcept (allowed : E → Prop) (value : Except X A) :
    (ofExcept value : Program E R X A).Uses allowed := by
  cases value <;> trivial

@[simp] theorem runs_done_iff (a : A) (trace : List (Event E R)) (outcome : Except X A) :
    (Program.done a : Program E R X A).Runs trace outcome ↔ trace = [] ∧ outcome = .ok a := by
  constructor
  · intro h; cases h; exact ⟨rfl, rfl⟩
  · rintro ⟨rfl, rfl⟩; exact .done a

@[simp] theorem runs_raise_iff (x : X) (trace : List (Event E R)) (outcome : Except X A) :
    (Program.raise x : Program E R X A).Runs trace outcome ↔
      trace = [] ∧ outcome = .error x := by
  constructor
  · intro h; cases h; exact ⟨rfl, rfl⟩
  · rintro ⟨rfl, rfl⟩; exact .raise x

@[simp] theorem runs_call_iff (e : E) (rest : R e → Program E R X A)
    (trace : List (Event E R)) (outcome : Except X A) :
    (Program.call e rest).Runs trace outcome ↔
      ∃ r tail, trace = ⟨e, r⟩ :: tail ∧ (rest r).Runs tail outcome := by
  constructor
  · intro h
    cases h with
    | call r tail => exact ⟨r, _, rfl, tail⟩
  · rintro ⟨r, tail, rfl, h⟩; exact .call r h

@[simp] theorem runs_ofExcept_iff (value : Except X A) (trace : List (Event E R))
    (outcome : Except X A) :
    (ofExcept value : Program E R X A).Runs trace outcome ↔ trace = [] ∧ outcome = value := by
  cases value <;> simp

theorem Uses.mono {allowed allowed' : E → Prop} (implies : ∀ e, allowed e → allowed' e)
    {p : Program E R X A} (uses : p.Uses allowed) : p.Uses allowed' := by
  induction p with
  | done a => trivial
  | raise x => trivial
  | call e rest ih => exact ⟨implies e uses.1, fun r => ih r (uses.2 r)⟩

theorem uses_runs {allowed : E → Prop} {p : Program E R X A} {trace : List (Event E R)}
    {outcome : Except X A} (uses : p.Uses allowed) (h : p.Runs trace outcome) :
    ∀ event ∈ trace, allowed event.call := by
  induction h with
  | done a => simp
  | raise x => simp
  | call r tail ih =>
    intro event member
    rcases List.mem_cons.mp member with same | later
    · subst event; exact uses.1
    · exact ih (uses.2 r) event later

@[simp] theorem ends_ofExcept_iff (post : Except X A → Prop) (value : Except X A) :
    (ofExcept value : Program E R X A).Ends post ↔ post value := by
  cases value <;> rfl

theorem ends_runs {post : Except X A → Prop} {p : Program E R X A} {trace : List (Event E R)}
    {outcome : Except X A} (ends : p.Ends post) (h : p.Runs trace outcome) : post outcome := by
  induction h with
  | done a => exact ends
  | raise x => exact ends
  | call r tail ih => exact ih (ends r)

end Program
end Interaction

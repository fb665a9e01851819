import LxdApi.Library.Machine
import LxdApi.Library.Pool

set_option autoImplicit false

/- A client that repeats a request until it is answered, over a connection that loses some
   requests and some replies. What is idempotent takes effect once. -/
namespace Interaction
variable {E : Type} {R : E → Type} {X A S V : Type}

inductive Loss where
  | none
  | request
  | reply
  deriving DecidableEq, Repr

/-- The environment behind a connection with these losses to come; whoever loses a request or its
    reply is told the same. -/
def lossy (serve : S → (e : E) → R e × S) (lost : (e : E) → R e) :
    S × List Loss → (e : E) → R e × (S × List Loss)
  | (s, []), e => ((serve s e).1, ((serve s e).2, []))
  | (s, .none :: losses), e => ((serve s e).1, ((serve s e).2, losses))
  | (s, .request :: losses), e => (lost e, (s, losses))
  | (s, .reply :: losses), e => (lost e, ((serve s e).2, losses))

def lossCount (losses : List Loss) : Nat := losses.countP fun loss => loss ≠ .none

theorem lossy_cases (serve : S → (e : E) → R e × S) (lost : (e : E) → R e) (s : S)
    (losses : List Loss) (e : E) :
    (∃ later, lossCount later ≤ lossCount losses ∧
      lossy serve lost (s, losses) e = ((serve s e).1, ((serve s e).2, later))) ∨
    ∃ later, lossCount later < lossCount losses ∧
      (lossy serve lost (s, losses) e = (lost e, (s, later)) ∨
        lossy serve lost (s, losses) e = (lost e, ((serve s e).2, later))) := by
  match losses with
  | [] => exact Or.inl ⟨[], Nat.le_refl _, rfl⟩
  | .none :: losses => exact Or.inl ⟨losses, by simp [lossCount], rfl⟩
  | .request :: losses => exact Or.inr ⟨losses, by simp [lossCount], Or.inl rfl⟩
  | .reply :: losses => exact Or.inr ⟨losses, by simp [lossCount], Or.inr rfl⟩

def retry (attempt : S → Except X A × S) : Nat → S → Except X A × S
  | 0, s => attempt s
  | n + 1, s =>
    match (attempt s).1 with
    | .ok _ => attempt s
    | .error _ => retry attempt n (attempt s).2

/- An attempt that makes a change and is answered, or fails: then the change may have been
   made or not, and there is less left that can go wrong. -/
inductive Attempted (view : S → V) (change : V → V) (left : S → Nat) (answer : A) (s : S) :
    Except X A × S → Prop where
  | answered {s' : S} (made : view s' = change (view s)) (less : left s' ≤ left s) :
      Attempted view change left answer s (.ok answer, s')
  | failed {s' : S} (x : X) (perhaps : view s' = view s ∨ view s' = change (view s))
      (less : left s' < left s) : Attempted view change left answer s (.error x, s')

section Retrying
variable {view : S → V} {change : V → V} {left : S → Nat} {answer : A}
  {attempt : S → Except X A × S}

theorem Attempted.after {s s₀ : S} {result : Except X A × S}
    (rest : Attempted view change left answer s result) (same : view s = view s₀)
    (less : left s ≤ left s₀) : Attempted view change left answer s₀ result := by
  cases rest with
  | answered made fewer => exact .answered (same ▸ made) (Nat.le_trans fewer less)
  | failed x perhaps fewer => exact .failed x (same ▸ perhaps) (Nat.lt_of_lt_of_le fewer less)

/-- Enough attempts make an idempotent change once, however often it has been made unnoticed. -/
theorem retry_answered (idempotent : ∀ v, change (change v) = change v)
    (attempted : ∀ s, Attempted view change left answer s (attempt s)) {n : Nat} {s : S}
    (enough : left s ≤ n) :
    (retry attempt n s).1 = .ok answer ∧ view (retry attempt n s).2 = change (view s) ∧
      left (retry attempt n s).2 ≤ left s := by
  induction n generalizing s with
  | zero =>
    have once := attempted s
    rw [retry]
    generalize attempt s = result at once
    cases once with
    | answered made less => exact ⟨rfl, made, less⟩
    | failed x perhaps less => omega
  | succ n ih =>
    have once := attempted s
    rw [retry]
    generalize attempt s = result at once
    cases once with
    | answered made less => exact ⟨rfl, made, less⟩
    | @failed s' x perhaps less =>
      obtain ⟨answered, made, fewer⟩ := ih (show left s' ≤ n by omega)
      refine ⟨answered, ?_, Nat.le_trans fewer (Nat.le_of_lt less)⟩
      rcases perhaps with same | already
      · exact made.trans (congrArg change same)
      · exact made.trans ((congrArg change already).trans (idempotent _))

end Retrying

section Sequences
variable {I : Type} {view : S → V} {change : I → V → V} {left : S → Nat} {answer : I → A}
  {attempt : I → S → Except X A × S}

def persist (attempt : I → S → Except X A × S) (n : Nat) (s : S) (i : I) : Except X A × S :=
  retry (attempt i) n s

theorem persist_answered (idempotent : ∀ i v, change i (change i v) = change i v)
    (attempted : ∀ i s, Attempted view (change i) left (answer i) s (attempt i s)) {n : Nat} {s : S}
    (enough : left s ≤ n) (inputs : List I) :
    (Machine.record (persist attempt n) s inputs).map Machine.Entry.output =
        inputs.map (fun i => .ok (answer i)) ∧
      view (Machine.final (persist attempt n) s inputs) =
        inputs.foldl (fun v i => change i v) (view s) := by
  induction inputs generalizing s with
  | nil => exact ⟨rfl, rfl⟩
  | cons i rest ih =>
    obtain ⟨answered, made, fewer⟩ := retry_answered (idempotent i) (attempted i) enough
    obtain ⟨later, reached⟩ := ih (Nat.le_trans fewer enough)
    refine ⟨congrArg₂ List.cons answered later, ?_⟩
    rw [List.foldl_cons, ← made]
    exact reached

end Sequences
end Interaction

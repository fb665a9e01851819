import LxdApi.Library.Interaction
import Mathlib.Logic.Function.Basic

set_option autoImplicit false

/- Programs that share the state of their environment. The environment serves one call
   at a time; between the calls of one program any number of others may be served. -/
namespace Interaction
variable {E : Type} {R : E → Type} {X A S ι : Type}

namespace Program

def runFrom (serve : S → (e : E) → R e × S) (s : S) : Program E R X A → Except X A × S
  | .done a => (.ok a, s)
  | .raise x => (.error x, s)
  | .call e rest => (rest (serve s e).1).runFrom serve (serve s e).2

def Ended : Program E R X A → Prop
  | .done _ => True
  | .raise _ => True
  | .call _ _ => False

theorem ended_ofExcept (value : Except X A) : (ofExcept value : Program E R X A).Ended := by
  cases value <;> trivial

@[simp] theorem runFrom_ofExcept (serve : S → (e : E) → R e × S) (value : Except X A) (s : S) :
    (ofExcept value : Program E R X A).runFrom serve s = (value, s) := by
  cases value <;> rfl

def Within : Nat → Program E R X A → Prop
  | _, .done _ => True
  | _, .raise _ => True
  | 0, .call _ _ => False
  | n + 1, .call _ rest => ∀ r, (rest r).Within n

theorem Within.ended {p : Program E R X A} (within : p.Within 0) : p.Ended := by
  cases p with
  | done a => trivial
  | raise x => trivial
  | call e rest => exact within

theorem within_of_ended {p : Program E R X A} (ended : p.Ended) (n : Nat) : p.Within n := by
  cases p with
  | done a => cases n <;> trivial
  | raise x => cases n <;> trivial
  | call e rest => exact ended.elim

theorem within_call_iff (e : E) (rest : R e → Program E R X A) (n : Nat) :
    (Program.call e rest).Within (n + 1) ↔ ∀ r, (rest r).Within n := Iff.rfl

theorem Within.mono {p : Program E R X A} {m n : Nat} (within : p.Within m) (le : m ≤ n) :
    p.Within n := by
  induction p generalizing m n with
  | done a => cases n <;> trivial
  | raise x => cases n <;> trivial
  | call e rest ih =>
    cases m with
    | zero => exact within.elim
    | succ m =>
      cases n with
      | zero => omega
      | succ n => exact fun r => ih r (within r) (by omega)

/-- Some run makes this many calls, and no run makes more. -/
def Costs (p : Program E R X A) (calls : Nat) : Prop := ∀ n, p.Within n ↔ calls ≤ n

theorem Costs.within {p : Program E R X A} {calls : Nat} (costs : p.Costs calls) :
    p.Within calls := (costs calls).mpr (Nat.le_refl calls)

theorem Costs.within_of_le {p : Program E R X A} {calls n : Nat} (costs : p.Costs calls)
    (le : calls ≤ n) : p.Within n := (costs n).mpr le

theorem Costs.of_eq {p : Program E R X A} {calls n : Nat} (costs : p.Costs calls)
    (same : calls = n) : p.Costs n := same ▸ costs

theorem costs_of_ended {p : Program E R X A} (ended : p.Ended) : p.Costs 0 :=
  fun n => iff_of_true (within_of_ended ended n) (Nat.zero_le n)

theorem costs_call {e : E} {rest : R e → Program E R X A} {calls : Nat}
    (dearest : R e) (within : ∀ r, (rest r).Within calls)
    (costs : (rest dearest).Costs calls) : (Program.call e rest).Costs (calls + 1) := by
  intro n
  cases n with
  | zero => exact iff_of_false (fun none => none) (by omega)
  | succ n =>
    rw [within_call_iff, Nat.add_le_add_iff_right]
    constructor
    · intro all
      exact (costs n).mp (all dearest)
    · intro le r
      exact (within r).mono le

section Embedding
variable {F B T : Type} {Q : F → Type}

def embed (inject : E → F) (reply : (e : E) → Q (inject e) → R e) (wrap : A → B) :
    Program E R X A → Program F Q X B
  | .done a => .done (wrap a)
  | .raise x => .raise x
  | .call e rest => .call (inject e) fun r => (rest (reply e r)).embed inject reply wrap

variable {inject : E → F} {reply : (e : E) → Q (inject e) → R e} {wrap : A → B}

theorem embed_within {p : Program E R X A} {n : Nat} (within : p.Within n) :
    (p.embed inject reply wrap).Within n := by
  induction p generalizing n with
  | done a => cases n <;> trivial
  | raise x => cases n <;> trivial
  | call e rest ih =>
    cases n with
    | zero => exact within.elim
    | succ n => exact fun r => ih (reply e r) (within _)

theorem embed_runFrom {serve : S → (e : E) → R e × S} {whole : T → (f : F) → Q f × T}
    (part : T → S) (withPart : T → S → T) (part_withPart : ∀ t s, part (withPart t s) = s)
    (withPart_part : ∀ t, withPart t (part t) = t)
    (withPart_twice : ∀ t s s', withPart (withPart t s) s' = withPart t s')
    (serves : ∀ t e, reply e (whole t (inject e)).1 = (serve (part t) e).1 ∧
      (whole t (inject e)).2 = withPart t (serve (part t) e).2)
    (p : Program E R X A) (t : T) :
    (p.embed inject reply wrap).runFrom whole t =
      ((p.runFrom serve (part t)).1.map wrap, withPart t (p.runFrom serve (part t)).2) := by
  induction p generalizing t with
  | done a => simp only [embed, runFrom, Except.map, withPart_part]
  | raise x => simp only [embed, runFrom, Except.map, withPart_part]
  | call e rest ih =>
    obtain ⟨answer, after⟩ := serves t e
    simp only [embed, runFrom]
    rw [ih, answer, after, part_withPart, withPart_twice]

end Embedding

section Likeness
variable {B : Type}

/-- Programs that make the same calls, whatever these are answered, and end in outcomes that
    are related. -/
inductive Alike (related : Except X A → Except X B → Prop) :
    Program E R X A → Program E R X B → Prop where
  | done {a : A} {b : B} (same : related (.ok a) (.ok b)) : Alike related (.done a) (.done b)
  | raise {x y : X} (same : related (.error x) (.error y)) : Alike related (.raise x) (.raise y)
  | call {e : E} {rest : R e → Program E R X A} {more : R e → Program E R X B}
      (next : ∀ r, Alike related (rest r) (more r)) : Alike related (.call e rest) (.call e more)

variable {related : Except X A → Except X B → Prop}

theorem Alike.refl {related : Except X A → Except X A → Prop} (same : ∀ x, related x x)
    (p : Program E R X A) : p.Alike related p := by
  induction p with
  | done a => exact .done (same _)
  | raise x => exact .raise (same _)
  | call e rest ih => exact .call ih

theorem Alike.ends {p : Program E R X A} {q : Program E R X B} (alike : p.Alike related q) :
    (∃ a b, p = .done a ∧ q = .done b ∧ related (.ok a) (.ok b)) ∨
      (∃ x y, p = .raise x ∧ q = .raise y ∧ related (.error x) (.error y)) ∨
        ¬ p.Ended ∧ ¬ q.Ended := by
  cases alike with
  | done same => exact Or.inl ⟨_, _, rfl, rfl, same⟩
  | raise same => exact Or.inr (Or.inl ⟨_, _, rfl, rfl, same⟩)
  | call next => exact Or.inr (Or.inr ⟨fun ended => ended, fun ended => ended⟩)

theorem Alike.ended_iff {p : Program E R X A} {q : Program E R X B} (alike : p.Alike related q) :
    p.Ended ↔ q.Ended := by
  cases alike <;> rfl

end Likeness

end Program

structure Pool (E : Type) (R : E → Type) (X A S ι : Type) where
  shared : S
  threads : ι → Program E R X A

namespace Pool
variable [DecidableEq ι] (serve : S → (e : E) → R e × S)

def step (pool : Pool E R X A S ι) (i : ι) : Pool E R X A S ι :=
  match pool.threads i with
  | .call e rest => ⟨(serve pool.shared e).2,
      Function.update pool.threads i (rest (serve pool.shared e).1)⟩
  | _ => pool

def run (pool : Pool E R X A S ι) (schedule : List ι) : Pool E R X A S ι :=
  schedule.foldl (step serve) pool

variable {pool : Pool E R X A S ι} {i : ι}

theorem step_of_call {e : E} {rest : R e → Program E R X A}
    (next : pool.threads i = .call e rest) :
    step serve pool i = ⟨(serve pool.shared e).2,
      Function.update pool.threads i (rest (serve pool.shared e).1)⟩ := by
  unfold step
  rw [next]

theorem step_of_ended (ended : (pool.threads i).Ended) : step serve pool i = pool := by
  unfold step
  cases next : pool.threads i with
  | done a => rfl
  | raise x => rfl
  | call e rest =>
    rw [next] at ended
    cases ended

theorem step_other {j : ι} (other : j ≠ i) :
    (step serve pool i).threads j = pool.threads j := by
  unfold step
  cases pool.threads i with
  | done a => rfl
  | raise x => rfl
  | call e rest => exact Function.update_of_ne other _ _

theorem step_keeps_ended {j : ι} (ended : (pool.threads j).Ended) :
    (step serve pool i).threads j = pool.threads j := by
  by_cases same : j = i
  · subst same
    rw [step_of_ended serve ended]
  · exact step_other serve same

theorem step_within {n : Nat} (within : (pool.threads i).Within (n + 1)) :
    ((step serve pool i).threads i).Within n := by
  cases next : pool.threads i with
  | done a =>
    have ended : (pool.threads i).Ended := by rw [next]; trivial
    rw [step_of_ended serve ended]
    exact Program.within_of_ended ended n
  | raise x =>
    have ended : (pool.threads i).Ended := by rw [next]; trivial
    rw [step_of_ended serve ended]
    exact Program.within_of_ended ended n
  | call e rest =>
    rw [step_of_call serve next]
    rw [next] at within
    dsimp only
    rw [Function.update_self]
    exact within _

theorem run_ended {n : Nat} (within : (pool.threads i).Within n) {schedule : List ι}
    (enough : n ≤ schedule.count i) : ((run serve pool schedule).threads i).Ended := by
  induction schedule generalizing pool n with
  | nil =>
    rw [List.count_nil, Nat.le_zero] at enough
    subst enough
    exact within.ended
  | cons j rest ih =>
    by_cases own : j = i
    · subst own
      rw [List.count_cons_self] at enough
      have next : ((step serve pool j).threads j).Within (n - 1) := by
        cases n with
        | zero =>
          rw [step_keeps_ended serve within.ended]
          exact within
        | succ n => exact step_within serve within
      exact ih next (by omega)
    · rw [List.count_cons_of_ne own] at enough
      refine ih ?_ enough
      rw [step_other serve (Ne.symm own)]
      exact within

variable {serve}

theorem run_induction {holds : Pool E R X A S ι → Prop}
    (keeps : ∀ pool i, holds pool → holds (step serve pool i)) (start : holds pool)
    (schedule : List ι) : holds (run serve pool schedule) := by
  induction schedule generalizing pool with
  | nil => exact start
  | cons i rest ih => exact ih (keeps pool i start)

omit [DecidableEq ι] in
theorem solo_of_ended (ended : (pool.threads i).Ended) :
    pool.shared = ((pool.threads i).runFrom serve pool.shared).2 ∧
      pool.threads i = Program.ofExcept ((pool.threads i).runFrom serve pool.shared).1 := by
  cases next : pool.threads i with
  | call e rest =>
    rw [next] at ended
    exact ended.elim
  | done a => exact ⟨rfl, rfl⟩
  | raise x => exact ⟨rfl, rfl⟩

theorem run_solo {n : Nat} (within : (pool.threads i).Within n) {steps : Nat}
    (enough : n ≤ steps) :
    (run serve pool (List.replicate steps i)).shared =
        ((pool.threads i).runFrom serve pool.shared).2 ∧
      (run serve pool (List.replicate steps i)).threads i =
        Program.ofExcept ((pool.threads i).runFrom serve pool.shared).1 := by
  induction steps generalizing pool n with
  | zero =>
    rw [Nat.le_zero] at enough
    subst enough
    exact solo_of_ended within.ended
  | succ steps ih =>
    have after : run serve pool (List.replicate (steps + 1) i) =
        run serve (step serve pool i) (List.replicate steps i) := rfl
    rw [after]
    cases next : pool.threads i with
    | call e rest =>
      cases n with
      | zero =>
        rw [next] at within
        exact within.elim
      | succ n =>
        have further := ih (step_within serve within) (Nat.le_of_succ_le_succ enough)
        rw [step_of_call serve next] at further ⊢
        dsimp only at further
        rw [Function.update_self] at further
        exact further
    | done a =>
      have ended : (pool.threads i).Ended := by rw [next]; trivial
      rw [step_of_ended serve ended, ← next]
      exact ih (Program.within_of_ended ended 0) (Nat.zero_le steps)
    | raise x =>
      have ended : (pool.threads i).Ended := by rw [next]; trivial
      rw [step_of_ended serve ended, ← next]
      exact ih (Program.within_of_ended ended 0) (Nat.zero_le steps)

section Likeness
variable {B : Type} {related : ι → Except X A → Except X B → Prop} {pool' : Pool E R X B S ι}

end Likeness

section Locality
variable {V : Type} (mine : ι → Bool) (view : S → V)

/-- Calls that leave a part of the state alone. -/
def Beside (serve : S → (e : E) → R e × S) (e : E) : Prop := ∀ s, view (serve s e).2 = view s

/-- Calls that see and change nothing but this part. -/
def Upon (serve : S → (e : E) → R e × S) (e : E) : Prop :=
  ∀ s s', view s = view s' →
    (serve s e).1 = (serve s' e).1 ∧ view (serve s e).2 = view (serve s' e).2

/-- Some threads act upon a part of the state, the others beside it. -/
def Divided (serve : S → (e : E) → R e × S) (threads : ι → Program E R X A) : Prop :=
  ∀ i, (threads i).Uses fun e =>
    if mine i = true then Upon view serve e else Beside view serve e

structure LookAlike (pool pool' : Pool E R X A S ι) : Prop where
  shared : view pool.shared = view pool'.shared
  threads : ∀ i, mine i = true → pool.threads i = pool'.threads i

variable {mine view} {pool' : Pool E R X A S ι}

theorem step_uses {allowed : ι → E → Prop} (uses : ∀ j, (pool.threads j).Uses (allowed j))
    (i j : ι) :
    ((step serve pool i).threads j).Uses (allowed j) := by
  cases next : pool.threads i with
  | call e rest =>
    rw [step_of_call serve next]
    by_cases same : j = i
    · subst same
      have own := uses j
      rw [next] at own
      simp only [Function.update_self]
      exact own.2 _
    · simp only [Function.update_of_ne same]
      exact uses j
  | done a =>
    rw [step_of_ended serve (by rw [next]; trivial)]
    exact uses j
  | raise x =>
    rw [step_of_ended serve (by rw [next]; trivial)]
    exact uses j

theorem step_beside (divided : Divided mine view serve pool.threads) {i : ι}
    (other : mine i = false) (alike : LookAlike mine view pool pool') :
    LookAlike mine view (step serve pool i) pool' := by
  have beside := divided i
  cases next : pool.threads i with
  | call e rest =>
    rw [next] at beside
    have keeps : Beside view serve e := by simpa [other] using beside.1
    rw [step_of_call serve next]
    refine ⟨(keeps _).trans alike.shared, ?_⟩
    intro j own
    have apart : j ≠ i := by
      intro same
      rw [same, other] at own
      cases own
    rw [← alike.threads j own]
    exact Function.update_of_ne apart _ _
  | done a =>
    rw [step_of_ended serve (by rw [next]; trivial)]
    exact alike
  | raise x =>
    rw [step_of_ended serve (by rw [next]; trivial)]
    exact alike

theorem step_upon (divided : Divided mine view serve pool.threads) {i : ι}
    (own : mine i = true) (alike : LookAlike mine view pool pool') :
    LookAlike mine view (step serve pool i) (step serve pool' i) := by
  have upon := divided i
  have same := alike.threads i own
  cases next : pool.threads i with
  | call e rest =>
    rw [next] at upon
    have sees : Upon view serve e := by simpa [own] using upon.1
    obtain ⟨answer, after⟩ := sees _ _ alike.shared
    rw [step_of_call serve next, step_of_call serve (same.symm.trans next), answer]
    refine ⟨after, ?_⟩
    intro j theirs
    by_cases here : j = i
    · subst here
      simp only [Function.update_self]
    · simp only [Function.update_of_ne here]
      exact alike.threads j theirs
  | done a =>
    have ended : (pool.threads i).Ended := by rw [next]; trivial
    rw [step_of_ended serve ended, step_of_ended serve (same ▸ ended)]
    exact alike
  | raise x =>
    have ended : (pool.threads i).Ended := by rw [next]; trivial
    rw [step_of_ended serve ended, step_of_ended serve (same ▸ ended)]
    exact alike

theorem lookAlike_run (divided : Divided mine view serve pool.threads)
    (alike : LookAlike mine view pool pool') (schedule : List ι) :
    LookAlike mine view (run serve pool schedule) (run serve pool' (schedule.filter mine)) := by
  induction schedule generalizing pool pool' with
  | nil => exact alike
  | cons i rest ih =>
    have after : Divided mine view serve (step serve pool i).threads := step_uses divided i
    cases own : mine i with
    | true =>
      rw [List.filter_cons_of_pos own]
      exact ih after (step_upon divided own alike)
    | false =>
      rw [List.filter_cons_of_neg (by simp [own])]
      exact ih after (step_beside divided own alike)

/-- The threads upon a part of the state, and this part, run as if there were no others. -/
theorem run_filter (divided : Divided mine view serve pool.threads) (schedule : List ι) :
    LookAlike mine view (run serve pool schedule) (run serve pool (schedule.filter mine)) :=
  lookAlike_run divided ⟨rfl, fun _ _ => rfl⟩ schedule

end Locality

end Pool
end Interaction

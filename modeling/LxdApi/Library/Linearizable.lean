import LxdApi.Library.Machine
import LxdApi.Library.Pool
import Mathlib.Data.List.Nodup

set_option autoImplicit false

/- When programs that share a state can be taken one at a time. A program may look at
   things that stay as they are, and then acts with its last call. However the calls of
   such programs are interleaved, each does what it would do alone at its last call. -/
namespace Interaction
variable {E : Type} {R : E → Type} {X A S ι : Type}

namespace Program

instance (p : Program E R X A) : Decidable p.Ended :=
  match p with
  | .done _ => isTrue trivial
  | .raise _ => isTrue trivial
  | .call _ _ => isFalse fun ended => ended

theorem ended_iff_outcome (p : Program E R X A) : p.Ended ↔ ∃ outcome, p = ofExcept outcome := by
  constructor
  · intro ended
    cases p with
    | done a => exact ⟨.ok a, rfl⟩
    | raise x => exact ⟨.error x, rfl⟩
    | call e rest => exact ended.elim
  · rintro ⟨outcome, same⟩
    rw [same]
    exact ended_ofExcept outcome

section Postponing
variable (serve : S → (e : E) → R e × S) (later : S → S → Prop)

def Steady (s : S) (e : E) : Prop := ∀ t, later s t → serve t e = ((serve s e).1, t)

/-- From `s` on, whenever the program is served, the call is its last or a steady one. -/
def Postponable : S → Program E R X A → Prop
  | _, .done _ => True
  | _, .raise _ => True
  | s, .call e rest => ∀ t, later s t → (rest (serve t e).1).Ended ∨
      (Steady serve later t e ∧ (rest (serve t e).1).Postponable t)

variable {serve later}

theorem Postponable.mono (trans : ∀ s t u, later s t → later t u → later s u) {s t : S}
    {p : Program E R X A} (postponable : p.Postponable serve later s) (grown : later s t) :
    p.Postponable serve later t := by
  cases p with
  | done a => trivial
  | raise x => trivial
  | call e rest =>
    intro u more
    exact postponable u (trans s t u grown more)

theorem postponable_of_within_one {p : Program E R X A} (within : p.Within 1) (s : S) :
    p.Postponable serve later s := by
  cases p with
  | done a => trivial
  | raise x => trivial
  | call e rest =>
    intro t _
    exact Or.inl (within (serve t e).1).ended

end Postponing
end Program

open Program

def alone (serve : S → (e : E) → R e × S) (programs : ι → Program E R X A) (s : S) (i : ι) :
    Except X A × S :=
  (programs i).runFrom serve s

namespace Pool
variable [DecidableEq ι] (serve : S → (e : E) → R e × S)

def finishers : Pool E R X A S ι → List ι → List ι
  | _, [] => []
  | pool, i :: schedule =>
    if ¬ (pool.threads i).Ended ∧ ((step serve pool i).threads i).Ended then
      i :: finishers (step serve pool i) schedule
    else finishers (step serve pool i) schedule

theorem finishers_append (pool : Pool E R X A S ι) (before after : List ι) :
    finishers serve pool (before ++ after) =
      finishers serve pool before ++ finishers serve (run serve pool before) after := by
  induction before generalizing pool with
  | nil => rfl
  | cons i rest ih =>
    simp only [List.cons_append, finishers, ih, run, List.foldl_cons]
    split_ifs <;> rfl

variable {pool : Pool E R X A S ι}

theorem run_keeps_ended {i : ι} (ended : (pool.threads i).Ended) (schedule : List ι) :
    (run serve pool schedule).threads i = pool.threads i := by
  induction schedule generalizing pool with
  | nil => rfl
  | cons j rest ih =>
    have kept : (step serve pool j).threads i = pool.threads i := step_keeps_ended serve ended
    have still : ((step serve pool j).threads i).Ended := by
      rw [kept]
      exact ended
    exact (ih still).trans kept

theorem mem_finishers_iff (i : ι) (schedule : List ι) :
    i ∈ finishers serve pool schedule ↔
      ¬ (pool.threads i).Ended ∧ ((run serve pool schedule).threads i).Ended := by
  induction schedule generalizing pool with
  | nil => simp [finishers, run]
  | cons j rest ih =>
    have after : run serve pool (j :: rest) = run serve (step serve pool j) rest := rfl
    rw [finishers, after]
    by_cases own : i = j
    · subst own
      by_cases ends : ¬ (pool.threads i).Ended ∧ ((step serve pool i).threads i).Ended
      · rw [if_pos ends, run_keeps_ended serve ends.2]
        exact iff_of_true List.mem_cons_self ends
      · rw [if_neg ends, ih]
        by_cases was : (pool.threads i).Ended
        · rw [step_of_ended serve was]
        · have still : ¬ ((step serve pool i).threads i).Ended := fun now => ends ⟨was, now⟩
          simp only [was, still, not_false_eq_true, true_and]
    · have same : (step serve pool j).threads i = pool.threads i := step_other serve own
      split_ifs
      · rw [List.mem_cons, ih, same]
        simp only [own, false_or]
      · rw [ih, same]

theorem finishers_nodup (schedule : List ι) : (finishers serve pool schedule).Nodup := by
  induction schedule generalizing pool with
  | nil => exact List.nodup_nil
  | cons i rest ih =>
    rw [finishers]
    split_ifs with ends
    · refine List.nodup_cons.mpr ⟨?_, ih⟩
      intro again
      exact ((mem_finishers_iff serve i rest).mp again).1 ends.2
    · exact ih

theorem run_other {i : ι} {schedule : List ι} (idle : i ∉ schedule) :
    (run serve pool schedule).threads i = pool.threads i := by
  induction schedule generalizing pool with
  | nil => rfl
  | cons j rest ih =>
    rw [List.mem_cons, not_or] at idle
    exact (ih idle.2).trans (step_other serve idle.1)

theorem finishers_in_time {i j : ι} {before after : List ι}
    (running : ¬ (pool.threads i).Ended) (ended : ((run serve pool before).threads i).Ended)
    (idle : j ∉ before) (finishes : j ∈ finishers serve pool (before ++ after)) :
    [i, j].Sublist (finishers serve pool (before ++ after)) := by
  have first : i ∈ finishers serve pool before :=
    (mem_finishers_iff serve i before).mpr ⟨running, ended⟩
  have unfinished : j ∉ finishers serve pool before := by
    intro early
    obtain ⟨not_yet, now⟩ := (mem_finishers_iff serve j before).mp early
    rw [run_other serve idle] at now
    exact not_yet now
  rw [finishers_append] at finishes ⊢
  have second := (List.mem_append.mp finishes).resolve_left unfinished
  exact (List.singleton_sublist.mpr first).append (List.singleton_sublist.mpr second)

theorem step_later {later : S → S → Prop} (refl : ∀ s, later s s)
    (grows : ∀ s e, later s (serve s e).2) (pool : Pool E R X A S ι) (i : ι) :
    later pool.shared (step serve pool i).shared := by
  cases next : pool.threads i with
  | done a =>
    rw [step_of_ended serve (by rw [next]; trivial)]
    exact refl _
  | raise x =>
    rw [step_of_ended serve (by rw [next]; trivial)]
    exact refl _
  | call e rest =>
    rw [step_of_call serve next]
    exact grows _ e

end Pool

section Linearizing
variable [DecidableEq ι] {serve : S → (e : E) → R e × S} {later : S → S → Prop}
  {programs : ι → Program E R X A}

/- What is left of a program does now, and at any later state, what the whole program
   would do there. -/
structure Pending (serve : S → (e : E) → R e × S) (later : S → S → Prop)
    (whole rest : Program E R X A) (s : S) : Prop where
  postponable : rest.Postponable serve later s
  same : ∀ t, later s t → whole.runFrom serve t = rest.runFrom serve t

theorem pending_step (refl : ∀ s, later s s)
    {pool : Pool E R X A S ι} {whole : Program E R X A} {i : ι}
    (pending : Pending serve later whole (pool.threads i) pool.shared)
    (running : ¬ ((pool.step serve i).threads i).Ended) :
    (pool.step serve i).shared = pool.shared ∧
      Pending serve later whole ((pool.step serve i).threads i) pool.shared := by
  cases next : pool.threads i with
  | done a =>
    have ended : (pool.threads i).Ended := by rw [next]; trivial
    rw [Pool.step_of_ended serve ended] at running
    exact absurd ended running
  | raise x =>
    have ended : (pool.threads i).Ended := by rw [next]; trivial
    rw [Pool.step_of_ended serve ended] at running
    exact absurd ended running
  | call e rest =>
    rw [Pool.step_of_call serve next] at running ⊢
    dsimp only at running ⊢
    rw [Function.update_self] at running ⊢
    obtain ⟨postponable, same⟩ := pending
    rw [next] at postponable same
    rcases postponable pool.shared (refl _) with ended | ⟨steady, further⟩
    · exact absurd ended running
    · have still := congrArg Prod.snd (steady pool.shared (refl _))
      refine ⟨still, further, ?_⟩
      intro t grown
      have answer := steady t grown
      rw [same t grown, runFrom, answer]

theorem pending_last (refl : ∀ s, later s s) {pool : Pool E R X A S ι}
    {whole : Program E R X A} {i : ι}
    (pending : Pending serve later whole (pool.threads i) pool.shared)
    (was : ¬ (pool.threads i).Ended) (ended : ((pool.step serve i).threads i).Ended) :
    (pool.step serve i).threads i = ofExcept (whole.runFrom serve pool.shared).1 ∧
      (pool.step serve i).shared = (whole.runFrom serve pool.shared).2 := by
  cases next : pool.threads i with
  | done a =>
    rw [next] at was
    exact absurd trivial was
  | raise x =>
    rw [next] at was
    exact absurd trivial was
  | call e rest =>
    rw [pending.same _ (refl _), next, Pool.step_of_call serve next, runFrom]
    rw [Pool.step_of_call serve next] at ended
    dsimp only at ended ⊢
    rw [Function.update_self] at ended ⊢
    obtain ⟨outcome, shape⟩ := (ended_iff_outcome _).mp ended
    rw [shape, runFrom_ofExcept]
    exact ⟨rfl, rfl⟩

/- The order in which the programs have come to their end explains what they have done:
   taken one after the other in this order, they leave the same state and give the same
   answers. -/
structure Linearized (serve : S → (e : E) → R e × S) (programs : ι → Program E R X A) (s : S)
    (pool : Pool E R X A S ι) (order : List ι) : Prop where
  state : pool.shared = Machine.final (alone serve programs) s order
  answers : order.map pool.threads =
    (Machine.record (alone serve programs) s order).map fun entry => Program.ofExcept entry.output

theorem linearized_run (refl : ∀ s, later s s)
    (trans : ∀ s t u, later s t → later t u → later s u)
    (grows : ∀ s e, later s (serve s e).2) {pool : Pool E R X A S ι}
    (pending : ∀ i, ¬ (pool.threads i).Ended →
      Pending serve later (programs i) (pool.threads i) pool.shared) (schedule : List ι) :
    Linearized serve programs pool.shared (pool.run serve schedule)
      (pool.finishers serve schedule) := by
  induction schedule generalizing pool with
  | nil => exact ⟨rfl, rfl⟩
  | cons i rest ih =>
    have grown : later pool.shared (pool.step serve i).shared :=
      Pool.step_later serve refl grows pool i
    have pendingNext : ∀ j, ¬ ((pool.step serve i).threads j).Ended →
        Pending serve later (programs j) ((pool.step serve i).threads j)
          (pool.step serve i).shared := by
      intro j running
      by_cases own : j = i
      · subst own
        have was : ¬ (pool.threads j).Ended := by
          intro ended
          rw [Pool.step_of_ended serve ended] at running
          exact running ended
        obtain ⟨same, left⟩ := pending_step refl (pending j was) running
        rw [same]
        exact left
      · rw [Pool.step_other serve own] at running ⊢
        obtain ⟨postponable, same⟩ := pending j running
        exact ⟨postponable.mono trans grown, fun t more => same t (trans _ _ _ grown more)⟩
    have later := ih pendingNext
    have after : pool.run serve (i :: rest) = (pool.step serve i).run serve rest := rfl
    rw [Pool.finishers, after]
    split_ifs with ends
    · obtain ⟨answer, state⟩ := pending_last refl (pending i ends.1) ends.1 ends.2
      have first : (pool.run serve (i :: rest)).threads i = ofExcept
          (alone serve programs pool.shared i).1 :=
        (Pool.run_keeps_ended serve ends.2 rest).trans answer
      have sameState : (pool.step serve i).shared = (alone serve programs pool.shared i).2 := state
      obtain ⟨finalState, answers⟩ := later
      rw [sameState] at finalState answers
      exact ⟨finalState, congrArg₂ List.cons first answers⟩
    · by_cases was : (pool.threads i).Ended
      · rw [Pool.step_of_ended serve was] at later ⊢
        exact later
      · have running : ¬ ((pool.step serve i).threads i).Ended := fun now => ends ⟨was, now⟩
        obtain ⟨same, _⟩ := pending_step refl (pending i was) running
        rw [same] at later
        exact later

/-- Programs that can be postponed from the start are served as if in turn. -/
theorem linearized_of_postponable (refl : ∀ s, later s s)
    (trans : ∀ s t u, later s t → later t u → later s u)
    (grows : ∀ s e, later s (serve s e).2) (s : S)
    (postponable : ∀ i, (programs i).Postponable serve later s) (schedule : List ι) :
    Linearized serve programs s (Pool.run serve ⟨s, programs⟩ schedule)
      (Pool.finishers serve ⟨s, programs⟩ schedule) := by
  have pending : ∀ i, ¬ (programs i).Ended → Pending serve later (programs i) (programs i) s :=
    fun i _ => ⟨postponable i, fun _ _ => rfl⟩
  exact @linearized_run _ _ _ _ _ _ _ serve later programs refl trans grows ⟨s, programs⟩ pending
    schedule

end Linearizing
end Interaction

import LxdApi.Library.Pool

set_option autoImplicit false

/- An environment that keeps a state for each key. A call has a key and sees and changes the
   state of this key only, or it has none and sees and changes nothing. -/
namespace Interaction
variable {E : Type} {R : E → Type} {X A K S ι : Type}

structure Keeper (E : Type) (R : E → Type) (K S : Type) where
  key : E → Option K
  answer : S → (e : E) → R e × S
  elsewhere : (e : E) → R e

namespace Keeper
variable [DecidableEq K] (keeper : Keeper E R K S)

def serve (parts : K → S) (e : E) : R e × (K → S) :=
  match keeper.key e with
  | none => (keeper.elsewhere e, parts)
  | some k => ((keeper.answer (parts k) e).1, Function.update parts k (keeper.answer (parts k) e).2)

def StaysAt (k : K) (e : E) : Prop := ∀ other, keeper.key e = some other → other = k

variable {keeper} {k : K} {e : E}

theorem upon_of_staysAt (stays : keeper.StaysAt k e) :
    Pool.Upon (fun parts => parts k) keeper.serve e := by
  intro parts parts' same
  unfold serve
  cases its : keeper.key e with
  | none => exact ⟨rfl, same⟩
  | some other =>
    rw [stays other its]
    dsimp only at same ⊢
    rw [same, Function.update_self, Function.update_self]
    exact ⟨rfl, rfl⟩

theorem beside_of_staysAt {other : K} (stays : keeper.StaysAt k e) (apart : k ≠ other) :
    Pool.Beside (fun parts => parts other) keeper.serve e := by
  intro parts
  unfold serve
  cases its : keeper.key e with
  | none => rfl
  | some same =>
    rw [stays same its]
    exact Function.update_of_ne apart.symm _ _

variable [DecidableEq ι] {pool : Pool E R X A (K → S) ι} {place : ι → K}

theorem run_apart (stays : ∀ i, (pool.threads i).Uses (keeper.StaysAt (place i))) {mine : ι → Bool}
    (there : ∀ i, mine i = true ↔ place i = k) (schedule : List ι) :
    Pool.LookAlike mine (fun parts => parts k) (Pool.run keeper.serve pool schedule)
      (Pool.run keeper.serve pool (schedule.filter mine)) := by
  refine Pool.run_filter ?_ schedule
  intro i
  refine (stays i).mono ?_
  intro e stays
  split_ifs with its
  · rw [(there i).mp its] at stays
    exact upon_of_staysAt stays
  · exact beside_of_staysAt stays fun same => its ((there i).mpr same)

end Keeper
end Interaction

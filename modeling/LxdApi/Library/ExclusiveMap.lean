import Mathlib.Logic.Function.Basic

set_option autoImplicit false

/- Maps whose entries may each claim a resource, and when no two of them claim the
   same one. -/
namespace ExclusiveMap
variable {K V R : Type} (claim : V → Option R)

def Exclusive (m : K → Option V) : Prop :=
  ∀ a b v w r, m a = some v → m b = some w → claim v = some r → claim w = some r → a = b

def Free (m : K → Option V) (k : K) (v : V) : Prop :=
  ∀ a w r, a ≠ k → m a = some w → claim w = some r → claim v ≠ some r

variable {claim} [DecidableEq K] {m : K → Option V} {k : K}

theorem exclusive_put_iff (exclusive : Exclusive claim m) (v : V) :
    Exclusive claim (Function.update m k (some v)) ↔ Free claim m k v := by
  constructor
  · intro put a w r other held claims same
    apply other
    apply put a k w v r
    · rw [Function.update_of_ne other, held]
    · exact Function.update_self _ _ _
    · exact claims
    · exact same
  · intro free a b v' w r atA atB claimsA claimsB
    by_cases isA : a = k
    · by_cases isB : b = k
      · rw [isA, isB]
      · rw [isA, Function.update_self] at atA
        rw [Function.update_of_ne isB] at atB
        cases atA
        exact absurd claimsA (free b w r isB atB claimsB)
    · rw [Function.update_of_ne isA] at atA
      by_cases isB : b = k
      · rw [isB, Function.update_self] at atB
        cases atB
        exact absurd claimsB (free a v' r isA atA claimsA)
      · rw [Function.update_of_ne isB] at atB
        exact exclusive a b v' w r atA atB claimsA claimsB

theorem exclusive_remove (exclusive : Exclusive claim m) :
    Exclusive claim (Function.update m k none) := by
  have held : ∀ a v, Function.update m k none a = some v → m a = some v := by
    intro a v at'
    by_cases same : a = k
    · rw [same, Function.update_self] at at'
      cases at'
    · rwa [Function.update_of_ne same] at at'
  intro a b v w r atA atB claimsA claimsB
  exact exclusive a b v w r (held a v atA) (held b w atB) claimsA claimsB

end ExclusiveMap

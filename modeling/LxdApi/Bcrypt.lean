import LxdApi.Library.UriReference
import LxdApi.Security

set_option autoImplicit false

/- What the program relies on of passlib with bcrypt, as assumptions on the context
   of `core/security.py`, and a context that satisfies them. -/
namespace LxdApi

def significant (plain : String) : List UInt8 := (UriReference.octets plain.toList).take 72

theorem significant_append {plain : String} (tail : String)
    (long : 72 ≤ (UriReference.octets plain.toList).length) :
    significant (plain ++ tail) = significant plain := by
  unfold significant
  rw [String.toList_append, UriReference.octets_append, List.take_append_of_le_length long]

def HasNul (plain : String) : Prop := '\x00' ∈ plain.toList

instance (plain : String) : Decidable (HasNul plain) :=
  inferInstanceAs (Decidable ('\x00' ∈ plain.toList))

theorem hasNul_append (p q : String) : HasNul (p ++ q) ↔ HasNul p ∨ HasNul q := by
  unfold HasNul
  rw [String.toList_append, List.mem_append]

structure RejectsNul (pwdContext : CryptContext) : Prop where
  refused_iff : ∀ salt plain, (∃ exc, pwdContext.hash salt plain = .error exc) ↔ HasNul plain

/- A hash says the salt and the significant octets, nothing else; a check hashes again
   under the salt that the stored hash says. -/
structure Bcrypt (pwdContext : CryptContext) : Prop extends RejectsNul pwdContext where
  determined : ∀ salt p q, ¬ HasNul p → ¬ HasNul q → significant p = significant q →
    pwdContext.hash salt p = pwdContext.hash salt q
  collisionFree : ∀ salt p q hashed, pwdContext.hash salt p = .ok hashed →
    pwdContext.hash salt q = .ok hashed → significant p = significant q
  checks : ∀ salt p q hashed, pwdContext.hash salt p = .ok hashed →
    pwdContext.verify q hashed =
      (pwdContext.hash salt q).map fun again => decide (again = hashed)

section Assumed
variable {pwdContext : CryptContext}

theorem RejectsNul.fine_of_ok (rejects : RejectsNul pwdContext) {salt plain hashed : String}
    (hash : pwdContext.hash salt plain = .ok hashed) : ¬ HasNul plain := by
  intro nul
  obtain ⟨exc, refused⟩ := (rejects.refused_iff salt plain).mpr nul
  rw [hash] at refused
  cases refused

theorem Bcrypt.verify_iff (bcrypt : Bcrypt pwdContext) {salt p q hashed : String}
    (hash : pwdContext.hash salt p = .ok hashed) :
    verifyPassword pwdContext q hashed = true ↔
      ¬ HasNul q ∧ significant p = significant q := by
  have fine := bcrypt.toRejectsNul.fine_of_ok hash
  unfold verifyPassword
  rw [bcrypt.checks salt p q hashed hash]
  constructor
  · intro same
    cases again : pwdContext.hash salt q with
    | error exc =>
      rw [again] at same
      cases same
    | ok other =>
      rw [again] at same
      have equal : other = hashed := of_decide_eq_true same
      rw [equal] at again
      exact ⟨bcrypt.toRejectsNul.fine_of_ok again,
        bcrypt.collisionFree salt p q hashed hash again⟩
  · intro agree
    obtain ⟨free, same⟩ := agree
    rw [← bcrypt.determined salt p q fine free same, hash]
    exact decide_eq_true rfl

end Assumed

def octetText (bytes : List UInt8) : String := String.ofList (bytes.map fun b => Char.ofNat b.toNat)

def prefixContext : CryptContext where
  hash _ plain :=
    if HasNul plain then .error "password may not contain NUL"
    else .ok ("$2b$" ++ octetText (significant plain))
  verify plain hashed :=
    if HasNul plain then .error "password may not contain NUL"
    else .ok (decide ("$2b$" ++ octetText (significant plain) = hashed))

theorem octetText_injective {a b : List UInt8} (same : octetText a = octetText b) : a = b := by
  have chars := String.ofList_injective same
  refine List.map_injective_iff.mpr ?_ chars
  intro x y equal
  have small : ∀ b : UInt8, (Char.ofNat b.toNat).toNat = b.toNat := by
    intro b
    have bound := b.toNat_lt
    have valid : b.toNat.isValidChar := Or.inl (by omega)
    rw [Char.ofNat, dif_pos valid]
    rfl
  have numbers := congrArg Char.toNat equal
  rw [small, small] at numbers
  exact UInt8.toNat_inj.mp numbers

theorem prefixContext_bcrypt : Bcrypt prefixContext where
  refused_iff := by
    intro salt plain
    unfold prefixContext
    by_cases nul : HasNul plain <;> simp [nul]
  determined := by
    intro salt p q fine free same
    simp [prefixContext, fine, free, same]
  collisionFree := by
    intro salt p q hashed first second
    by_cases nul : HasNul p
    · simp [prefixContext, nul] at first
    · by_cases other : HasNul q
      · simp [prefixContext, other] at second
      · simp only [prefixContext, nul, other, if_false, Except.ok.injEq] at first second
        rw [← first] at second
        exact (octetText_injective ((String.append_right_inj _).mp second)).symm
  checks := by
    intro salt p q hashed _
    by_cases nul : HasNul q <;> simp [prefixContext, nul, Except.map]

end LxdApi

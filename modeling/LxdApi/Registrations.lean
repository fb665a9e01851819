import LxdApi.Library.Machine
import LxdApi.UserPrograms
import LxdApi.PasswordLogins

set_option autoImplicit false

/- Registrations in any number at once: what each answers when its row is to be
   committed, and what it does to the table. -/
namespace LxdApi
open Interaction Program Machine

structure Registration where
  creds : Option String
  payload : UserCreate
  salt : String

section Registering
variable [Platform] {ι : Type} [DecidableEq ι] {pwdContext : CryptContext}
  {decodeToken : DecodeToken} {calls : ι → Registration}

abbrev Registrations (ι : Type) := Pool UserEffect UserEffect.Reply Raised UserOut UserStore ι

def registering (calls : ι → Registration) (db : UserStore) : Registrations ι :=
  ⟨db, fun i => registerProgram (calls i).creds (calls i).payload (calls i).salt⟩

def answerStatus : Program UserEffect UserEffect.Reply Raised UserOut → Option Int
  | .done _ => some 201
  | .raise exc => some exc.statusCode
  | .call _ _ => none

/-- The guard has admitted the caller, and the row is to be committed. -/
def AtCommit (calls : ι → Registration) (pool : Registrations ι) (i : ι) : Prop :=
  pool.threads i = registerBody (calls i).payload (calls i).salt

/- A step of a call: the answer 409 at the commit if and only if the name is taken, a new
   row with the answer 201 and otherwise an unchanged table. -/
structure AnswersRight (calls : ι → Registration) (i : ι) (pool after : Registrations ι) :
    Prop where
  conflict : AtCommit calls pool i →
    (answerStatus (after.threads i) = some 409 ↔ pool.shared.Taken (calls i).payload.username)
  unchanged : answerStatus (after.threads i) ≠ some 201 → after.shared = pool.shared
  added : AtCommit calls pool i → answerStatus (after.threads i) = some 201 →
    ∃ user, user.username = (calls i).payload.username ∧
      user.role = (calls i).payload.role.value ∧ after.shared.rows = pool.shared.rows ++ [user]

def Hashable (calls : ι → Registration) (pool : Registrations ι) (i : ι) : Prop :=
  AtCommit calls pool i →
    ¬ HasNul (calls i).payload.password ∨ pool.shared.Taken (calls i).payload.username

/- How far a call has come. -/
inductive CallPhase (calls : ι → Registration) (pool : Registrations ι) (i : ι) : Prop where
  | waiting (shape : pool.threads i =
      registerProgram (calls i).creds (calls i).payload (calls i).salt)
  | committing (shape : AtCommit calls pool i)
  | answered (ended : (pool.threads i).Ended)

omit [Platform] [DecidableEq ι] in
theorem not_atCommit_of_waiting {pool : Registrations ι} {i : ι}
    (waiting : pool.threads i =
      registerProgram (calls i).creds (calls i).payload (calls i).salt) :
    ¬ AtCommit calls pool i := by
  intro atCommit
  rw [AtCommit, waiting] at atCommit
  cases atCommit

omit [Platform] [DecidableEq ι] in
theorem not_atCommit_of_ended {pool : Registrations ι} {i : ι}
    (ended : (pool.threads i).Ended) : ¬ AtCommit calls pool i := by
  intro atCommit
  rw [AtCommit] at atCommit
  rw [atCommit] at ended
  exact ended

variable (pwdContext decodeToken) in
theorem step_waiting {pool : Registrations ι} {i : ι}
    (waiting : pool.threads i =
      registerProgram (calls i).creds (calls i).payload (calls i).salt) :
    (pool.step (UserStore.serve pwdContext decodeToken) i).shared = pool.shared ∧
      CallPhase calls (pool.step (UserStore.serve pwdContext decodeToken) i) i := by
  rw [Pool.step_of_call _ waiting]
  refine ⟨rfl, ?_⟩
  cases admitted : restGuard decodeToken pool.shared .ADMIN (calls i).creds with
  | error exc =>
    refine .answered ?_
    dsimp only
    rw [Function.update_self]
    simp only [UserStore.serve, admitted]
    trivial
  | ok admin =>
    refine .committing ?_
    unfold AtCommit
    dsimp only
    rw [Function.update_self]
    simp only [UserStore.serve, admitted]

variable (decodeToken) in
theorem step_committing (rejects : RejectsNul pwdContext) {pool : Registrations ι} {i : ι}
    (atCommit : AtCommit calls pool i) :
    ((HasNul (calls i).payload.password ∨ pool.shared.Taken (calls i).payload.username) ∧
      (pool.step (UserStore.serve pwdContext decodeToken) i).shared = pool.shared ∧
      ∃ exc, (pool.step (UserStore.serve pwdContext decodeToken) i).threads i =
        .raise (.http ⟨409, exc⟩)) ∨
    (¬ HasNul (calls i).payload.password ∧ ¬ pool.shared.Taken (calls i).payload.username ∧
      ∃ user out, user.username = (calls i).payload.username ∧
        user.role = (calls i).payload.role.value ∧
        (pool.step (UserStore.serve pwdContext decodeToken) i).shared.rows =
          pool.shared.rows ++ [user] ∧
        (pool.step (UserStore.serve pwdContext decodeToken) i).threads i = .done out) := by
  rw [Pool.step_of_call _ atCommit]
  dsimp only
  rw [Function.update_self]
  rcases pool.shared.createUser_cases pwdContext (calls i).payload.username
      (calls i).payload.password (calls i).payload.role.value (calls i).salt with
    ⟨exc, hash, refused⟩ | ⟨_, exc, _, taken, refused⟩ | ⟨hashed, after, hash, free, created, rows⟩
  · have nul := (rejects.refused_iff _ _).mp ⟨exc, hash⟩
    simp only [UserStore.serve, refused]
    exact Or.inl ⟨Or.inl nul, trivial, exc, rfl⟩
  · simp only [UserStore.serve, refused]
    exact Or.inl ⟨Or.inr taken, trivial, exc, rfl⟩
  · simp only [UserStore.serve, created, UserOut.modelValidate, Role.ofValue_value]
    exact Or.inr ⟨rejects.fine_of_ok hash, free, _, _, rfl, rfl, rows, rfl⟩

theorem phases_step (rejects : RejectsNul pwdContext) (pool : Registrations ι) (i : ι)
    (phases : ∀ j, CallPhase calls pool j) :
    ∀ j, CallPhase calls (pool.step (UserStore.serve pwdContext decodeToken) i) j := by
  intro j
  by_cases own : j = i
  · subst own
    cases phases j with
    | waiting shape => exact (step_waiting pwdContext decodeToken shape).2
    | committing shape =>
      rcases step_committing decodeToken rejects shape with
        ⟨_, _, exc, error⟩ | ⟨_, _, user, out, _, _, _, done⟩
      · exact .answered (by rw [error]; trivial)
      · exact .answered (by rw [done]; trivial)
    | answered ended =>
      exact .answered (by rw [Pool.step_keeps_ended _ ended]; exact ended)
  · have same : (pool.step (UserStore.serve pwdContext decodeToken) i).threads j =
        pool.threads j := Pool.step_other _ own
    cases phases j with
    | waiting shape => exact .waiting (same.trans shape)
    | committing shape => exact .committing (same.trans shape)
    | answered ended => exact .answered (by rw [same]; exact ended)

omit [Platform] [DecidableEq ι] in
theorem answersRight_elsewhere {pool after : Registrations ι} {i : ι}
    (elsewhere : ¬ AtCommit calls pool i) (same : after.shared = pool.shared) :
    AnswersRight calls i pool after ↔ Hashable calls pool i := by
  refine iff_of_true ⟨?_, fun _ => same, ?_⟩ ?_
  · intro now
    exact absurd now elsewhere
  · intro now
    exact absurd now elsewhere
  · intro now
    exact absurd now elsewhere

theorem answersRight_iff (rejects : RejectsNul pwdContext) (pool : Registrations ι) (i : ι)
    (phase : CallPhase calls pool i) :
    AnswersRight calls i pool (pool.step (UserStore.serve pwdContext decodeToken) i) ↔
      Hashable calls pool i := by
  cases phase with
  | waiting shape =>
    have same := (step_waiting pwdContext decodeToken shape).1
    exact answersRight_elsewhere (not_atCommit_of_waiting shape) same
  | committing shape =>
    rcases step_committing decodeToken rejects shape with
      ⟨refused, same, exc, error⟩ | ⟨fine, free, user, out, named, role, rows, done⟩
    · have status : answerStatus
          ((pool.step (UserStore.serve pwdContext decodeToken) i).threads i) = some 409 := by
        rw [error]
        rfl
      constructor
      · intro right _
        exact Or.inr ((right.conflict shape).mp status)
      · intro hashable
        have taken : pool.shared.Taken (calls i).payload.username := by
          rcases hashable shape with fine | taken
          · exact refused.resolve_left fine
          · exact taken
        refine ⟨fun _ => iff_of_true status taken, fun _ => same, ?_⟩
        intro _ created
        rw [status] at created
        cases created
    · have status : answerStatus
          ((pool.step (UserStore.serve pwdContext decodeToken) i).threads i) = some 201 := by
        rw [done]
        rfl
      refine iff_of_true ⟨?_, ?_, fun _ _ => ⟨user, named, role, rows⟩⟩ (fun _ => Or.inl fine)
      · intro _
        rw [status]
        exact iff_of_false (by decide) free
      · intro other
        exact absurd status other
  | answered ended =>
    have same := Pool.step_of_ended (UserStore.serve pwdContext decodeToken) ended
    rw [same]
    exact answersRight_elsewhere (not_atCommit_of_ended ended) rfl

/- In whatever order the round trips of the registrations are served: every step answers
   right exactly if no step commits a password with NUL under a free name. -/
theorem conflicts_reported_iff (rejects : RejectsNul pwdContext) (decodeToken : DecodeToken)
    (calls : ι → Registration) (db : UserStore) (schedule : List ι) :
    AtEach (Pool.step (UserStore.serve pwdContext decodeToken))
        (fun pool i => AnswersRight calls i pool
          (pool.step (UserStore.serve pwdContext decodeToken) i))
        (registering calls db) schedule ↔
      AtEach (Pool.step (UserStore.serve pwdContext decodeToken)) (Hashable calls)
        (registering calls db) schedule :=
  atEach_congr_of_invariant (phases_step rejects)
    (fun pool i phases => answersRight_iff rejects pool i (phases i))
    (fun _ => .waiting rfl) schedule

end Registering

def twice (payload : UserCreate) : Fin 2 → Registration := fun _ => ⟨some "t", payload, "salt"⟩

abbrev serveSeeded := @UserStore.serve plainPlatform prefixContext adminToken

theorem later_request_conflicts :
    AtEach (Pool.step serveSeeded)
      (fun pool i => AnswersRight (twice firstLong) i pool (pool.step serveSeeded i))
      (registering (twice firstLong) seededStore) [0, 1, 1, 0] := by
  have fine : ¬ HasNul firstLong.password := by decide
  refine (@conflicts_reported_iff plainPlatform _ _ _ prefixContext_bcrypt.toRejectsNul adminToken
    (twice firstLong) seededStore [0, 1, 1, 0]).mpr ?_
  exact ⟨fun _ => Or.inl fine, fun _ => Or.inl fine, fun _ => Or.inl fine, fun _ => Or.inl fine,
    trivial⟩

/-- A password with NUL is answered with 409 although the name is free. -/
theorem nul_password_conflicts :
    ¬ AtEach (Pool.step serveSeeded)
      (fun pool i => AnswersRight (twice nulPassword) i pool (pool.step serveSeeded i))
      (registering (twice nulPassword) seededStore) [0, 0] := by
  intro right
  have taken := (right.2.1.conflict rfl).mp rfl
  revert taken
  decide

end LxdApi

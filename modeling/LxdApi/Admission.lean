import LxdApi.AuthRoutes
import LxdApi.Catalogue

set_option autoImplicit false

/- The REST guard and the WebSocket gates admit the same callers, because no user
   that seeding or registration creates has the empty name. -/
namespace LxdApi
open Interaction

section Stores
variable [Platform] (pwdContext : CryptContext)

/-- The tables that arise from the empty one by seeding and registration. -/
inductive ReachableStore : UserStore → Prop where
  | empty : ReachableStore .empty
  | seed {db after : UserStore} (settings : Settings) (salt : String)
      (before : ReachableStore db) (seeded : seedAdmin settings pwdContext db salt = .ok after) :
      ReachableStore after
  | register {db : UserStore} (decodeToken : DecodeToken) (creds : Option String)
      (payload : UserCreate) (salt : String) (before : ReachableStore db) :
      ReachableStore (register pwdContext decodeToken db creds payload salt).2

end Stores

theorem userCreate_named (payload : UserCreate) : payload.username ≠ "" := by
  intro blank
  have length := payload.usernameLength.1
  rw [blank] at length
  simp at length

def Effect.contactsLxd : Effect → Prop
  | .lxd _ => True
  | .connect _ => True
  | _ => False

theorem accepting_runs {admitted : Except Nat User} {body : Handler Answer}
    {trace : List (Event Effect Effect.Reply)} {outcome : Except Raised Answer}
    (run : (accepting admitted body).Runs trace outcome) :
    (∃ code, admitted = .error code ∧ trace = [⟨.close code, ()⟩]) ∨
    ∃ user rest, admitted = .ok user ∧ trace = ⟨.accept, ()⟩ :: rest := by
  cases admitted with
  | error code =>
    obtain ⟨_, tail, shape, rest⟩ := (Program.runs_call_iff _ _ _ _).mp run
    rw [((Program.runs_done_iff _ _ _).mp rest).1] at shape
    exact Or.inl ⟨code, rfl, shape⟩
  | ok user =>
    obtain ⟨_, tail, shape, _⟩ := (Program.runs_call_iff _ _ _ _).mp run
    exact Or.inr ⟨user, tail, rfl, shape⟩

theorem accepted_iff {admitted : Except Nat User} {body : Handler Answer}
    {trace : List (Event Effect Effect.Reply)} {outcome : Except Raised Answer}
    (run : (accepting admitted body).Runs trace outcome) :
    (∃ event ∈ trace, event.call = .accept) ↔ ∃ user, admitted = .ok user := by
  rcases accepting_runs run with ⟨code, refused, shape⟩ | ⟨user, rest, accepted, shape⟩
  · simp [refused, shape]
  · simp [accepted, shape]

theorem guarded_runs {admitted : Except HTTPException User} {body : Handler Answer}
    {trace : List (Event Effect Effect.Reply)} {outcome : Except Raised Answer}
    (run : (guarded admitted body).Runs trace outcome) :
    trace = [] ∨ ∃ user, admitted = .ok user := by
  cases admitted with
  | error exc => exact Or.inl ((Program.runs_raise_iff _ _ _).mp run).1
  | ok user => exact Or.inr ⟨user, rfl⟩

section Gates
variable [Platform] {pwdContext : CryptContext}

theorem register_rows (decodeToken : DecodeToken) (db : UserStore) (creds : Option String)
    (payload : UserCreate) (salt : String) :
    (register pwdContext decodeToken db creds payload salt).2 = db ∨
      ∃ admin hashed, restGuard decodeToken db .ADMIN creds = .ok admin ∧
        pwdContext.hash salt payload.password = .ok hashed ∧
        (register pwdContext decodeToken db creds payload salt).2.rows =
          db.rows ++ [⟨db.nextId, payload.username, hashed, payload.role.value, true⟩] := by
  unfold register
  split
  · exact Or.inl rfl
  · rename_i admin admitted
    split
    · exact Or.inl rfl
    · rename_i user after created
      obtain ⟨hashed, hash, shape, rows⟩ := UserStore.createUser_ok created
      rw [shape] at rows
      exact Or.inr ⟨admin, hashed, admitted, hash, rows⟩

theorem reachable_named {db : UserStore} (reachable : ReachableStore pwdContext db) :
    ∀ user ∈ db.rows, user.username ≠ "" := by
  induction reachable with
  | empty =>
    intro user member
    cases member
  | seed settings salt before seeded ih =>
    rcases seedAdmin_ok seeded with same | ⟨admin, _, named, _, rows⟩
    · rw [same]; exact ih
    · intro user member
      rw [rows, List.mem_append, List.mem_singleton] at member
      rcases member with old | new
      · exact ih user old
      · rw [new]; exact named
  | register decodeToken creds payload salt before ih =>
    rcases register_rows decodeToken _ creds payload salt with same | ⟨_, hashed, _, _, rows⟩
    · rw [same]; exact ih
    · intro user member
      rw [rows, List.mem_append, List.mem_singleton] at member
      rcases member with old | new
      · exact ih user old
      · rw [new]; exact userCreate_named payload

theorem gates_agree {db : UserStore} (named : ∀ user ∈ db.rows, user.username ≠ "")
    (decodeToken : DecodeToken) (role : Role) (token : Option String) (user : User) :
    restGuard decodeToken db role token = .ok user ↔
      wsGate decodeToken db role token = .ok user := by
  cases token with
  | none =>
    rw [restGuard_ok_iff, getCurrentUser_ok_iff, wsGate_ok_iff]
    simp
  | some token => rw [restGuard_iff_admits named, wsGate_iff_admits named]

/-- No handler reaches LXD before its guard has admitted the caller, a WebSocket
    handler not before it has accepted the handshake. -/
theorem lxd_after_admission {db : UserStore} (named : ∀ user ∈ db.rows, user.username ≠ "")
    {decodeToken : DecodeToken} {lxd : LXDClient} {call : Call} {role : Role}
    (declared : call.guard = .rest role ∨ call.guard = .ws role) {token : Option String}
    {trace : List (Event Effect Effect.Reply)} {outcome : Except Raised Answer}
    (run : (call.serve decodeToken db lxd token).Runs trace outcome)
    {before after : List (Event Effect Effect.Reply)} {event : Event Effect Effect.Reply}
    (shape : trace = before ++ event :: after) (contact : event.call.contactsLxd) :
    (∃ user, restGuard decodeToken db role token = .ok user) ∧
      (call.guard = .ws role → ∃ first ∈ before, first.call = .accept) := by
  rcases declared with rest | ws
  · rw [Call.serve, rest] at run
    rcases guarded_runs run with empty | admitted
    · rw [shape] at empty
      simp at empty
    · exact ⟨admitted, by simp [rest]⟩
  · rw [Call.serve, ws] at run
    rcases accepting_runs run with ⟨code, _, closed⟩ | ⟨user, tail, admitted, opened⟩
    · have only : event.call = .close code := by
        have member : event ∈ trace := by simp [shape]
        rw [closed, List.mem_singleton] at member
        rw [member]
      rw [only] at contact
      exact contact.elim
    · constructor
      · exact ⟨user, (gates_agree named decodeToken role token user).mpr admitted⟩
      · intro _
        cases before with
        | nil =>
          rw [opened, List.nil_append, List.cons.injEq] at shape
          rw [← shape.1] at contact
          exact contact.elim
        | cons first rest =>
          rw [opened, List.cons_append, List.cons.injEq] at shape
          exact ⟨first, by simp, by rw [← shape.1]⟩

end Gates

/- Over every table that seeding and registration reach: both gates admit the same
   tokens as the same user, a handshake is accepted exactly for an admitted token,
   and LXD is not contacted before. -/
theorem rest_and_ws_admission_agree [Platform] {pwdContext : CryptContext} {db : UserStore}
    (reachable : ReachableStore pwdContext db) (decodeToken : DecodeToken) (lxd : LXDClient) :
    (∀ role token user, restGuard decodeToken db role token = .ok user ↔
      wsGate decodeToken db role token = .ok user) ∧
    (∀ (call : Call) role token trace outcome, call.guard = .ws role →
      (call.serve decodeToken db lxd token).Runs trace outcome →
      ((∃ event ∈ trace, event.call = .accept) ↔
        ∃ user, restGuard decodeToken db role token = .ok user)) ∧
    ∀ (call : Call) role token trace outcome,
      (call.guard = .rest role ∨ call.guard = .ws role) →
      (call.serve decodeToken db lxd token).Runs trace outcome →
      ∀ before event after, trace = before ++ event :: after → event.call.contactsLxd →
        (∃ user, restGuard decodeToken db role token = .ok user) ∧
          (call.guard = .ws role → ∃ first ∈ before, first.call = .accept) := by
  have named := reachable_named reachable
  refine ⟨gates_agree named decodeToken, ?_, ?_⟩
  · intro call role token trace outcome ws run
    rw [Call.serve, ws] at run
    rw [accepted_iff run]
    constructor
    · intro h
      obtain ⟨user, admitted⟩ := h
      exact ⟨user, (gates_agree named decodeToken role token user).mpr admitted⟩
    · intro h
      obtain ⟨user, admitted⟩ := h
      exact ⟨user, (gates_agree named decodeToken role token user).mp admitted⟩
  · intro call role token trace outcome declared run before event after shape contact
    exact lxd_after_admission named declared run shape contact

def seedSettings : Settings :=
  { SEED_ADMIN_USERNAME := " admin ", SEED_ADMIN_PASSWORD := "correct horse" }

def seededAdmin : User := ⟨1, "admin", "$2b$correct horse", "admin", true⟩

def seededStore : UserStore := ⟨[seededAdmin], by simp⟩

theorem seededStore_seeded :
    @seedAdmin plainPlatform seedSettings plainContext .empty "salt" = .ok seededStore := rfl

theorem seededStore_reachable : @ReachableStore plainPlatform plainContext seededStore :=
  @ReachableStore.seed plainPlatform _ _ _ seedSettings "salt" (@ReachableStore.empty plainPlatform _)
    seededStore_seeded

def adminToken : DecodeToken := fun token =>
  if token = "t" then .ok (accessClaims {} 0 "admin" "admin") else .error "Not enough segments"

theorem seeded_admin_admission :
    @restGuard plainPlatform adminToken seededStore .OPERATOR (some "t") = .ok seededAdmin ∧
    @wsGate plainPlatform adminToken seededStore .OPERATOR (some "t") = .ok seededAdmin ∧
    ∀ user, @wsGate plainPlatform adminToken seededStore .OPERATOR (some "u") ≠ .ok user := by
  have agree := (@rest_and_ws_admission_agree plainPlatform _ _ seededStore_reachable adminToken
    ⟨{}⟩).1 .OPERATOR
  have admitted : @restGuard plainPlatform adminToken seededStore .OPERATOR (some "t") =
      .ok seededAdmin := rfl
  have refused : @restGuard plainPlatform adminToken seededStore .OPERATOR (some "u") =
      .error unauthorized := rfl
  refine ⟨admitted, (agree (some "t") seededAdmin).mp admitted, ?_⟩
  intro user accepted
  have both := (agree (some "u") user).mpr accepted
  rw [refused] at both
  cases both

end LxdApi

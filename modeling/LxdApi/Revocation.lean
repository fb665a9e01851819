import LxdApi.Admission
import LxdApi.Credentials

set_option autoImplicit false

/- Roles and active flags are read from the table at each call, whatever the token
   that is presented says. -/
namespace LxdApi
open Machine

/-- What happens to the service: a call, or an edit of the table behind its back. -/
inductive Happening where
  | request (request : Request)
  | edit (username : String) (role : Option String) (isActive : Option Bool)

def User.edited (user : User) (role : Option String) (isActive : Option Bool) : User :=
  { user with role := role.getD user.role, isActive := isActive.getD user.isActive }

def UserStore.edit (db : UserStore) (username : String) (role : Option String)
    (isActive : Option Bool) : UserStore where
  rows := db.rows.map fun user =>
    if user.username = username then user.edited role isActive else user
  unique := by
    have names : (db.rows.map fun user =>
        if user.username = username then user.edited role isActive else user).map User.username =
        db.rows.map User.username := by
      rw [List.map_map]
      apply List.map_congr_left
      intro user _
      dsimp only [Function.comp]
      split <;> rfl
    rw [names]
    exact db.unique

section Happenings
variable [Platform] (settings : Settings) (pwdContext : CryptContext) (jose : Jose)

def serveOrEdit (server : Server) : Happening → Option Response × Server
  | .request request =>
      (some (serve settings pwdContext jose server request).1,
        (serve settings pwdContext jose server request).2)
  | .edit username role isActive =>
      (none, { server with db := server.db.edit username role isActive })

end Happenings

def Request.requires : Request → Role
  | .rest role _ => role
  | .ws role _ => role
  | .register _ _ _ => .ADMIN
  | .listUsers _ => .ADMIN
  | _ => .VIEWER

def Request.token : Request → Option String
  | .rest _ creds => creds
  | .ws _ token => token
  | .register creds _ _ => creds
  | .listUsers creds => creds
  | .me creds => creds
  | _ => none

def Request.Admits [Platform] (request : Request) (decodeToken : DecodeToken) (db : UserStore)
    (user : User) : Prop :=
  match request with
  | .rest role creds => restGuard decodeToken db role creds = .ok user
  | .ws role token => wsGate decodeToken db role token = .ok user
  | .register creds _ _ => restGuard decodeToken db .ADMIN creds = .ok user
  | .listUsers creds => restGuard decodeToken db .ADMIN creds = .ok user
  | .me creds => getCurrentUser decodeToken db creds = .ok user
  | _ => False

def Response.passed : Response → Prop
  | .admitted _ => True
  | .user _ => True
  | .users _ => True
  | _ => False

/-- The row that a token stands for, as the table has it now. -/
structure CallerRow (decodeToken : DecodeToken) (db : UserStore) (token : Option String)
    (user : User) : Prop where
  claims : ∃ text payload, token = some text ∧ decodeToken text = .ok payload ∧
    payload.hasType .access = true ∧ payload.sub?.getD "" = user.username
  member : user ∈ db.rows
  active : user.isActive = true

section Gates
variable [Platform] {decodeToken : DecodeToken} {db : UserStore}

theorem callerRow_of_current {creds : Option String} {user : User}
    (current : getCurrentUser decodeToken db creds = .ok user) :
    CallerRow decodeToken db creds user := by
  obtain ⟨token, payload, name, same, _, decoded, access, sub, _, found, active⟩ :=
    (getCurrentUser_ok_iff _ _).mp current
  obtain ⟨member, named⟩ := (db.getUserByUsername_eq_some_iff name user).mp found
  exact ⟨⟨token, payload, same, decoded, access, by rw [sub, named, Option.getD_some]⟩,
    member, active⟩

theorem callerRow_of_rest {role : Role} {creds : Option String} {user : User}
    (admitted : restGuard decodeToken db role creds = .ok user) :
    CallerRow decodeToken db creds user ∧ (Role.orViewer user.role).atLeast role = true := by
  obtain ⟨current, enough⟩ := (restGuard_ok_iff _ _ _).mp admitted
  exact ⟨callerRow_of_current current, enough⟩

theorem callerRow_of_ws {role : Role} {token : Option String} {user : User}
    (admitted : wsGate decodeToken db role token = .ok user) :
    CallerRow decodeToken db token user ∧ (Role.orViewer user.role).atLeast role = true := by
  obtain ⟨text, same, _, resolved, enough⟩ := (wsGate_ok_iff _ _ _).mp admitted
  obtain ⟨payload, decoded, access, found, active⟩ := (wsUserFromToken_ok_iff _ _).mp resolved
  obtain ⟨member, named⟩ := (db.getUserByUsername_eq_some_iff _ user).mp found
  exact ⟨⟨⟨text, payload, same, decoded, access, named.symm⟩, member, active⟩, enough⟩

theorem callerRow_of_admits {request : Request} {user : User}
    (admitted : request.Admits decodeToken db user) :
    CallerRow decodeToken db request.token user ∧
      (Role.orViewer user.role).atLeast request.requires = true := by
  cases request with
  | rest role creds => exact callerRow_of_rest admitted
  | ws role token => exact callerRow_of_ws admitted
  | register creds payload salt => exact callerRow_of_rest admitted
  | listUsers creds => exact callerRow_of_rest admitted
  | me creds => exact ⟨callerRow_of_current admitted, Role.viewer_of_everyone _⟩
  | login username password => exact admitted.elim
  | refresh token => exact admitted.elim
  | tick seconds => exact admitted.elim

theorem admits_of_passed {settings : Settings} {pwdContext : CryptContext} {jose : Jose}
    {server : Server} {request : Request}
    (passed : (serve settings pwdContext jose server request).1.passed) :
    ∃ user, request.Admits (server.decodeToken jose) server.db user := by
  cases request with
  | rest role creds =>
    simp only [serve] at passed
    simp only [Request.Admits]
    cases guard : restGuard (server.decodeToken jose) server.db role creds with
    | error exc => rw [guard] at passed; exact passed.elim
    | ok user => exact ⟨user, rfl⟩
  | ws role token =>
    simp only [serve] at passed
    simp only [Request.Admits]
    cases gate : wsGate (server.decodeToken jose) server.db role token with
    | error code => rw [gate] at passed; exact passed.elim
    | ok user => exact ⟨user, rfl⟩
  | register creds payload salt =>
    simp only [serve, register] at passed
    simp only [Request.Admits]
    cases guard : restGuard (server.decodeToken jose) server.db .ADMIN creds with
    | error exc => rw [guard] at passed; exact passed.elim
    | ok user => exact ⟨user, rfl⟩
  | listUsers creds =>
    simp only [serve, listUsers] at passed
    simp only [Request.Admits]
    cases guard : restGuard (server.decodeToken jose) server.db .ADMIN creds with
    | error exc => rw [guard] at passed; exact passed.elim
    | ok user => exact ⟨user, rfl⟩
  | me creds =>
    simp only [serve, me] at passed
    simp only [Request.Admits]
    cases current : getCurrentUser (server.decodeToken jose) server.db creds with
    | error exc => rw [current] at passed; exact passed.elim
    | ok user => exact ⟨user, rfl⟩
  | login username password =>
    simp only [serve, Server.issue] at passed
    split at passed <;> exact passed.elim
  | refresh token =>
    simp only [serve, Server.issue] at passed
    split at passed <;> exact passed.elim
  | tick seconds => exact passed.elim

theorem refreshed_row {settings : Settings} {pwdContext : CryptContext} {jose : Jose}
    {server : Server} {token : String} {pair : TokenPair}
    (minted : (serve settings pwdContext jose server (.refresh token)).1 = .tokens pair) :
    ∃ payload row, server.decodeToken jose token = .ok payload ∧
      payload.hasType .refresh = true ∧ payload.sub?.getD "" = row.username ∧
      row ∈ server.db.rows ∧ row.isActive = true ∧ pair = makeTokenPair settings server.now row := by
  simp only [serve, Server.issue, refresh] at minted
  cases exchanged : refreshUser (server.decodeToken jose) server.db token with
  | error exc => rw [exchanged] at minted; cases minted
  | ok row =>
    rw [exchanged] at minted
    cases minted
    obtain ⟨payload, decoded, kind, ⟨member, named⟩, active⟩ :=
      (refreshUser_ok_iff _ _ _ _).mp exchanged
    exact ⟨payload, row, decoded, kind, named.symm, member, active, rfl⟩

theorem getCurrentUser_of_subject {token : String} {payload : Claims} (given : token ≠ "")
    (decoded : decodeToken token = .ok payload) (access : payload.hasType .access = true) :
    getCurrentUser decodeToken db (some token) =
      match payload.sub? with
      | some name =>
          if name ≠ "" then activeUser (db.getUserByUsername name) unauthorized
          else .error unauthorized
      | none => .error unauthorized := by
  simp only [getCurrentUser, given, if_false, decoded, access, if_true, Json.get, payload.get?_sub]
  cases payload.sub? <;> simp

theorem wsUserFromToken_of_subject {token : String} {payload : Claims}
    (decoded : decodeToken token = .ok payload) (access : payload.hasType .access = true) :
    wsUserFromToken decodeToken db token =
      activeUser (db.getUserByUsername (payload.sub?.getD "")) unauthorized := by
  simp only [wsUserFromToken, decoded, access, if_true, payload.get?_sub]
  cases payload.sub? <;> rfl

end Gates

/-- Every guard of the service decides the same for both tokens. -/
structure SameDecisions [Platform] (decodeToken : DecodeToken) (db : UserStore)
    (first second : String) : Prop where
  current : getCurrentUser decodeToken db (some first) = getCurrentUser decodeToken db (some second)
  rest : ∀ role, restGuard decodeToken db role (some first) =
    restGuard decodeToken db role (some second)
  ws : ∀ role, wsGate decodeToken db role (some first) = wsGate decodeToken db role (some second)
  refresh : refreshUser decodeToken db first = refreshUser decodeToken db second
  serve : ∀ (lxd : LXDClient) (call : Call),
    call.serve decodeToken db lxd (some first) = call.serve decodeToken db lxd (some second)

theorem same_decisions [Platform] {decodeToken : DecodeToken} {db : UserStore}
    {first second : String} {one two : Claims} (given : first ≠ "" ∧ second ≠ "")
    (decoded : decodeToken first = .ok one ∧ decodeToken second = .ok two)
    (access : one.hasType .access = true ∧ two.hasType .access = true)
    (subject : one.sub? = two.sub?) : SameDecisions decodeToken db first second := by
  have current : getCurrentUser decodeToken db (some first) =
      getCurrentUser decodeToken db (some second) := by
    rw [getCurrentUser_of_subject given.1 decoded.1 access.1,
      getCurrentUser_of_subject given.2 decoded.2 access.2, subject]
  have rest : ∀ role, restGuard decodeToken db role (some first) =
      restGuard decodeToken db role (some second) := by
    intro role
    simp only [restGuard, current]
  have ws : ∀ role, wsGate decodeToken db role (some first) =
      wsGate decodeToken db role (some second) := by
    intro role
    simp only [wsGate, given.1, given.2, if_false,
      wsUserFromToken_of_subject decoded.1 access.1,
      wsUserFromToken_of_subject decoded.2 access.2, subject]
  have refused : ∀ token payload, decodeToken token = .ok payload →
      payload.hasType .access = true →
      refreshUser decodeToken db token = .error ⟨401, "Refresh token required"⟩ := by
    intro token payload decoded access
    simp [refreshUser, decoded, Claims.hasType_exclusive access]
  refine ⟨current, rest, ws, ?_, ?_⟩
  · rw [refused first one decoded.1 access.1, refused second two decoded.2 access.2]
  · intro lxd call
    unfold Call.serve
    split
    · rfl
    · rw [rest]
    · rw [ws]

/- In every run of calls and edits: a guarded call is answered only when its guard
   lets it pass, which it does only for a row that is active at that step and whose
   role then suffices; tokens are exchanged only for a row that is active at that
   step; and all guards decide alike for access tokens of one subject. -/
theorem revocation_is_immediate [Platform] (settings : Settings) (pwdContext : CryptContext)
    (jose : Jose) (start : Server) (happenings : List Happening) :
    (∀ e ∈ record (serveOrEdit settings pwdContext jose) start happenings,
      ∀ request, e.input = .request request →
        ((∃ response, e.output = some response ∧ response.passed) →
          ∃ user, request.Admits (e.before.decodeToken jose) e.before.db user) ∧
        ∀ user, request.Admits (e.before.decodeToken jose) e.before.db user →
          CallerRow (e.before.decodeToken jose) e.before.db request.token user ∧
            (Role.orViewer user.role).atLeast request.requires = true) ∧
    (∀ e ∈ record (serveOrEdit settings pwdContext jose) start happenings,
      ∀ token pair, e.input = .request (.refresh token) → e.output = some (.tokens pair) →
        ∃ payload row, e.before.decodeToken jose token = .ok payload ∧
          payload.hasType .refresh = true ∧ payload.sub?.getD "" = row.username ∧
          row ∈ e.before.db.rows ∧ row.isActive = true ∧
          pair = makeTokenPair settings e.before.now row) ∧
    ∀ (decodeToken : DecodeToken) db first second one two, first ≠ "" ∧ second ≠ "" →
      decodeToken first = .ok one ∧ decodeToken second = .ok two →
      one.hasType .access = true ∧ two.hasType .access = true → one.sub? = two.sub? →
      SameDecisions decodeToken db first second := by
  refine ⟨?_, ?_, fun decodeToken db first second one two => same_decisions⟩
  · intro e member request same
    obtain ⟨server, happening, shape⟩ := step_of_mem_record _ member
    subst shape
    change happening = .request request at same
    subst same
    refine ⟨?_, fun user => callerRow_of_admits⟩
    intro h
    obtain ⟨response, given, passed⟩ := h
    cases given
    exact admits_of_passed passed
  · intro e member token pair same minted
    obtain ⟨server, happening, shape⟩ := step_of_mem_record _ member
    subst shape
    change happening = .request (.refresh token) at same
    subst same
    exact refreshed_row (Option.some.inj minted)

/-- The first token still says `admin`, the second does not, and the row no longer. -/
def staleAdmin : DecodeToken := fun token =>
  if token = "stale" then .ok (accessClaims {} 0 "admin" "admin")
  else .ok (accessClaims {} 60 "admin" "viewer")

/-- After the demotion of the admin, the stale token opens no more than a fresh one. -/
theorem demoted_admin_refused :
    @SameDecisions plainPlatform staleAdmin (seededStore.edit "admin" (some "viewer") none)
      "stale" "fresh" ∧
    ∀ user, @restGuard plainPlatform staleAdmin
      (seededStore.edit "admin" (some "viewer") none) .OPERATOR (some "stale") ≠ .ok user := by
  have same := (@revocation_is_immediate plainPlatform seedSettings plainContext plainJose
    ⟨seededStore, [], 0⟩ []).2.2 staleAdmin (seededStore.edit "admin" (some "viewer") none)
    "stale" "fresh" _ _ (by decide) ⟨rfl, rfl⟩ (by simp) (by simp)
  have refused : @restGuard plainPlatform staleAdmin
      (seededStore.edit "admin" (some "viewer") none) .OPERATOR (some "fresh") =
        .error ⟨403, "Role 'operator' or higher required"⟩ := rfl
  constructor
  · exact same
  · intro user accepted
    have both := (@SameDecisions.rest plainPlatform _ _ _ _ same .OPERATOR).symm.trans accepted
    rw [refused] at both
    cases both

end LxdApi

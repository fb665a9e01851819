import LxdApi.Admission
import LxdApi.Credentials

set_option autoImplicit false

/- Where tokens and user rows come from, over runs of any length. -/
namespace LxdApi
open Machine

abbrev Log := List (Entry Server Request Response)

section Provenance
variable (pwdContext : CryptContext) (jose : Jose)

def VerifiesExactly : Prop :=
  ∀ salt plain hashed, pwdContext.hash salt plain = .ok hashed →
    ∀ given, verifyPassword pwdContext given hashed = true ↔ given = plain

def PasswordOf (row : User) (password : String) : Prop :=
  ∃ salt, pwdContext.hash salt password = .ok row.hashedPassword

/- The token with these claims was handed out for `u` by a login with the password
   of `u`, or in exchange for an older token that descends from such a login. -/
inductive Descends (past : Log) (u : String) : Claims → Prop where
  | login {e : Entry Server Request Response} {pair : TokenPair} {claims : Claims}
      {row : User} {password : String} (member : e ∈ past)
      (input : e.input = .login u password) (known : row ∈ e.before.db.rows)
      (named : row.username = u) (presented : PasswordOf pwdContext row password)
      (output : e.output = .tokens pair) (given : claims ∈ pair.claims) :
      Descends past u claims
  | refresh {e : Entry Server Request Response} {pair : TokenPair} {parent claims : Claims}
      (member : e ∈ past) (input : e.input = .refresh (jose.sign parent.fields))
      (older : parent ∈ e.before.minted) (descends : Descends past u parent)
      (output : e.output = .tokens pair) (given : claims ∈ pair.claims) :
      Descends past u claims

end Provenance

theorem Descends.mono {pwdContext : CryptContext} {jose : Jose} {past more : Log} {u : String}
    {claims : Claims} (descends : Descends pwdContext jose past u claims) :
    Descends pwdContext jose (past ++ more) u claims := by
  induction descends with
  | login member input known named presented output given =>
    exact .login (List.mem_append_left _ member) input known named presented output given
  | refresh member input older descends output given ih =>
    exact .refresh (List.mem_append_left _ member) input older ih output given

theorem issued_claims {settings : Settings} {now : Int} {user : User} {claims : Claims}
    (given : claims ∈ (makeTokenPair settings now user).claims) :
    claims.sub? = some user.username := by
  simp only [makeTokenPair, TokenPair.claims, List.mem_cons, List.not_mem_nil, or_false] at given
  rcases given with access | refresh
  · subst access; simp
  · subst refresh; simp

section Provenance
variable [Platform] (settings : Settings) (pwdContext : CryptContext) (jose : Jose)

def Registered (past : Log) (row : User) : Prop :=
  ∃ e ∈ past, ∃ creds payload salt admin, e.input = .register creds payload salt ∧
    restGuard (e.before.decodeToken jose) e.before.db .ADMIN creds = .ok admin ∧
    (admin ∈ e.before.db.rows ∧ admin.isActive = true ∧ admin.role = Role.ADMIN.value) ∧
    row.username = payload.username ∧ row.role = payload.role.value ∧
    e.output = .user ⟨row.id, row.username, payload.role, row.isActive⟩

/- Everything one call can do to the rows and to the minted tokens. -/
inductive Served (server : Server) : Request → Response → Server → Prop where
  | kept {request : Request} {response : Response} {after : Server}
      (rows : after.db = server.db) (tokens : after.minted = server.minted) :
      Served server request response after
  | login {username password : String} {user : User}
      (authentic : authenticate pwdContext server.db username password = .ok user) :
      Served server (.login username password)
        (.tokens (makeTokenPair settings server.now user))
        { server with
          minted := server.minted ++ (makeTokenPair settings server.now user).claims }
  | refresh {token : String} {user : User}
      (exchanged : refreshUser (server.decodeToken jose) server.db token = .ok user) :
      Served server (.refresh token) (.tokens (makeTokenPair settings server.now user))
        { server with
          minted := server.minted ++ (makeTokenPair settings server.now user).claims }
  | register {creds : Option String} {payload : UserCreate} {salt hashed : String}
      {admin row : User} {after : Server}
      (admitted : restGuard (server.decodeToken jose) server.db .ADMIN creds = .ok admin)
      (hash : pwdContext.hash salt payload.password = .ok hashed)
      (shape : row = ⟨server.db.nextId, payload.username, hashed, payload.role.value, true⟩)
      (rows : after.db.rows = server.db.rows ++ [row])
      (tokens : after.minted = server.minted) :
      Served server (.register creds payload salt)
        (.user ⟨row.id, row.username, payload.role, row.isActive⟩) after

theorem issue_served {server : Server} {found : Except HTTPException User}
    {request : Request}
    (granted : ∀ user, found = .ok user →
      Served settings pwdContext jose server request
        (.tokens (makeTokenPair settings server.now user))
        { server with
          minted := server.minted ++ (makeTokenPair settings server.now user).claims }) :
    Served settings pwdContext jose server request
      (server.issue (found.map (makeTokenPair settings server.now))).1
      (server.issue (found.map (makeTokenPair settings server.now))).2 := by
  cases found with
  | error exc => exact .kept rfl rfl
  | ok user => exact granted user rfl

theorem register_served (server : Server) (creds : Option String) (payload : UserCreate)
    (salt : String) :
    Served settings pwdContext jose server (.register creds payload salt)
      (serve settings pwdContext jose server (.register creds payload salt)).1
      (serve settings pwdContext jose server (.register creds payload salt)).2 := by
  simp only [serve, register]
  split
  · exact .kept rfl rfl
  · rename_i admin admitted
    split
    · exact .kept rfl rfl
    · rename_i user after created
      obtain ⟨hashed, hash, shape, rows⟩ := UserStore.createUser_ok created
      have out : UserOut.modelValidate user =
          .ok ⟨user.id, user.username, payload.role, user.isActive⟩ := by
        rw [shape]
        simp [UserOut.modelValidate]
      simp only [out, Response.ofExcept]
      exact .register admitted hash shape rows rfl

theorem serve_served (server : Server) (request : Request) :
    Served settings pwdContext jose server request
      (serve settings pwdContext jose server request).1
      (serve settings pwdContext jose server request).2 := by
  cases request with
  | login username password =>
    exact issue_served settings pwdContext jose fun user found => .login found
  | refresh token => exact issue_served settings pwdContext jose fun user found => .refresh found
  | register creds payload salt => exact register_served settings pwdContext jose server creds payload salt
  | me creds => exact .kept rfl rfl
  | listUsers creds => exact .kept rfl rfl
  | rest role creds => exact .kept rfl rfl
  | ws role token =>
    simp only [serve]
    split <;> exact .kept rfl rfl
  | tick seconds => exact .kept rfl rfl

theorem rows_kept (server : Server) (request : Request) :
    server.db.rows <+: (serve settings pwdContext jose server request).2.db.rows := by
  have served := serve_served settings pwdContext jose server request
  generalize (serve settings pwdContext jose server request).1 = response at *
  generalize (serve settings pwdContext jose server request).2 = after at *
  cases served with
  | kept rows tokens => exact rows ▸ List.prefix_rfl
  | login authentic => exact List.prefix_rfl
  | refresh exchanged => exact List.prefix_rfl
  | register admitted hash shape rows tokens =>
    rw [rows]
    exact List.prefix_append _ _

end Provenance

section Provenance
variable [Platform] {settings : Settings} {pwdContext : CryptContext} {jose : Jose}

theorem Registered.mono {past more : Log} {row : User} (registered : Registered jose past row) :
    Registered jose (past ++ more) row := by
  obtain ⟨e, member, rest⟩ := registered
  exact ⟨e, List.mem_append_left _ member, rest⟩

structure Traced (pwdContext : CryptContext) (jose : Jose) (seed : User) (past : Log)
    (server : Server) : Prop where
  hashed : ∀ row ∈ server.db.rows, ∃ password, PasswordOf pwdContext row password
  minted : ∀ claims ∈ server.minted, ∃ u, claims.sub? = some u ∧
    Descends pwdContext jose past u claims
  created : ∀ row ∈ server.db.rows, row = seed ∨ Registered jose past row

theorem Traced.extend {seed : User} {past : Log} {server : Server}
    (traced : Traced pwdContext jose seed past server) (more : Log) :
    Traced pwdContext jose seed (past ++ more) server where
  hashed := traced.hashed
  minted claims member := by
    obtain ⟨u, sub, descends⟩ := traced.minted claims member
    exact ⟨u, sub, descends.mono⟩
  created row member := by
    rcases traced.created row member with isSeed | registered
    · exact Or.inl isSeed
    · exact Or.inr registered.mono

theorem admitted_admin {decodeToken : DecodeToken} {db : UserStore} {creds : Option String}
    {admin : User} (admitted : restGuard decodeToken db .ADMIN creds = .ok admin) :
    admin ∈ db.rows ∧ admin.isActive = true ∧ admin.role = Role.ADMIN.value := by
  obtain ⟨current, enough⟩ := (restGuard_ok_iff _ _ _).mp admitted
  obtain ⟨_, _, name, _, _, _, _, _, _, found, active⟩ := (getCurrentUser_ok_iff _ _).mp current
  refine ⟨((db.getUserByUsername_eq_some_iff name admin).mp found).1, active, ?_⟩
  have isAdmin := Role.eq_admin_of_atLeast enough
  unfold Role.orViewer Role.ofValue at isAdmin
  split_ifs at isAdmin
  · cases isAdmin
  · cases isAdmin
  · assumption
  · cases isAdmin

theorem traced_step (verifies : VerifiesExactly pwdContext) {seed : User} {past : Log}
    {server : Server} (request : Request) (traced : Traced pwdContext jose seed past server) :
    Traced pwdContext jose seed
      (past ++ [entry (serve settings pwdContext jose) server request])
      (serve settings pwdContext jose server request).2 := by
  have logged : entry (serve settings pwdContext jose) server request ∈
      past ++ [entry (serve settings pwdContext jose) server request] := by simp
  have served := serve_served settings pwdContext jose server request
  have extended := traced.extend [entry (serve settings pwdContext jose) server request]
  unfold entry at logged extended ⊢
  generalize (serve settings pwdContext jose server request).1 = response at *
  generalize (serve settings pwdContext jose server request).2 = after at *
  cases served with
  | kept rows tokens =>
    constructor
    · rw [rows]; exact extended.hashed
    · rw [tokens]; exact extended.minted
    · rw [rows]; exact extended.created
  | @login username password user authentic =>
    obtain ⟨⟨member, named⟩, _, verified⟩ := (authenticate_ok_iff _ _ _ _ _).mp authentic
    obtain ⟨original, salt, hash⟩ := traced.hashed user member
    have presented : PasswordOf pwdContext user password := by
      have same := (verifies salt original _ hash password).mp verified
      rw [same]
      exact ⟨salt, hash⟩
    refine ⟨extended.hashed, ?_, extended.created⟩
    intro claims minted
    rcases List.mem_append.mp minted with old | new
    · exact extended.minted claims old
    · exact ⟨username, named ▸ issued_claims new,
        .login logged rfl member named presented rfl new⟩
  | @refresh token user exchanged =>
    obtain ⟨parent, decoded, _, ⟨member, named⟩, _⟩ := (refreshUser_ok_iff _ _ _ _).mp exchanged
    obtain ⟨older, signed⟩ := decodeToken_ok decoded
    obtain ⟨u, parentSub, descends⟩ := extended.minted parent older
    rw [parentSub, Option.getD_some] at named
    subst signed
    refine ⟨extended.hashed, ?_, extended.created⟩
    intro claims minted
    rcases List.mem_append.mp minted with old | new
    · exact extended.minted claims old
    · exact ⟨u, named ▸ issued_claims new, .refresh logged rfl older descends rfl new⟩
  | @register creds payload salt hashed admin row after admitted hash shape rows tokens =>
    constructor
    · intro other member
      rw [rows, List.mem_append, List.mem_singleton] at member
      rcases member with old | new
      · exact extended.hashed other old
      · subst new shape
        exact ⟨payload.password, salt, hash⟩
    · rw [tokens]; exact extended.minted
    · intro other member
      rw [rows, List.mem_append, List.mem_singleton] at member
      rcases member with old | new
      · exact extended.created other old
      · subst new
        refine Or.inr ⟨_, logged, creds, payload, salt, admin, rfl, admitted,
          admitted_admin admitted, ?_, ?_, rfl⟩
        · rw [shape]
        · rw [shape]

theorem kinds_separate (server : Server) (claims : Claims) :
    (claims.hasType .access = true → ∀ user,
      refreshUser (server.decodeToken jose) server.db (jose.sign claims.fields) ≠ .ok user) ∧
    (claims.hasType .refresh = true → ∀ user,
      getCurrentUser (server.decodeToken jose) server.db (some (jose.sign claims.fields)) ≠
        .ok user ∧
      wsUserFromToken (server.decodeToken jose) server.db (jose.sign claims.fields) ≠
        .ok user) := by
  constructor
  · intro access user accepted
    obtain ⟨decoded, verified, isRefresh, _⟩ := (refreshUser_ok_iff _ _ _ _).mp accepted
    rw [decodeToken_sign verified, Claims.hasType_exclusive access] at isRefresh
    cases isRefresh
  · intro refresh user
    have never : ∀ payload, server.decodeToken jose (jose.sign claims.fields) = .ok payload →
        payload.hasType .access = true → False := by
      intro payload decoded access
      rw [decodeToken_sign decoded] at access
      rw [Claims.hasType_exclusive access] at refresh
      cases refresh
    constructor
    · intro accepted
      obtain ⟨token, payload, _, same, _, decoded, access, _⟩ :=
        (getCurrentUser_ok_iff _ _).mp accepted
      cases same
      exact never payload decoded access
    · intro accepted
      obtain ⟨payload, decoded, access, _⟩ := (wsUserFromToken_ok_iff _ _).mp accepted
      exact never payload decoded access

end Provenance

/- From a table with the seeded admin alone, after any run of calls: every token
   descends from a login with its user's password; a token passes only where its
   type is asked for; every further row was registered by an admin of the time,
   with the role asked for; and no call changes a row that was there. -/
theorem credentials_descend_from_passwords [Platform] {settings : Settings}
    {pwdContext : CryptContext} {jose : Jose} (verifies : VerifiesExactly pwdContext)
    {salt : String} {db : UserStore} {seed : User}
    (seeded : seedAdmin settings pwdContext .empty salt = .ok db) (only : db.rows = [seed])
    (now : Int) (requests : List Request) :
    let past := record (serve settings pwdContext jose) ⟨db, [], now⟩ requests
    let reached := final (serve settings pwdContext jose) ⟨db, [], now⟩ requests
    (∀ claims ∈ reached.minted, ∃ u, claims.sub? = some u ∧
      Descends pwdContext jose past u claims) ∧
    (∀ claims ∈ reached.minted,
      (claims.hasType .access = true → ∀ user,
        refreshUser (reached.decodeToken jose) reached.db (jose.sign claims.fields) ≠ .ok user) ∧
      (claims.hasType .refresh = true → ∀ user,
        getCurrentUser (reached.decodeToken jose) reached.db (some (jose.sign claims.fields)) ≠
          .ok user ∧
        wsUserFromToken (reached.decodeToken jose) reached.db (jose.sign claims.fields) ≠
          .ok user)) ∧
    (∀ row ∈ reached.db.rows, row = seed ∨ Registered jose past row) ∧
    ∀ e ∈ past, e.before.db.rows <+:
      (serve settings pwdContext jose e.before e.input).2.db.rows := by
  intro past reached
  have start : Traced pwdContext jose seed [] ⟨db, [], now⟩ := by
    refine ⟨?_, by simp, ?_⟩
    · intro row member
      rcases seedAdmin_ok seeded with same | ⟨admin, _, _, hash, rows⟩
      · rw [same] at member
        cases member
      · rw [rows] at member
        have isAdmin : row = admin := by simpa [UserStore.empty] using member
        rw [isAdmin]
        exact ⟨_, salt, hash⟩
    · intro row member
      rw [only, List.mem_singleton] at member
      exact Or.inl member
  have traced : Traced pwdContext jose seed past reached :=
    history_induction (serve settings pwdContext jose) start
      (fun _ _ request h => traced_step verifies request h) requests
  refine ⟨traced.minted, ?_, traced.created, ?_⟩
  · intro claims _
    exact kinds_separate reached claims
  · intro e member
    obtain ⟨server, request, shape⟩ := step_of_mem_record _ member
    rw [shape]
    exact rows_kept settings pwdContext jose server request

theorem plainContext_verifies : VerifiesExactly plainContext := by
  intro salt plain hashed hash given
  cases hash
  simp only [verifyPassword, plainContext, decide_eq_true_eq]
  constructor
  · intro same
    have lists := congrArg String.toList same
    rw [String.toList_append, String.toList_append] at lists
    exact (String.toList_injective (List.append_cancel_left lists)).symm
  · intro same
    rw [same]

theorem admin_login_descends :
    ∃ claims ∈ (final (@serve plainPlatform seedSettings plainContext plainJose)
        ⟨seededStore, [], 0⟩ [.login "admin" "correct horse"]).minted,
      Descends plainContext plainJose
        (record (@serve plainPlatform seedSettings plainContext plainJose)
          ⟨seededStore, [], 0⟩ [.login "admin" "correct horse"]) "admin" claims := by
  have run := (@credentials_descend_from_passwords plainPlatform seedSettings plainContext
    plainJose plainContext_verifies "salt" seededStore seededAdmin seededStore_seeded rfl 0
    [.login "admin" "correct horse"]).1
  have minted : accessClaims seedSettings 0 "admin" "admin" ∈
      (final (@serve plainPlatform seedSettings plainContext plainJose)
        ⟨seededStore, [], 0⟩ [.login "admin" "correct horse"]).minted := List.mem_cons_self
  obtain ⟨u, sub, descends⟩ := run _ minted
  rw [accessClaims_sub?] at sub
  cases sub
  exact ⟨_, minted, descends⟩

end LxdApi

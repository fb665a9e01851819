import LxdApi.Library.Pool
import LxdApi.AuthRoutes

set_option autoImplicit false

/- Seeding and registration as the database sees them: each is a few round trips, and
   between two of them those of other workers and requests may be served. -/
namespace LxdApi
open Interaction Program

/- The round trips. The guard of a route reads one row; `create_user` hashes and then
   inserts and commits, and the database checks the username as it commits. -/
inductive UserEffect where
  | requireRole (role : Role) (creds : Option String)
  | getUserByUsername (username : String)
  | createUser (username password role salt : String)

def UserEffect.Reply : UserEffect → Type
  | .requireRole _ _ => Except HTTPException User
  | .getUserByUsername _ => Option User
  | .createUser _ _ _ _ => Except String User

section Programs
variable [Platform] (pwdContext : CryptContext) (decodeToken : DecodeToken)

def UserStore.serve (db : UserStore) : (effect : UserEffect) → effect.Reply × UserStore
  | .requireRole role creds => (restGuard decodeToken db role creds, db)
  | .getUserByUsername username => (db.getUserByUsername username, db)
  | .createUser username password role salt =>
    match db.createUser pwdContext username password role salt with
    | .ok (user, after) => (Except.ok user, after)
    | .error exc => (Except.error exc, db)

omit [Platform] in
def seedUnlessExisting (settings : Settings) (salt : String) :
    Option User → Program UserEffect UserEffect.Reply String Unit
  | some _ => .done ()
  | none =>
    .call (.createUser (strip settings.SEED_ADMIN_USERNAME) settings.SEED_ADMIN_PASSWORD
      Role.ADMIN.value salt) fun created : Except String User => ofExcept (created.map fun _ => ())

omit [Platform] in
/-- `seed_admin`, which ends normally or raises a `ValueError`. -/
def seedAdminProgram (settings : Settings) (salt : String) :
    Program UserEffect UserEffect.Reply String Unit :=
  let username := strip settings.SEED_ADMIN_USERNAME
  let password := settings.SEED_ADMIN_PASSWORD
  if username = "" ∨ password = "" then .done ()
  else .call (.getUserByUsername username) (seedUnlessExisting settings salt)

omit [Platform] in
def registerBody (payload : UserCreate) (salt : String) :
    Program UserEffect UserEffect.Reply Raised UserOut :=
  .call (.createUser payload.username payload.password payload.role.value salt)
    fun created : Except String User =>
      match created with
      | .ok user => ofExcept (UserOut.modelValidate user)
      | .error exc => .raise (.http ⟨409, exc⟩)

omit [Platform] in
def registerProgram (creds : Option String) (payload : UserCreate) (salt : String) :
    Program UserEffect UserEffect.Reply Raised UserOut :=
  .call (.requireRole .ADMIN creds) fun admitted : Except HTTPException User =>
    match admitted with
    | .error exc => .raise (.http exc)
    | .ok _ => registerBody payload salt

variable {pwdContext decodeToken}

theorem seedAdminProgram_runFrom (settings : Settings) (salt : String) (db : UserStore) :
    (seedAdminProgram settings salt).runFrom (UserStore.serve pwdContext decodeToken) db =
      ((seedAdmin settings pwdContext db salt).map fun _ => (),
        (seedAdmin settings pwdContext db salt).toOption.getD db) := by
  unfold seedAdminProgram seedUnlessExisting seedAdmin
  dsimp only
  split
  · rfl
  · cases found : db.getUserByUsername (strip settings.SEED_ADMIN_USERNAME) with
    | some user => simp only [runFrom, UserStore.serve, found, Except.map]; rfl
    | none =>
      cases created : db.createUser pwdContext (strip settings.SEED_ADMIN_USERNAME)
          settings.SEED_ADMIN_PASSWORD Role.ADMIN.value salt with
      | error exc => simp only [runFrom, UserStore.serve, found, created, Except.map]; rfl
      | ok pair => simp only [runFrom, UserStore.serve, found, created, Except.map]; rfl

theorem registerProgram_runFrom (creds : Option String) (payload : UserCreate) (salt : String)
    (db : UserStore) :
    (registerProgram creds payload salt).runFrom (UserStore.serve pwdContext decodeToken) db =
      register pwdContext decodeToken db creds payload salt := by
  unfold registerProgram registerBody register
  cases admitted : restGuard decodeToken db .ADMIN creds with
  | error exc => simp only [runFrom, UserStore.serve, admitted]
  | ok admin =>
    cases created : db.createUser pwdContext payload.username payload.password
        payload.role.value salt with
    | error exc => simp only [runFrom, UserStore.serve, admitted, created]
    | ok pair =>
      simp only [runFrom, UserStore.serve, admitted, created]
      cases UserOut.modelValidate pair.1 <;> rfl

theorem serve_rows (db : UserStore) (effect : UserEffect) :
    db.rows <+: (UserStore.serve pwdContext decodeToken db effect).2.rows := by
  cases effect with
  | requireRole role creds => exact List.prefix_rfl
  | getUserByUsername username => exact List.prefix_rfl
  | createUser username password role salt =>
    rcases db.createUser_cases pwdContext username password role salt with
      ⟨_, _, refused⟩ | ⟨_, _, _, _, refused⟩ | ⟨hashed, after, _, _, created, rows⟩
    · simp only [UserStore.serve, refused, List.prefix_rfl]
    · simp only [UserStore.serve, refused, List.prefix_rfl]
    · simp only [UserStore.serve, created, rows]
      exact List.prefix_append _ _

theorem step_rows {X A ι : Type} [DecidableEq ι]
    (pool : Pool UserEffect UserEffect.Reply X A UserStore ι) (i : ι) :
    pool.shared.rows <+: (pool.step (UserStore.serve pwdContext decodeToken) i).shared.rows := by
  cases next : pool.threads i with
  | done a =>
    have ended : (pool.threads i).Ended := by rw [next]; trivial
    simp only [Pool.step_of_ended _ ended, List.prefix_rfl]
  | raise x =>
    have ended : (pool.threads i).Ended := by rw [next]; trivial
    simp only [Pool.step_of_ended _ ended, List.prefix_rfl]
  | call effect rest =>
    rw [Pool.step_of_call _ next]
    exact serve_rows pool.shared effect

end Programs

theorem UserStore.taken_of_prefix {db after : UserStore} (grown : db.rows <+: after.rows)
    {username : String} (taken : db.Taken username) : after.Taken username :=
  (grown.map User.username).subset taken

end LxdApi

import LxdApi.Guards

set_option autoImplicit false

/- `routes/auth.py`. A minted token is kept as the claims that were signed; what
   travels is their signed form. The clock is read once for both tokens of a pair. -/
namespace LxdApi

structure TokenPair where
  access : Claims
  refresh : Claims
  expiresIn : Int

def makeTokenPair (settings : Settings) (now : Int) (user : User) : TokenPair where
  access := accessClaims settings now user.username user.role
  refresh := refreshClaims settings now user.username
  expiresIn := settings.JWT_ACCESS_TOKEN_EXPIRE_MINUTES * 60

def TokenPair.claims (pair : TokenPair) : List Claims := [pair.access, pair.refresh]

section Auth
variable (settings : Settings) (pwdContext : CryptContext) (now : Int)
  (decodeToken : DecodeToken) (db : UserStore)

def invalidLogin : HTTPException := ⟨401, "Invalid username or password"⟩

def authenticate (username password : String) : Except HTTPException User := do
  let user ← activeUser (db.getUserByUsername username) invalidLogin
  if verifyPassword pwdContext password user.hashedPassword then .ok user
  else .error invalidLogin

def login (username password : String) : Except HTTPException TokenPair :=
  (authenticate pwdContext db username password).map (makeTokenPair settings now)

def refreshUser [Platform] (refreshToken : String) : Except HTTPException User :=
  match decodeToken refreshToken with
  | .error exc => .error ⟨401, exc⟩
  | .ok decoded =>
    if decoded.hasType .refresh then
      activeUser (db.getUserByUsername
        (Json.pyStr ((OrderedMap.get? decoded.fields "sub").getD (.str "")))) ⟨401, "User not found"⟩
    else .error ⟨401, "Refresh token required"⟩

def refresh [Platform] (refreshToken : String) : Except HTTPException TokenPair :=
  (refreshUser decodeToken db refreshToken).map (makeTokenPair settings now)

def register [Platform] (creds : Option String) (payload : UserCreate) (salt : String) :
    Except Raised UserOut × UserStore :=
  match restGuard decodeToken db .ADMIN creds with
  | .error exc => (.error (.http exc), db)
  | .ok _ =>
    match db.createUser pwdContext payload.username payload.password payload.role.value salt with
    | .error exc => (.error (.http ⟨409, exc⟩), db)
    | .ok (user, after) => (UserOut.modelValidate user, after)

def me [Platform] (creds : Option String) : Except Raised UserOut :=
  match getCurrentUser decodeToken db creds with
  | .error exc => .error (.http exc)
  | .ok user => UserOut.modelValidate user

def listUsers [Platform] (creds : Option String) : Except Raised (List UserOut) :=
  match restGuard decodeToken db .ADMIN creds with
  | .error exc => .error (.http exc)
  | .ok _ => db.listUsers.mapM UserOut.modelValidate

end Auth

theorem authenticate_ok_iff (pwdContext : CryptContext) (db : UserStore)
    (username password : String) (user : User) :
    authenticate pwdContext db username password = .ok user ↔
      (user ∈ db.rows ∧ user.username = username) ∧ user.isActive = true ∧
        verifyPassword pwdContext password user.hashedPassword = true := by
  unfold authenticate
  rw [← db.getUserByUsername_eq_some_iff]
  constructor
  · intro h
    cases found : activeUser (db.getUserByUsername username) invalidLogin with
    | error e => simp [found, bind, Except.bind] at h
    | ok other =>
      simp only [found, bind, Except.bind] at h
      split at h
      · rename_i same
        cases h
        obtain ⟨named, active⟩ := (activeUser_ok_iff _ _ user).mp found
        exact ⟨named, active, same⟩
      · cases h
  · intro h
    obtain ⟨named, active, same⟩ := h
    rw [(activeUser_ok_iff _ _ user).mpr ⟨named, active⟩]
    simp [bind, Except.bind, same]

theorem refreshUser_ok_iff [Platform] (decodeToken : DecodeToken) (db : UserStore)
    (refreshToken : String) (user : User) :
    refreshUser decodeToken db refreshToken = .ok user ↔
      ∃ decoded, decodeToken refreshToken = .ok decoded ∧ decoded.hasType .refresh = true ∧
        (user ∈ db.rows ∧ user.username = decoded.sub?.getD "") ∧ user.isActive = true := by
  unfold refreshUser
  constructor
  · intro h
    split at h
    · cases h
    · rename_i decoded verified
      split at h
      · rename_i isRefresh
        obtain ⟨found, active⟩ := (activeUser_ok_iff _ _ user).mp h
        refine ⟨decoded, verified, isRefresh, ?_, active⟩
        rw [← db.getUserByUsername_eq_some_iff]
        rw [decoded.get?_sub] at found
        cases sub : decoded.sub? <;> simpa [sub] using found
      · cases h
  · intro h
    obtain ⟨decoded, verified, isRefresh, named, active⟩ := h
    simp only [verified, isRefresh, if_true, decoded.get?_sub]
    refine (activeUser_ok_iff _ _ user).mpr ⟨?_, active⟩
    rw [← db.getUserByUsername_eq_some_iff] at named
    cases sub : decoded.sub? <;> simpa [sub] using named

end LxdApi

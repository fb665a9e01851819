import LxdApi.Admission
import LxdApi.Bcrypt

set_option autoImplicit false

/- Which passwords log a registered user in: the schema admits up to 128 characters of
   any kind, but the hash sees 72 octets. -/
namespace LxdApi

section Logins
variable [Platform] {pwdContext : CryptContext} {decodeToken : DecodeToken} {db : UserStore}
  {creds : Option String} {admin : User}

def LogsIn (settings : Settings) (pwdContext : CryptContext) (now : Int) (db : UserStore)
    (username password : String) : Prop :=
  ∃ pair, login settings pwdContext now db username password = .ok pair

/-- Two passwords that a registration with the first keeps apart: the same one must be
    fit for hashing, others must be refused or differ where bcrypt looks. -/
def KeptApart (registered given : String) : Prop :=
  if registered = given then ¬ HasNul registered
  else HasNul registered ∨ HasNul given ∨ significant registered ≠ significant given

instance (registered given : String) : Decidable (KeptApart registered given) :=
  inferInstanceAs (Decidable (if registered = given then ¬ HasNul registered
    else HasNul registered ∨ HasNul given ∨ significant registered ≠ significant given))

omit [Platform] in
theorem logsIn_iff (settings : Settings) (now : Int) (username password : String) :
    LogsIn settings pwdContext now db username password ↔
      ∃ user ∈ db.rows, user.username = username ∧ user.isActive = true ∧
        verifyPassword pwdContext password user.hashedPassword = true := by
  unfold LogsIn login
  constructor
  · intro ok
    obtain ⟨pair, ok⟩ := ok
    cases found : authenticate pwdContext db username password with
    | error exc =>
      rw [found] at ok
      cases ok
    | ok user =>
      obtain ⟨⟨member, named⟩, active, same⟩ :=
        (authenticate_ok_iff pwdContext db username password user).mp found
      exact ⟨user, member, named, active, same⟩
  · intro given
    obtain ⟨user, member, named, active, same⟩ := given
    have found := (authenticate_ok_iff pwdContext db username password user).mpr
      ⟨⟨member, named⟩, active, same⟩
    rw [found]
    exact ⟨makeTokenPair settings now user, rfl⟩

theorem register_refused (admitted : restGuard decodeToken db .ADMIN creds = .ok admin)
    {payload : UserCreate} {salt exc : String}
    (refused : db.createUser pwdContext payload.username payload.password payload.role.value salt =
      .error exc) :
    register pwdContext decodeToken db creds payload salt = (.error (.http ⟨409, exc⟩), db) := by
  simp only [register, admitted, refused]

theorem register_created (admitted : restGuard decodeToken db .ADMIN creds = .ok admin)
    {payload : UserCreate} {salt : String} {user : User} {after : UserStore}
    (created : db.createUser pwdContext payload.username payload.password payload.role.value salt =
      .ok (user, after)) :
    register pwdContext decodeToken db creds payload salt =
      (UserOut.modelValidate user, after) := by
  simp only [register, admitted, created]

theorem login_after_register_iff (bcrypt : Bcrypt pwdContext)
    (admitted : restGuard decodeToken db .ADMIN creds = .ok admin) (payload : UserCreate)
    (free : ¬ db.Taken payload.username) (salt given : String) (settings : Settings) (now : Int) :
    LogsIn settings pwdContext now (register pwdContext decodeToken db creds payload salt).2
        payload.username given ↔
      ¬ HasNul payload.password ∧ ¬ HasNul given ∧
        significant payload.password = significant given := by
  rw [logsIn_iff]
  rcases db.createUser_cases pwdContext payload.username payload.password payload.role.value
      salt with
    ⟨exc, hash, refused⟩ | ⟨_, _, _, taken, _⟩ | ⟨hashed, after, hash, _, created, rows⟩
  · have nul := (bcrypt.refused_iff salt payload.password).mp ⟨exc, hash⟩
    rw [register_refused admitted refused]
    constructor
    · intro given
      obtain ⟨user, member, named, _⟩ := given
      exact absurd ((db.taken_iff payload.username).mpr ⟨user, member, named⟩) free
    · intro fine
      exact absurd nul fine.1
  · exact absurd taken free
  · have fine := bcrypt.toRejectsNul.fine_of_ok hash
    have verifies := bcrypt.verify_iff hash (q := given)
    rw [register_created admitted created]
    dsimp only
    rw [rows]
    constructor
    · intro accepted
      obtain ⟨user, member, named, _, same⟩ := accepted
      rcases List.mem_append.mp member with old | new
      · exact absurd ((db.taken_iff payload.username).mpr ⟨user, old, named⟩) free
      · rw [List.mem_singleton] at new
        rw [new] at same
        exact ⟨fine, verifies.mp same⟩
    · intro agree
      refine ⟨_, List.mem_append_right db.rows (List.mem_singleton_self _), rfl, rfl, ?_⟩
      exact verifies.mpr agree.2

/- After an admin has registered a free name, another password than the registered one
   is kept out, and the registered one let in, exactly if the two are kept apart. -/
theorem login_exact_iff (bcrypt : Bcrypt pwdContext)
    (admitted : restGuard decodeToken db .ADMIN creds = .ok admin) (payload : UserCreate)
    (free : ¬ db.Taken payload.username) (salt given : String) (settings : Settings) (now : Int) :
    (LogsIn settings pwdContext now (register pwdContext decodeToken db creds payload salt).2
        payload.username given ↔ payload.password = given) ↔
      KeptApart payload.password given := by
  rw [login_after_register_iff bcrypt admitted payload free salt given settings now]
  unfold KeptApart
  by_cases same : payload.password = given
  · subst same
    simp
  · simp only [same, iff_false, if_false, not_and]
    tauto

end Logins

def newcomer (password : String) (passwordLength : 8 ≤ password.length ∧ password.length ≤ 128) :
    UserCreate :=
  { username := "newcomer", password := password, usernameLength := by decide,
    usernamePattern := List.all_eq_true.mp (by decide), passwordLength := passwordLength }

def seventyTwo : String := String.ofList (List.replicate 72 'a')

def firstLong : UserCreate := newcomer (seventyTwo ++ "1") (by decide)

def nulPassword : UserCreate := newcomer "pass\x00word" (by decide)

theorem seededStore_admits :
    @restGuard plainPlatform adminToken seededStore .ADMIN (some "t") = .ok seededAdmin := rfl

theorem short_passwords_kept_apart :
    KeptApart "correct horse" "correct house" ∧
      (LogsIn {} prefixContext 0 (@register prefixContext adminToken seededStore
          plainPlatform (some "t") (newcomer "correct horse" (by decide)) "salt").2 "newcomer"
          "correct house" ↔
        "correct horse" = "correct house") :=
  ⟨by decide, (@login_exact_iff plainPlatform _ _ _ _ _ prefixContext_bcrypt seededStore_admits
    (newcomer "correct horse" (by decide)) (by decide) "salt" "correct house" {} 0).mpr (by decide)⟩

/-- A password that differs after 72 octets logs in; a password with NUL is not even
    registered, so it does not log in itself. -/
theorem long_password_mistaken :
    ¬ (LogsIn {} prefixContext 0 (@register prefixContext adminToken seededStore
        plainPlatform (some "t") firstLong "salt").2 "newcomer" (seventyTwo ++ "2") ↔
      firstLong.password = seventyTwo ++ "2") ∧
    ¬ (LogsIn {} prefixContext 0 (@register prefixContext adminToken seededStore
        plainPlatform (some "t") nulPassword "salt").2 "newcomer" "pass\x00word" ↔
      nulPassword.password = "pass\x00word") := by
  have logins := fun payload free => @login_after_register_iff plainPlatform _ _ _ _ _
    prefixContext_bcrypt seededStore_admits payload free "salt"
  constructor
  · intro same
    have long : 72 ≤ (UriReference.octets seventyTwo.toList).length := by decide
    have alike : significant (seventyTwo ++ "1") = significant (seventyTwo ++ "2") := by
      rw [significant_append "1" long, significant_append "2" long]
    have free : ¬ HasNul seventyTwo := by decide
    have fine : ∀ tail, ¬ HasNul tail → ¬ HasNul (seventyTwo ++ tail) := by
      intro tail fine
      rw [hasNul_append]
      exact not_or.mpr ⟨free, fine⟩
    have accepted := (logins firstLong (by decide) (seventyTwo ++ "2") {} 0).mpr
      ⟨fine "1" (by decide), fine "2" (by decide), alike⟩
    exact absurd (same.mp accepted) (by decide)
  · intro same
    have accepted := (logins nulPassword (by decide) "pass\x00word" {} 0).mp (same.mpr rfl)
    exact accepted.1 (by decide)

end LxdApi

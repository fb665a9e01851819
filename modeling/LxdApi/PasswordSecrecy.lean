import LxdApi.Bcrypt
import LxdApi.SessionReach

set_option autoImplicit false

/- What the stored hashes tell a client: nothing. Under two password contexts that refuse
   the same passwords the service gives the same answers, whatever salts they draw. -/
namespace LxdApi
open Machine

def SameRefusals (pwdContext other : CryptContext) : Prop :=
  ∀ salt salt' plain, (pwdContext.hash salt plain).map (fun _ => ()) =
    (other.hash salt' plain).map fun _ => ()

/-- For what they hash of one password, the contexts accept the same texts. -/
def SameAcceptances (pwdContext other : CryptContext) : Prop :=
  ∀ salt salt' plain hashed hashed', pwdContext.hash salt plain = .ok hashed →
    other.hash salt' plain = .ok hashed' → ∀ given,
      verifyPassword pwdContext given hashed = verifyPassword other given hashed'

theorem Bcrypt.sameAcceptances {pwdContext other : CryptContext} (bcrypt : Bcrypt pwdContext)
    (bcrypt' : Bcrypt other) : SameAcceptances pwdContext other := by
  intro salt salt' plain hashed hashed' hash hash' given
  rw [Bool.eq_iff_iff, bcrypt.verify_iff hash, bcrypt'.verify_iff hash']

def User.withoutHash (user : User) : User := { user with hashedPassword := "" }

def Response.shown : Response → Response
  | .admitted row => .admitted row.withoutHash
  | response => response

inductive Resalted : Request → Request → Prop where
  | same (request : Request) : Resalted request request
  | register (creds : Option String) (payload : UserCreate) (salt salt' : String) :
      Resalted (.register creds payload salt) (.register creds payload salt')

section Accounts
variable (pwdContext other : CryptContext)

structure SameAccount (row row' : User) : Prop where
  shown : row.withoutHash = row'.withoutHash
  password : ∃ password, PasswordOf pwdContext row password ∧ PasswordOf other row' password

structure SameServer (server server' : Server) : Prop where
  rows : List.Forall₂ (SameAccount pwdContext other) server.db.rows server'.db.rows
  minted : server.minted = server'.minted
  now : server.now = server'.now

inductive SameFind {E : Type} : Except E User → Except E User → Prop where
  | refused (exc : E) : SameFind (.error exc) (.error exc)
  | found {row row' : User} (same : SameAccount pwdContext other row row') :
      SameFind (.ok row) (.ok row')

end Accounts

section Lookups
variable {pwdContext other : CryptContext} {row row' : User} {db db' : UserStore}

namespace SameAccount

theorem id (same : SameAccount pwdContext other row row') : row.id = row'.id :=
  (congrArg User.id same.shown : row.withoutHash.id = row'.withoutHash.id)

theorem username (same : SameAccount pwdContext other row row') : row.username = row'.username :=
  (congrArg User.username same.shown : row.withoutHash.username = row'.withoutHash.username)

theorem role (same : SameAccount pwdContext other row row') : row.role = row'.role :=
  (congrArg User.role same.shown : row.withoutHash.role = row'.withoutHash.role)

theorem isActive (same : SameAccount pwdContext other row row') : row.isActive = row'.isActive :=
  (congrArg User.isActive same.shown : row.withoutHash.isActive = row'.withoutHash.isActive)

theorem modelValidate (same : SameAccount pwdContext other row row') :
    UserOut.modelValidate row = UserOut.modelValidate row' := by
  unfold UserOut.modelValidate
  rw [same.id, same.username, same.role, same.isActive]

theorem makeTokenPair (same : SameAccount pwdContext other row row') (settings : Settings)
    (now : Int) : makeTokenPair settings now row = LxdApi.makeTokenPair settings now row' := by
  unfold LxdApi.makeTokenPair
  rw [same.username, same.role]

theorem verifyPassword (acceptances : SameAcceptances pwdContext other)
    (same : SameAccount pwdContext other row row') (given : String) :
    verifyPassword pwdContext given row.hashedPassword =
      LxdApi.verifyPassword other given row'.hashedPassword := by
  obtain ⟨password, ⟨salt, hash⟩, salt', hash'⟩ := same.password
  exact acceptances salt salt' password _ _ hash hash' given

end SameAccount

theorem SameFind.outcomes {E : Type} {here there : Except E User}
    (same : SameFind pwdContext other here there) :
    (∃ exc, here = .error exc ∧ there = .error exc) ∨
      ∃ row row', here = .ok row ∧ there = .ok row' ∧ SameAccount pwdContext other row row' := by
  cases same with
  | refused exc => exact Or.inl ⟨exc, rfl, rfl⟩
  | found same => exact Or.inr ⟨_, _, rfl, rfl, same⟩

variable (rows : List.Forall₂ (SameAccount pwdContext other) db.rows db'.rows)
include rows

theorem usernames_alike : db.rows.map User.username = db'.rows.map User.username := by
  rw [← List.forall₂_eq_eq_eq, List.forall₂_map_left_iff, List.forall₂_map_right_iff]
  exact rows.imp fun _ _ => SameAccount.username

theorem nextId_alike : db.nextId = db'.nextId := by
  have ids : db.rows.map User.id = db'.rows.map User.id := by
    rw [← List.forall₂_eq_eq_eq, List.forall₂_map_left_iff, List.forall₂_map_right_iff]
    exact rows.imp fun _ _ => SameAccount.id
  unfold UserStore.nextId
  rw [ids]

theorem getUserByUsername_alike (username : String) :
    (db.getUserByUsername username = none ∧ db'.getUserByUsername username = none) ∨
      ∃ row row', db.getUserByUsername username = some row ∧
        db'.getUserByUsername username = some row' ∧ SameAccount pwdContext other row row' := by
  unfold UserStore.getUserByUsername
  generalize db.rows = before at rows
  generalize db'.rows = before' at rows
  induction rows with
  | nil => exact Or.inl ⟨rfl, rfl⟩
  | @cons row row' rest rest' same _ ih =>
    by_cases named : row.username = username
    · have named' : row'.username = username := same.username ▸ named
      refine Or.inr ⟨row, row', ?_, ?_, same⟩
      · exact List.find?_cons_of_pos (decide_eq_true named)
      · exact List.find?_cons_of_pos (decide_eq_true named')
    · have named' : ¬ row'.username = username := same.username ▸ named
      rw [List.find?_cons_of_neg (by simpa using named),
        List.find?_cons_of_neg (by simpa using named')]
      exact ih

theorem activeUser_alike (username : String) (otherwise : HTTPException) :
    SameFind pwdContext other (activeUser (db.getUserByUsername username) otherwise)
      (activeUser (db'.getUserByUsername username) otherwise) := by
  rcases getUserByUsername_alike rows username with
    ⟨absent, absent'⟩ | ⟨row, row', found, found', same⟩
  · rw [absent, absent']
    exact .refused otherwise
  · rw [found, found']
    simp only [activeUser, same.isActive]
    split
    · exact .found same
    · exact .refused otherwise

theorem authenticate_alike (acceptances : SameAcceptances pwdContext other)
    (username password : String) :
    SameFind pwdContext other (authenticate pwdContext db username password)
      (authenticate other db' username password) := by
  unfold authenticate
  rcases (activeUser_alike rows username invalidLogin).outcomes with
    ⟨exc, refused, refused'⟩ | ⟨row, row', found, found', same⟩
  · rw [refused, refused']
    exact .refused exc
  · rw [found, found']
    simp only [bind, Except.bind, same.verifyPassword acceptances]
    split
    · exact .found same
    · exact .refused invalidLogin

section Tokens
variable [Platform] (decodeToken : DecodeToken)

theorem getCurrentUser_alike (creds : Option String) :
    SameFind pwdContext other (getCurrentUser decodeToken db creds)
      (getCurrentUser decodeToken db' creds) := by
  unfold getCurrentUser
  split
  · exact .refused _
  · split
    · exact .refused _
    · split
      · exact .refused _
      · split
        · dsimp only
          split
          · exact activeUser_alike rows _ _
          · exact .refused _
        · exact .refused _

theorem restGuard_alike (role : Role) (creds : Option String) :
    SameFind pwdContext other (restGuard decodeToken db role creds)
      (restGuard decodeToken db' role creds) := by
  unfold restGuard
  rcases (getCurrentUser_alike rows decodeToken creds).outcomes with
    ⟨exc, refused, refused'⟩ | ⟨row, row', found, found', same⟩
  · rw [refused, refused']
    exact .refused exc
  · rw [found, found']
    simp only [bind, Except.bind, requireRole, same.role]
    split
    · exact .found same
    · exact .refused _

theorem wsGate_alike (role : Role) (token : Option String) :
    SameFind pwdContext other (wsGate decodeToken db role token)
      (wsGate decodeToken db' role token) := by
  unfold wsGate
  split
  · exact .refused _
  · split
    · exact .refused _
    · rename_i text given
      have looked : SameFind pwdContext other (wsUserFromToken decodeToken db text)
          (wsUserFromToken decodeToken db' text) := by
        unfold wsUserFromToken
        split
        · exact .refused _
        · split
          · exact activeUser_alike rows _ _
          · exact .refused _
      rcases looked.outcomes with
        ⟨exc, refused, refused'⟩ | ⟨row, row', found, found', same⟩
      · rw [refused, refused']
        exact .refused 4401
      · rw [found, found']
        simp only [same.role]
        split
        · exact .found same
        · exact .refused _

theorem refreshUser_alike (refreshToken : String) :
    SameFind pwdContext other (refreshUser decodeToken db refreshToken)
      (refreshUser decodeToken db' refreshToken) := by
  unfold refreshUser
  split
  · exact .refused _
  · split
    · exact activeUser_alike rows _ _
    · exact .refused _

end Tokens

omit rows in
theorem hash_alike (refusals : SameRefusals pwdContext other) (salt salt' plain : String) :
    (∃ exc, pwdContext.hash salt plain = .error exc ∧ other.hash salt' plain = .error exc) ∨
      ∃ hashed hashed', pwdContext.hash salt plain = .ok hashed ∧
        other.hash salt' plain = .ok hashed' := by
  have same := refusals salt salt' plain
  cases here : pwdContext.hash salt plain with
  | error exc =>
    cases there : other.hash salt' plain with
    | error exc' =>
      rw [here, there] at same
      cases same
      exact Or.inl ⟨exc, rfl, rfl⟩
    | ok hashed' => rw [here, there] at same; cases same
  | ok hashed =>
    cases there : other.hash salt' plain with
    | error exc' => rw [here, there] at same; cases same
    | ok hashed' => exact Or.inr ⟨hashed, hashed', rfl, rfl⟩

theorem createUser_alike [Platform] (refusals : SameRefusals pwdContext other)
    (username password role salt salt' : String) :
    (∃ exc, db.createUser pwdContext username password role salt = .error exc ∧
      db'.createUser other username password role salt' = .error exc) ∨
    ∃ row row' after after', db.createUser pwdContext username password role salt =
        .ok (row, after) ∧
      db'.createUser other username password role salt' = .ok (row', after') ∧
      SameAccount pwdContext other row row' ∧
      List.Forall₂ (SameAccount pwdContext other) after.rows after'.rows := by
  simp only [UserStore.createUser, hashPassword]
  rcases hash_alike refusals salt salt' password with
    ⟨exc, refused, refused'⟩ | ⟨hashed, hashed', hash, hash'⟩
  · rw [refused, refused']
    exact Or.inl ⟨exc, rfl, rfl⟩
  · simp only [hash, hash', bind, Except.bind, usernames_alike rows, nextId_alike rows]
    split
    · have same : SameAccount pwdContext other ⟨db'.nextId, username, hashed, role, true⟩
          ⟨db'.nextId, username, hashed', role, true⟩ :=
        ⟨rfl, password, ⟨salt, hash⟩, salt', hash'⟩
      exact Or.inr ⟨_, _, _, _, rfl, rfl, same, List.rel_append rows (.cons same .nil)⟩
    · exact Or.inl ⟨_, rfl, rfl⟩

theorem rows_shown_alike :
    db.listUsers.map User.withoutHash = db'.listUsers.map User.withoutHash := by
  have shown : db.rows.map User.withoutHash = db'.rows.map User.withoutHash := by
    rw [← List.forall₂_eq_eq_eq, List.forall₂_map_left_iff, List.forall₂_map_right_iff]
    exact rows.imp fun _ _ same => same.shown
  have sorted : ∀ store : UserStore, store.listUsers.map User.withoutHash =
      (store.rows.map User.withoutHash).mergeSort fun a b => a.id ≤ b.id := by
    intro store
    exact List.map_mergeSort fun _ _ _ _ => rfl
  rw [sorted, sorted, shown]

omit rows in
theorem mapM_withoutHash (rows : List User) :
    rows.mapM UserOut.modelValidate =
      (rows.map User.withoutHash).mapM UserOut.modelValidate := by
  rw [List.mapM_map]
  rfl

section Answers
variable [Platform] (decodeToken : DecodeToken) (creds : Option String)

theorem me_alike : me decodeToken db creds = me decodeToken db' creds := by
  unfold me
  rcases (getCurrentUser_alike rows decodeToken creds).outcomes with
    ⟨exc, refused, refused'⟩ | ⟨row, row', found, found', same⟩
  · rw [refused, refused']
  · rw [found, found']
    exact same.modelValidate

theorem listUsers_alike : listUsers decodeToken db creds = listUsers decodeToken db' creds := by
  unfold listUsers
  rcases (restGuard_alike rows decodeToken .ADMIN creds).outcomes with
    ⟨exc, refused, refused'⟩ | ⟨row, row', found, found', same⟩
  · rw [refused, refused']
  · rw [found, found']
    dsimp only
    rw [mapM_withoutHash, rows_shown_alike rows, ← mapM_withoutHash]

theorem register_alike (refusals : SameRefusals pwdContext other) (payload : UserCreate)
    (salt salt' : String) :
    (register pwdContext decodeToken db creds payload salt).1 =
        (register other decodeToken db' creds payload salt').1 ∧
      List.Forall₂ (SameAccount pwdContext other)
        (register pwdContext decodeToken db creds payload salt).2.rows
        (register other decodeToken db' creds payload salt').2.rows := by
  unfold register
  rcases (restGuard_alike rows decodeToken .ADMIN creds).outcomes with
    ⟨exc, refused, refused'⟩ | ⟨admin, admin', admitted, admitted', _⟩
  · rw [refused, refused']
    exact ⟨rfl, rows⟩
  · rw [admitted, admitted']
    rcases createUser_alike rows refusals payload.username payload.password payload.role.value
        salt salt' with
      ⟨exc, refused, refused'⟩ | ⟨row, row', after, after', made, made', same, grown⟩
    · simp only [refused, refused']
      exact ⟨trivial, rows⟩
    · simp only [made, made']
      exact ⟨same.modelValidate, grown⟩

end Answers

end Lookups

section Runs
variable [Platform] {settings : Settings} {pwdContext other : CryptContext} {jose : Jose}

omit [Platform] in
theorem decodeToken_alike {server server' : Server}
    (same : SameServer pwdContext other server server') :
    server.decodeToken jose = server'.decodeToken jose := by
  unfold Server.decodeToken
  rw [same.minted, same.now]

omit [Platform] in
theorem issue_alike {server server' : Server} (same : SameServer pwdContext other server server')
    {here there : Except HTTPException User} (found : SameFind pwdContext other here there) :
    (server.issue (here.map (makeTokenPair settings server.now))).1.shown =
        (server'.issue (there.map (makeTokenPair settings server'.now))).1.shown ∧
      SameServer pwdContext other (server.issue (here.map (makeTokenPair settings server.now))).2
        (server'.issue (there.map (makeTokenPair settings server'.now))).2 := by
  rcases found.outcomes with ⟨exc, refused, refused'⟩ | ⟨row, row', granted, granted', account⟩
  · rw [refused, refused']
    exact ⟨rfl, same⟩
  · rw [granted, granted']
    simp only [Except.map, Server.issue, same.now, account.makeTokenPair]
    exact ⟨trivial, same.rows, congrArg (· ++ _) same.minted, rfl⟩

theorem serve_register_alike (refusals : SameRefusals pwdContext other) {server server' : Server}
    (same : SameServer pwdContext other server server') (creds : Option String)
    (payload : UserCreate) (salt salt' : String) :
    (serve settings pwdContext jose server (.register creds payload salt)).1.shown =
        (serve settings other jose server' (.register creds payload salt')).1.shown ∧
      SameServer pwdContext other
        (serve settings pwdContext jose server (.register creds payload salt)).2
        (serve settings other jose server' (.register creds payload salt')).2 := by
  obtain ⟨answers, grown⟩ := register_alike same.rows (server'.decodeToken jose) creds refusals
    payload salt salt'
  simp only [serve, decodeToken_alike same, answers]
  exact ⟨trivial, grown, same.minted, same.now⟩

theorem serve_alike (acceptances : SameAcceptances pwdContext other)
    (refusals : SameRefusals pwdContext other) (server server' : Server)
    (request request' : Request) (same : SameServer pwdContext other server server')
    (asked : Resalted request request') :
    (serve settings pwdContext jose server request).1.shown =
        (serve settings other jose server' request').1.shown ∧
      SameServer pwdContext other (serve settings pwdContext jose server request).2
        (serve settings other jose server' request').2 := by
  have decoded : server.decodeToken jose = server'.decodeToken jose := decodeToken_alike same
  cases asked with
  | register creds payload salt salt' =>
    exact serve_register_alike refusals same creds payload salt salt'
  | same =>
    cases request with
    | login username password =>
      exact issue_alike same (authenticate_alike same.rows acceptances username password)
    | refresh token =>
      have found := refreshUser_alike same.rows (server'.decodeToken jose) token
      simp only [serve, refresh, decoded]
      exact issue_alike same found
    | register creds payload salt =>
      exact serve_register_alike refusals same creds payload salt salt
    | me creds =>
      simp only [serve, decoded, me_alike same.rows]
      exact ⟨trivial, same⟩
    | listUsers creds =>
      simp only [serve, decoded, listUsers_alike same.rows]
      exact ⟨trivial, same⟩
    | rest role creds =>
      refine ⟨?_, same⟩
      simp only [serve, decoded]
      rcases (restGuard_alike same.rows (server'.decodeToken jose) role creds).outcomes with
        ⟨exc, refused, refused'⟩ | ⟨row, row', found, found', account⟩
      · rw [refused, refused']
      · rw [found, found']
        exact congrArg Response.admitted account.shown
    | ws role token =>
      simp only [serve, decoded]
      rcases (wsGate_alike same.rows (server'.decodeToken jose) role token).outcomes with
        ⟨code, refused, refused'⟩ | ⟨row, row', found, found', account⟩
      · rw [refused, refused']
        exact ⟨rfl, same⟩
      · rw [found, found']
        exact ⟨congrArg Response.admitted account.shown, same⟩
    | tick seconds => exact ⟨rfl, same.rows, same.minted, congrArg (· + _) same.now⟩

theorem seedAdmin_alike {salt salt' : String} {db db' : UserStore}
    (seeded : seedAdmin settings pwdContext .empty salt = .ok db)
    (seeded' : seedAdmin settings other .empty salt' = .ok db')
    (refusals : SameRefusals pwdContext other) :
    List.Forall₂ (SameAccount pwdContext other) db.rows db'.rows := by
  have nobody : List.Forall₂ (SameAccount pwdContext other) UserStore.empty.rows
      UserStore.empty.rows := .nil
  unfold seedAdmin at seeded seeded'
  dsimp only at seeded seeded'
  split at seeded
  · rename_i blank
    rw [if_pos blank] at seeded'
    cases seeded
    cases seeded'
    exact nobody
  · rename_i given
    rw [if_neg given] at seeded'
    have absent : UserStore.empty.getUserByUsername (strip settings.SEED_ADMIN_USERNAME) = none :=
      rfl
    rw [absent] at seeded seeded'
    rcases createUser_alike nobody refusals (strip settings.SEED_ADMIN_USERNAME)
        settings.SEED_ADMIN_PASSWORD Role.ADMIN.value salt salt' with
      ⟨exc, refused, _⟩ | ⟨row, row', after, after', made, made', _, grown⟩
    · rw [refused] at seeded
      cases seeded
    · rw [made] at seeded
      rw [made'] at seeded'
      cases seeded
      cases seeded'
      exact grown

/- Whatever is asked of the service, in any run from its first start: the answers depend
   neither on the password context, as long as it accepts the same texts and refuses the same
   passwords, nor on the salts. -/
theorem hashes_never_show (acceptances : SameAcceptances pwdContext other)
    (refusals : SameRefusals pwdContext other) {salt salt' : String} {db db' : UserStore}
    (seeded : seedAdmin settings pwdContext .empty salt = .ok db)
    (seeded' : seedAdmin settings other .empty salt' = .ok db') (now : Int)
    {requests requests' : List Request} (same : List.Forall₂ Resalted requests requests') :
    (record (serve settings pwdContext jose) ⟨db, [], now⟩ requests).map
        (fun e => e.output.shown) =
      (record (serve settings other jose) ⟨db', [], now⟩ requests').map
        fun e => e.output.shown := by
  have start : SameServer pwdContext other ⟨db, [], now⟩ ⟨db', [], now⟩ :=
    ⟨seedAdmin_alike seeded seeded' refusals, rfl, rfl⟩
  exact (lockstep _ (serve_alike acceptances refusals) start same).1

end Runs

def markingContext : CryptContext where
  hash salt plain :=
    if HasNul plain then .error "password may not contain NUL"
    else .ok (String.ofList ((octetText (significant plain)).toList ++ [salt.toList.headD '0']))
  verify plain hashed :=
    if HasNul plain then .error "password may not contain NUL"
    else .ok (hashed.toList.dropLast = (octetText (significant plain)).toList)

theorem markingContext_bcrypt : Bcrypt markingContext where
  refused_iff := by
    intro salt plain
    unfold markingContext
    by_cases nul : HasNul plain <;> simp [nul]
  determined := by
    intro salt p q fine free same
    simp [markingContext, fine, free, same]
  collisionFree := by
    intro salt p q hashed first second
    by_cases nul : HasNul p
    · simp [markingContext, nul] at first
    · by_cases other : HasNul q
      · simp [markingContext, other] at second
      · simp only [markingContext, nul, other, if_false, Except.ok.injEq] at first second
        rw [← first] at second
        have texts := List.append_cancel_right (String.ofList_injective second)
        exact (octetText_injective (String.toList_injective texts)).symm
  checks := by
    intro salt p q hashed first
    by_cases nul : HasNul p
    · simp [markingContext, nul] at first
    · simp only [markingContext, nul, if_false, Except.ok.injEq] at first
      subst first
      by_cases other : HasNul q
      · simp [markingContext, other, Except.map]
      · simp [markingContext, other, Except.map, eq_comm, String.toList_inj]

theorem refusals_alike : SameRefusals prefixContext markingContext := by
  intro salt salt' plain
  by_cases nul : HasNul plain <;> simp [prefixContext, markingContext, nul, Except.map]

theorem alice_registered_alike :
    (record (@serve plainPlatform seedSettings prefixContext plainJose) ⟨seededStore, [], 0⟩
        [.login "admin" "correct horse", adminRegisters "salt"]).map (fun e => e.output.shown) =
      (record (@serve plainPlatform seedSettings markingContext plainJose)
        ⟨⟨[⟨1, "admin", "correct horse7", "admin", true⟩], by simp⟩, [], 0⟩
        [.login "admin" "correct horse", adminRegisters "other"]).map fun e => e.output.shown :=
  @hashes_never_show plainPlatform seedSettings prefixContext markingContext plainJose
    (prefixContext_bcrypt.sameAcceptances markingContext_bcrypt) refusals_alike "salt" "7"
    seededStore _ rfl rfl 0 _ _ (.cons (.same _) (.cons (.register _ _ _ _) .nil))

end LxdApi

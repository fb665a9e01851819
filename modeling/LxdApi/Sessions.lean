import LxdApi.CredentialProvenance
import LxdApi.Revocation
import LxdApi.UserPrograms

set_option autoImplicit false

/- Sessions: from a login with a password, along refreshes that each come in time, to the
   access token of a request. -/
namespace LxdApi
open Machine

section Expiry
variable {jose : Jose} {server : Server}

theorem decodeToken_minted {claims : Claims} (minted : claims ∈ server.minted) {exp : Int}
    (expires : claims.exp? = some exp) :
    server.decodeToken jose (jose.sign claims.fields) =
      if server.now ≤ exp then .ok claims else .error "Signature has expired." := by
  unfold Server.decodeToken
  cases found : server.minted.find? fun other =>
      jose.sign other.fields = jose.sign claims.fields with
  | none =>
    have absent := List.find?_eq_none.mp found claims minted
    simp at absent
  | some other =>
    have signed := List.find?_some found
    rw [decide_eq_true_eq] at signed
    have fields := jose.injective signed
    have same : other = claims := by
      cases other
      cases claims
      cases fields
      rfl
    rw [same]
    simp only [expires]

theorem decodeToken_fresh {token : String} {claims : Claims} {exp : Int}
    (decoded : server.decodeToken jose token = .ok claims) (expires : claims.exp? = some exp) :
    server.now ≤ exp := by
  obtain ⟨minted, signed⟩ := decodeToken_ok decoded
  rw [← signed, decodeToken_minted minted expires] at decoded
  by_contra late
  rw [if_neg late] at decoded
  cases decoded

end Expiry

section Lifetimes
variable (settings : Settings) (now : Int) (subject role : String)

@[simp] theorem accessClaims_exp? :
    (accessClaims settings now subject role).exp? = some (now + expiresDelta settings .access) := by
  simp [Claims.exp?, accessClaims, accessPayload, createTokenPayload]

@[simp] theorem refreshClaims_exp? :
    (refreshClaims settings now subject).exp? = some (now + expiresDelta settings .refresh) := by
  simp [Claims.exp?, refreshClaims, refreshPayload, createTokenPayload]

end Lifetimes

section Sessions
variable (settings : Settings) (pwdContext : CryptContext) (jose : Jose)

/- At this time `u` was handed a pair of tokens: for a password that is verified against the
   stored hash of `u`, or for the refresh token of an earlier pair that had not expired. -/
inductive Session (past : Log) (u : String) : Int → Prop where
  | login {e : Entry Server Request Response} {row : User} {password : String}
      (member : e ∈ past) (input : e.input = .login u password) (known : row ∈ e.before.db.rows)
      (named : row.username = u)
      (verified : verifyPassword pwdContext password row.hashedPassword = true)
      (output : e.output = .tokens (makeTokenPair settings e.before.now row)) :
      Session past u e.before.now
  | refresh {e : Entry Server Request Response} {row : User} {since : Int}
      (older : Session past u since) (member : e ∈ past)
      (input : e.input = .refresh (jose.sign (refreshClaims settings since u).fields))
      (known : row ∈ e.before.db.rows) (named : row.username = u)
      (later : since ≤ e.before.now)
      (inTime : e.before.now ≤ since + expiresDelta settings .refresh)
      (output : e.output = .tokens (makeTokenPair settings e.before.now row)) :
      Session past u e.before.now

inductive ClaimsOf (u : String) (since : Int) : Claims → Prop where
  | access (role : String) : ClaimsOf u since (accessClaims settings since u role)
  | refresh : ClaimsOf u since (refreshClaims settings since u)

structure HandedOut (server : Server) (since : Int) (pair : TokenPair) (row : User) : Prop where
  issued : pair = makeTokenPair settings since row
  known : row ∈ server.db.rows
  active : row.isActive = true
  access : pair.access ∈ server.minted
  refresh : pair.refresh ∈ server.minted

structure Issued (past : Log) (server : Server) : Prop where
  tokens : ∀ claims ∈ server.minted, ∃ u since, ClaimsOf settings u since claims ∧
    Session settings pwdContext jose past u since ∧ since ≤ server.now
  pairs : ∀ e ∈ past, ∀ pair, e.output = .tokens pair →
    ∃ row, HandedOut settings server e.before.now pair row
  named : ∀ row ∈ server.db.rows, row.username ≠ ""

end Sessions

section Sessions
variable [Platform] {settings : Settings} {pwdContext : CryptContext} {jose : Jose}

omit [Platform] in
theorem Session.mono {past more : Log} {u : String} {since : Int}
    (session : Session settings pwdContext jose past u since) :
    Session settings pwdContext jose (past ++ more) u since := by
  induction session with
  | login member input known named verified output =>
    exact .login (List.mem_append_left _ member) input known named verified output
  | refresh older member input known named later inTime output ih =>
    exact .refresh ih (List.mem_append_left _ member) input known named later inTime output

omit [Platform] in
theorem claimsOf_pair {now : Int} {user : User} {claims : Claims}
    (given : claims ∈ (makeTokenPair settings now user).claims) :
    ClaimsOf settings user.username now claims := by
  simp only [makeTokenPair, TokenPair.claims, List.mem_cons, List.not_mem_nil, or_false] at given
  rcases given with access | refresh
  · rw [access]
    exact .access user.role
  · rw [refresh]
    exact .refresh

omit [Platform] in
theorem HandedOut.later {server after : Server} {since : Int} {pair : TokenPair} {row : User}
    (out : HandedOut settings server since pair row) (rows : server.db.rows <+: after.db.rows)
    (tokens : server.minted <+: after.minted) : HandedOut settings after since pair row :=
  ⟨out.issued, rows.subset out.known, out.active, tokens.subset out.access,
    tokens.subset out.refresh⟩

theorem serve_now (server : Server) (request : Request) :
    server.now ≤ (serve settings pwdContext jose server request).2.now := by
  cases request with
  | login username password =>
    simp only [serve, Server.issue]
    split <;> exact le_rfl
  | refresh token =>
    simp only [serve, Server.issue]
    split <;> exact le_rfl
  | register creds payload salt => exact le_rfl
  | me creds => exact le_rfl
  | listUsers creds => exact le_rfl
  | rest role creds => exact le_rfl
  | ws role token =>
    simp only [serve]
    split <;> exact le_rfl
  | tick seconds => exact Int.le_add_of_nonneg_right (Int.natCast_nonneg seconds)

theorem serve_tokens {server : Server} {request : Request} {pair : TokenPair}
    (output : (serve settings pwdContext jose server request).1 = .tokens pair) :
    ∃ user, pair = makeTokenPair settings server.now user ∧
      (serve settings pwdContext jose server request).2 =
        { server with minted := server.minted ++ pair.claims } ∧
      ((∃ username password, request = .login username password ∧
          authenticate pwdContext server.db username password = .ok user) ∨
        ∃ token, request = .refresh token ∧
          refreshUser (server.decodeToken jose) server.db token = .ok user) := by
  cases request with
  | login username password =>
    simp only [serve, login] at output ⊢
    cases authentic : authenticate pwdContext server.db username password with
    | error exc => rw [authentic] at output; cases output
    | ok user =>
      rw [authentic] at output
      cases output
      exact ⟨user, rfl, rfl, Or.inl ⟨username, password, rfl, authentic⟩⟩
  | refresh token =>
    simp only [serve, refresh] at output ⊢
    cases exchanged : refreshUser (server.decodeToken jose) server.db token with
    | error exc => rw [exchanged] at output; cases output
    | ok user =>
      rw [exchanged] at output
      cases output
      exact ⟨user, rfl, rfl, Or.inr ⟨token, rfl, exchanged⟩⟩
  | register creds payload salt =>
    simp only [serve] at output
    cases answer :
        (register pwdContext (server.decodeToken jose) server.db creds payload salt).1 <;>
      (rw [answer] at output; cases output)
  | me creds =>
    simp only [serve] at output
    cases answer : me (server.decodeToken jose) server.db creds <;>
      (rw [answer] at output; cases output)
  | listUsers creds =>
    simp only [serve] at output
    cases answer : listUsers (server.decodeToken jose) server.db creds <;>
      (rw [answer] at output; cases output)
  | rest role creds =>
    simp only [serve] at output
    cases answer : restGuard (server.decodeToken jose) server.db role creds <;>
      (rw [answer] at output; cases output)
  | ws role token =>
    simp only [serve] at output
    split at output <;> cases output
  | tick seconds => cases output

theorem serve_minted {server : Server} {request : Request}
    (none : ∀ pair, (serve settings pwdContext jose server request).1 ≠ .tokens pair) :
    (serve settings pwdContext jose server request).2.minted = server.minted := by
  have served := serve_served settings pwdContext jose server request
  generalize (serve settings pwdContext jose server request).1 = response at *
  generalize (serve settings pwdContext jose server request).2 = after at *
  cases served with
  | kept rows tokens => exact tokens
  | login authentic => exact absurd rfl (none _)
  | refresh exchanged => exact absurd rfl (none _)
  | register admitted hash shape rows tokens => exact tokens

theorem serve_named {server : Server} (named : ∀ row ∈ server.db.rows, row.username ≠ "")
    (request : Request) :
    ∀ row ∈ (serve settings pwdContext jose server request).2.db.rows, row.username ≠ "" := by
  have served := serve_served settings pwdContext jose server request
  generalize (serve settings pwdContext jose server request).1 = response at *
  generalize (serve settings pwdContext jose server request).2 = after at *
  cases served with
  | kept rows tokens =>
    rw [rows]
    exact named
  | login authentic => exact named
  | refresh exchanged => exact named
  | @register creds payload salt hashed admin row after admitted hash shape rows tokens =>
    intro other member
    rw [rows, List.mem_append, List.mem_singleton] at member
    rcases member with old | new
    · exact named other old
    · rw [new, shape]
      exact userCreate_named payload

theorem refreshed_session {past : Log} {server : Server} {token : String} {user : User}
    (issued : Issued settings pwdContext jose past server)
    (exchanged : refreshUser (server.decodeToken jose) server.db token = .ok user) :
    ∃ since, token = jose.sign (refreshClaims settings since user.username).fields ∧
      Session settings pwdContext jose past user.username since ∧ since ≤ server.now ∧
      server.now ≤ since + expiresDelta settings .refresh := by
  obtain ⟨payload, decoded, kind, ⟨_, named⟩, _⟩ := (refreshUser_ok_iff _ _ _ _).mp exchanged
  obtain ⟨minted, signed⟩ := decodeToken_ok decoded
  obtain ⟨u, since, claims, session, past⟩ := issued.tokens payload minted
  cases claims with
  | access role => simp at kind
  | refresh =>
    rw [refreshClaims_sub?, Option.getD_some] at named
    rw [named]
    exact ⟨since, signed.symm, session, past, decodeToken_fresh decoded (by simp)⟩

omit [Platform] in
theorem issued_tokens {past : Log} {server : Server} {e : Entry Server Request Response}
    {row : User} (issued : Issued settings pwdContext jose past server)
    (session : Session settings pwdContext jose (past ++ [e]) row.username server.now)
    (before : e.before = server)
    (output : e.output = .tokens (makeTokenPair settings server.now row))
    (known : row ∈ server.db.rows) (active : row.isActive = true) :
    Issued settings pwdContext jose (past ++ [e])
      { server with
        minted := server.minted ++ (makeTokenPair settings server.now row).claims } where
  tokens claims minted := by
    rcases List.mem_append.mp minted with old | new
    · obtain ⟨u, since, kind, earlier, inPast⟩ := issued.tokens claims old
      exact ⟨u, since, kind, earlier.mono, inPast⟩
    · exact ⟨row.username, server.now, claimsOf_pair new, session, le_rfl⟩
  pairs other member pair handed := by
    rcases List.mem_append.mp member with old | new
    · obtain ⟨row, out⟩ := issued.pairs other old pair handed
      exact ⟨row, out.later List.prefix_rfl (List.prefix_append _ _)⟩
    · rw [List.mem_singleton] at new
      rw [new, output] at handed
      cases handed
      rw [new, before]
      exact ⟨row, rfl, known, active, List.mem_append_right _ List.mem_cons_self,
        List.mem_append_right _ (List.mem_cons_of_mem _ List.mem_cons_self)⟩
  named := issued.named

theorem issued_step {past : Log} {server : Server} (request : Request)
    (issued : Issued settings pwdContext jose past server) :
    Issued settings pwdContext jose
      (past ++ [entry (serve settings pwdContext jose) server request])
      (serve settings pwdContext jose server request).2 := by
  have logged : entry (serve settings pwdContext jose) server request ∈
      past ++ [entry (serve settings pwdContext jose) server request] := by simp
  by_cases tokens : ∃ pair, (serve settings pwdContext jose server request).1 = .tokens pair
  · obtain ⟨pair, output⟩ := tokens
    obtain ⟨user, same, after, cause⟩ := serve_tokens output
    subst same
    rw [after]
    rcases cause with ⟨username, password, input, authentic⟩ | ⟨token, input, exchanged⟩
    · obtain ⟨⟨member, named⟩, active, verified⟩ := (authenticate_ok_iff _ _ _ _ _).mp authentic
      subst named
      exact issued_tokens issued (.login logged input member rfl verified output) rfl output
        member active
    · obtain ⟨since, signed, session, earlier, inTime⟩ := refreshed_session issued exchanged
      obtain ⟨_, _, _, ⟨member, _⟩, active⟩ := (refreshUser_ok_iff _ _ _ _).mp exchanged
      rw [signed] at input
      exact issued_tokens issued
        (.refresh session.mono logged input member rfl earlier inTime output)
        rfl output member active
  · have none : ∀ pair, (serve settings pwdContext jose server request).1 ≠ .tokens pair :=
      fun pair output => tokens ⟨pair, output⟩
    have minted := serve_minted none
    refine ⟨?_, ?_, serve_named issued.named request⟩
    · intro claims member
      rw [minted] at member
      obtain ⟨u, since, kind, session, inPast⟩ := issued.tokens claims member
      exact ⟨u, since, kind, session.mono, inPast.trans (serve_now server request)⟩
    · intro other member pair handed
      rcases List.mem_append.mp member with old | new
      · obtain ⟨row, out⟩ := issued.pairs other old pair handed
        exact ⟨row, out.later (rows_kept settings pwdContext jose server request)
          (by rw [minted])⟩
      · rw [List.mem_singleton] at new
        rw [new] at handed
        exact absurd handed (none pair)

def Seeded (settings : Settings) (pwdContext : CryptContext) (decodeToken : DecodeToken)
    (salt : String) (db : UserStore) : Prop :=
  (seedAdminProgram settings salt).runFrom (UserStore.serve pwdContext decodeToken) .empty =
    (.ok (), db)

theorem seeded_named {decodeToken : DecodeToken} {salt : String} {db : UserStore}
    (seeded : Seeded settings pwdContext decodeToken salt db) :
    ∀ row ∈ db.rows, row.username ≠ "" := by
  rw [Seeded, seedAdminProgram_runFrom] at seeded
  cases outcome : seedAdmin settings pwdContext .empty salt with
  | error exc =>
    rw [outcome] at seeded
    cases seeded
  | ok after =>
    rw [outcome] at seeded
    cases seeded
    intro row member
    rcases seedAdmin_ok outcome with same | ⟨admin, named, given, hash, rows⟩
    · rw [same] at member
      cases member
    · have whole : row ∈ after.rows := member
      rw [rows] at whole
      have seed : row = admin := by simpa [UserStore.empty] using whole
      rw [seed]
      exact given

theorem issued_run {decodeToken : DecodeToken} {salt : String} {db : UserStore}
    (seeded : Seeded settings pwdContext decodeToken salt db) (now : Int)
    (requests : List Request) :
    Issued settings pwdContext jose
      (record (serve settings pwdContext jose) ⟨db, [], now⟩ requests)
      (final (serve settings pwdContext jose) ⟨db, [], now⟩ requests) := by
  have first : Issued settings pwdContext jose [] ⟨db, [], now⟩ :=
    ⟨by simp, by simp, seeded_named seeded⟩
  exact @history_induction _ _ _ (serve settings pwdContext jose)
    (Issued settings pwdContext jose) _ first
    (fun past server request issued => issued_step request issued) requests

theorem handed_out_accepted_iff {past : Log} {server : Server}
    (issued : Issued settings pwdContext jose past server)
    (nonempty : ∀ fields, fields ≠ [] → jose.sign fields ≠ "")
    {e : Entry Server Request Response} {pair : TokenPair} (member : e ∈ past)
    (output : e.output = .tokens pair) :
    ∃ user ∈ server.db.rows, pair.access.sub? = some user.username ∧
      (getCurrentUser (server.decodeToken jose) server.db
        (some (jose.sign pair.access.fields)) = .ok user ↔
          server.now ≤ e.before.now + pair.expiresIn) ∧
      (refreshUser (server.decodeToken jose) server.db (jose.sign pair.refresh.fields) = .ok user ↔
        server.now ≤ e.before.now + expiresDelta settings .refresh) := by
  obtain ⟨row, issuedPair, known, active, access, refresh⟩ := issued.pairs e member pair output
  subst issuedPair
  refine ⟨row, known, by simp [makeTokenPair], ?_, ?_⟩
  · rw [getCurrentUser_ok_iff]
    have expires := @decodeToken_minted jose _ _ access _ (accessClaims_exp? _ _ _ _)
    constructor
    · intro h
      obtain ⟨token, payload, name, given, _, decoded, _⟩ := h
      cases given
      have same := decodeToken_sign decoded
      subst same
      exact decodeToken_fresh decoded (accessClaims_exp? _ _ _ _)
    · intro inTime
      refine ⟨_, _, row.username, rfl, ?_, expires.trans (if_pos inTime), ?_, ?_,
        issued.named row known, (server.db.getUserByUsername_eq_some_iff _ row).mpr ⟨known, rfl⟩,
        active⟩
      · refine nonempty _ ?_
        simp [makeTokenPair, accessClaims, accessPayload, createTokenPayload]
      · simp [makeTokenPair]
      · simp [makeTokenPair]
  · rw [refreshUser_ok_iff]
    have expires := @decodeToken_minted jose _ _ refresh _ (refreshClaims_exp? _ _ _)
    constructor
    · intro h
      obtain ⟨payload, decoded, _⟩ := h
      have same := decodeToken_sign decoded
      subst same
      exact decodeToken_fresh decoded (refreshClaims_exp? _ _ _)
    · intro inTime
      refine ⟨_, expires.trans (if_pos inTime), ?_, ⟨known, ?_⟩, active⟩
      · simp [makeTokenPair]
      · simp [makeTokenPair]

/- In every run, a pair that has been handed out stays good for the caller it was handed to
   exactly as long as it was said to: the access token until `expires_in` has passed, the
   refresh token until its own lifetime has. -/
theorem tokens_expire_as_announced {decodeToken : DecodeToken} {salt : String} {db : UserStore}
    (seeded : Seeded settings pwdContext decodeToken salt db)
    (nonempty : ∀ fields, fields ≠ [] → jose.sign fields ≠ "") (now : Int)
    (requests : List Request) :
    let past := record (serve settings pwdContext jose) ⟨db, [], now⟩ requests
    let reached := final (serve settings pwdContext jose) ⟨db, [], now⟩ requests
    ∀ e ∈ past, ∀ pair, e.output = .tokens pair →
      ∃ user ∈ reached.db.rows, pair.access.sub? = some user.username ∧
        (getCurrentUser (reached.decodeToken jose) reached.db
            (some (jose.sign pair.access.fields)) = .ok user ↔
          reached.now ≤ e.before.now + pair.expiresIn) ∧
        (refreshUser (reached.decodeToken jose) reached.db (jose.sign pair.refresh.fields) =
            .ok user ↔
          reached.now ≤ e.before.now + expiresDelta settings .refresh) := by
  intro past reached e member pair output
  have issued : Issued settings pwdContext jose past reached :=
    issued_run seeded now requests
  exact handed_out_accepted_iff issued nonempty member output

end Sessions

theorem plainJose_nonempty (fields : Dict) (some : fields ≠ []) : plainJose.sign fields ≠ "" := by
  intro empty
  have length := congrArg (fun text => text.toList.length) empty
  simp only [plainJose, String.toList_ofList, List.length_replicate] at length
  cases fields with
  | nil => exact some rfl
  | cons field rest =>
    obtain ⟨key, value⟩ := field
    simp [fieldsCode] at length

theorem seededStore_from_program {decodeToken : DecodeToken} :
    @Seeded plainPlatform seedSettings plainContext decodeToken "salt" seededStore := by
  have run := @seedAdminProgram_runFrom plainPlatform plainContext decodeToken seedSettings "salt"
    .empty
  rw [seededStore_seeded] at run
  exact run

def loginPair : TokenPair := makeTokenPair seedSettings 0 seededAdmin

def halfHourLater : Server :=
  final (@serve plainPlatform seedSettings plainContext plainJose) ⟨seededStore, [], 0⟩
    [.login "admin" "correct horse", .tick 1801]

theorem returning_admin_refused :
    ∃ user ∈ halfHourLater.db.rows, loginPair.access.sub? = some user.username ∧
      (@getCurrentUser plainPlatform (halfHourLater.decodeToken plainJose) halfHourLater.db
          (some (plainJose.sign loginPair.access.fields)) = .ok user ↔
        halfHourLater.now ≤ 0 + loginPair.expiresIn) ∧
      (@refreshUser (halfHourLater.decodeToken plainJose) halfHourLater.db plainPlatform
          (plainJose.sign loginPair.refresh.fields) = .ok user ↔
        halfHourLater.now ≤ 0 + expiresDelta seedSettings .refresh) :=
  @tokens_expire_as_announced plainPlatform seedSettings plainContext plainJose
    (fun _ => .error "") "salt" seededStore seededStore_from_program plainJose_nonempty 0
    [.login "admin" "correct horse", .tick 1801]
    (entry (@serve plainPlatform seedSettings plainContext plainJose) ⟨seededStore, [], 0⟩
      (.login "admin" "correct horse")) List.mem_cons_self loginPair rfl

end LxdApi

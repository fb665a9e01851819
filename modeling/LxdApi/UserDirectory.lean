import LxdApi.SessionReach

set_option autoImplicit false

/- The user table as a book of its own history: `list_users` and `me` answer with what
   the seeding and the registrations have answered before. -/
namespace LxdApi
open Machine

def registration? (e : Entry Server Request Response) : Option UserOut :=
  match e.input, e.output with
  | .register _ _ _, .user out => some out
  | _, _ => none

def seededUsers (settings : Settings) : List UserOut :=
  if strip settings.SEED_ADMIN_USERNAME = "" ∨ settings.SEED_ADMIN_PASSWORD = "" then []
  else [⟨1, strip settings.SEED_ADMIN_USERNAME, .ADMIN, true⟩]

/- The rows and their public forms, in the same order, and numbered from one without gaps. -/
structure Lists (db : UserStore) (outs : List UserOut) : Prop where
  shown : List.Forall₂ (fun row out => UserOut.modelValidate row = .ok out) db.rows outs
  numbered : db.rows.map User.id = List.range' 1 db.rows.length

theorem foldl_max_range' (n low : Nat) : (List.range' (low + 1) n).foldl max low = low + n := by
  induction n generalizing low with
  | zero => rfl
  | succ n ih =>
    rw [List.range'_succ, List.foldl_cons, Nat.max_eq_right (Nat.le_succ low), ih]
    omega

theorem modelValidate_fields {row : User} {out : UserOut}
    (shown : UserOut.modelValidate row = .ok out) :
    out.id = row.id ∧ out.username = row.username := by
  unfold UserOut.modelValidate at shown
  split at shown
  · cases shown
    exact ⟨rfl, rfl⟩
  · cases shown

theorem mapM_modelValidate {rows : List User} {outs : List UserOut}
    (shown : List.Forall₂ (fun row out => UserOut.modelValidate row = .ok out) rows outs) :
    rows.mapM UserOut.modelValidate = .ok outs := by
  induction shown with
  | nil => rfl
  | cons first rest ih =>
    simp only [List.mapM_cons, first, ih]
    rfl

namespace Lists
variable {db after : UserStore} {outs : List UserOut}

theorem nextId (lists : Lists db outs) : db.nextId = db.rows.length + 1 := by
  unfold UserStore.nextId
  rw [lists.numbered, foldl_max_range' _ 0, Nat.zero_add]

theorem listUsers (lists : Lists db outs) : db.listUsers = db.rows := by
  have ordered : (db.rows.map User.id).Pairwise (· < ·) := by
    rw [lists.numbered]
    exact List.pairwise_lt_range'
  refine List.mergeSort_of_pairwise ?_
  refine (List.pairwise_map.mp ordered).imp ?_
  intro a b before
  exact decide_eq_true (Nat.le_of_lt before)

theorem ids (lists : Lists db outs) : outs.map UserOut.id = List.range' 1 outs.length := by
  have same : db.rows.map User.id = outs.map UserOut.id := by
    rw [← List.forall₂_eq_eq_eq, List.forall₂_map_left_iff, List.forall₂_map_right_iff]
    refine lists.shown.imp ?_
    intro row out shown
    exact (modelValidate_fields shown).1.symm
  rw [← same, lists.numbered, lists.shown.length_eq]

theorem usernames (lists : Lists db outs) :
    outs.map UserOut.username = db.rows.map User.username := by
  symm
  rw [← List.forall₂_eq_eq_eq, List.forall₂_map_left_iff, List.forall₂_map_right_iff]
  refine lists.shown.imp ?_
  intro row out shown
  exact (modelValidate_fields shown).2.symm

theorem snoc (lists : Lists db outs) {row : User} {out : UserOut}
    (rows : after.rows = db.rows ++ [row]) (next : row.id = db.nextId)
    (shown : UserOut.modelValidate row = .ok out) : Lists after (outs ++ [out]) where
  shown := by
    rw [rows]
    exact List.rel_append lists.shown (.cons shown .nil)
  numbered := by
    rw [rows, List.map_append, lists.numbered, List.length_append, List.map_singleton, next,
      lists.nextId, List.length_singleton, ← List.range'_append_1, Nat.add_comm 1]
    rfl

theorem find {user : User} (lists : Lists db outs) (member : user ∈ db.rows) :
    ∃ out ∈ outs, UserOut.modelValidate user = .ok out := by
  obtain ⟨i, within, at_i⟩ := List.mem_iff_getElem.mp member
  have shown := lists.shown.get within (lists.shown.length_eq ▸ within)
  rw [List.get_eq_getElem, List.get_eq_getElem, at_i] at shown
  exact ⟨_, List.getElem_mem _, shown⟩

end Lists

section Directory
variable [Platform] {settings : Settings} {pwdContext : CryptContext} {jose : Jose}

theorem seedAdmin_lists {salt : String} {db : UserStore}
    (seeded : seedAdmin settings pwdContext .empty salt = .ok db) :
    Lists db (seededUsers settings) := by
  unfold seedAdmin at seeded
  unfold seededUsers
  dsimp only at seeded
  split at seeded
  · rename_i blank
    rw [if_pos blank]
    cases seeded
    exact ⟨.nil, rfl⟩
  · rename_i given
    rw [if_neg given]
    have absent : UserStore.empty.getUserByUsername (strip settings.SEED_ADMIN_USERNAME) = none :=
      rfl
    rw [absent] at seeded
    cases made : UserStore.empty.createUser pwdContext (strip settings.SEED_ADMIN_USERNAME)
        settings.SEED_ADMIN_PASSWORD Role.ADMIN.value salt with
    | error exc => rw [made] at seeded; cases seeded
    | ok pair =>
      rw [made] at seeded
      cases seeded
      obtain ⟨hashed, _, shape, rows⟩ := UserStore.createUser_ok made
      have first : Lists .empty [] := ⟨.nil, rfl⟩
      refine first.snoc rows ?_ ?_
      · rw [shape]
      · rw [shape]
        rfl

theorem register_lists {server : Server} {outs : List UserOut} (lists : Lists server.db outs)
    (creds : Option String) (payload : UserCreate) (salt : String) :
    Lists (serve settings pwdContext jose server (.register creds payload salt)).2.db
      (outs ++ (registration? (entry (serve settings pwdContext jose) server
        (.register creds payload salt))).toList) := by
  simp only [entry, serve, register]
  split
  · exact (List.append_nil outs).symm ▸ lists
  · split
    · exact (List.append_nil outs).symm ▸ lists
    · rename_i user after created
      obtain ⟨hashed, _, shape, rows⟩ := UserStore.createUser_ok created
      have shown : UserOut.modelValidate user =
          .ok ⟨user.id, user.username, payload.role, user.isActive⟩ := by
        rw [shape]
        simp [UserOut.modelValidate]
      simp only [shown, Response.ofExcept]
      refine lists.snoc rows ?_ shown
      rw [shape]

theorem serve_lists {server : Server} {outs : List UserOut} (lists : Lists server.db outs)
    (request : Request) :
    Lists (serve settings pwdContext jose server request).2.db
      (outs ++ (registration? (entry (serve settings pwdContext jose) server request)).toList) := by
  cases request with
  | register creds payload salt => exact register_lists lists creds payload salt
  | login username password =>
    simp only [entry, serve, Server.issue, registration?]
    split <;> exact (List.append_nil outs).symm ▸ lists
  | refresh token =>
    simp only [entry, serve, Server.issue, registration?]
    split <;> exact (List.append_nil outs).symm ▸ lists
  | ws role token =>
    simp only [entry, serve, registration?]
    split <;> exact (List.append_nil outs).symm ▸ lists
  | _ => exact (List.append_nil outs).symm ▸ lists

theorem lists_run {salt : String} {db : UserStore}
    (seeded : seedAdmin settings pwdContext .empty salt = .ok db) (now : Int)
    (requests : List Request) :
    Lists (final (serve settings pwdContext jose) ⟨db, [], now⟩ requests).db
      (seededUsers settings ++
        (record (serve settings pwdContext jose) ⟨db, [], now⟩ requests).filterMap
          registration?) := by
  refine @history_induction _ _ _ (serve settings pwdContext jose)
    (fun past server => Lists server.db (seededUsers settings ++ past.filterMap registration?))
    _ ?_ ?_ requests
  · exact (List.append_nil (seededUsers settings)).symm ▸ seedAdmin_lists seeded
  · intro past server request lists
    have logged : [entry (serve settings pwdContext jose) server request].filterMap registration? =
        (registration? (entry (serve settings pwdContext jose) server request)).toList := by
      rw [List.filterMap_cons, List.filterMap_nil]
      cases registration? (entry (serve settings pwdContext jose) server request) <;> rfl
    rw [List.filterMap_append, logged, ← List.append_assoc]
    exact serve_lists lists request

theorem lists_answered {decodeToken : DecodeToken} {db : UserStore} {outs : List UserOut}
    (lists : Lists db outs) (creds : Option String) :
    (∀ admin, restGuard decodeToken db .ADMIN creds = .ok admin →
      listUsers decodeToken db creds = .ok outs) ∧
    ∀ user, getCurrentUser decodeToken db creds = .ok user →
      ∃ out ∈ outs, out.username = user.username ∧ me decodeToken db creds = .ok out := by
  constructor
  · intro admin admitted
    simp only [LxdApi.listUsers, admitted, lists.listUsers]
    exact mapM_modelValidate lists.shown
  · intro user current
    obtain ⟨_, _, _, _, _, _, _, _, _, found, _⟩ := (getCurrentUser_ok_iff _ _).mp current
    obtain ⟨out, member, shown⟩ := lists.find ((db.getUserByUsername_eq_some_iff _ _).mp found).1
    refine ⟨out, member, (modelValidate_fields shown).2, ?_⟩
    simp only [me, current, shown]

/- After any run from the first start, `list_users` answers the seeded admin and then every
   account that a registration has announced, in their order; they are numbered from one
   without gaps, and no name occurs twice. `me` answers with the caller's own entry. -/
theorem directory_recounts_registrations {salt : String} {db : UserStore}
    (seeded : seedAdmin settings pwdContext .empty salt = .ok db) (now : Int)
    (requests : List Request) :
    let past := record (serve settings pwdContext jose) ⟨db, [], now⟩ requests
    let reached := final (serve settings pwdContext jose) ⟨db, [], now⟩ requests
    let announced := seededUsers settings ++ past.filterMap registration?
    announced.map UserOut.id = List.range' 1 announced.length ∧
    (announced.map UserOut.username).Nodup ∧
    ∀ creds,
      (∀ admin, restGuard (reached.decodeToken jose) reached.db .ADMIN creds = .ok admin →
        listUsers (reached.decodeToken jose) reached.db creds = .ok announced) ∧
      ∀ user, getCurrentUser (reached.decodeToken jose) reached.db creds = .ok user →
        ∃ out ∈ announced, out.username = user.username ∧
          me (reached.decodeToken jose) reached.db creds = .ok out := by
  intro past reached announced
  have lists : Lists reached.db announced := lists_run seeded now requests
  refine ⟨lists.ids, lists.usernames ▸ reached.db.unique, ?_⟩
  intro creds
  exact lists_answered lists creds

end Directory

def aliceRow : User := ⟨2, "alice", "$2b$password", "operator", true⟩

def withAlice : Server := { loggedIn with db := seededStore.insert aliceRow (by decide) }

/- The token is any one: what the admin's looks like is not computed. -/
theorem alice_served {token : Option String}
    (admitted : @restGuard plainPlatform (loggedIn.decodeToken plainJose) loggedIn.db .ADMIN
      token = .ok seededAdmin) :
    @serve plainPlatform seedSettings plainContext plainJose loggedIn
      (.register token alice "salt") = (.user ⟨2, "alice", .OPERATOR, true⟩, withAlice) := by
  simp only [serve, register, admitted]
  rfl

theorem alice_announced :
    final (@serve plainPlatform seedSettings plainContext plainJose) ⟨seededStore, [], 0⟩
        [.login "admin" "correct horse", adminRegisters "salt"] = withAlice ∧
      (record (@serve plainPlatform seedSettings plainContext plainJose) ⟨seededStore, [], 0⟩
        [.login "admin" "correct horse", adminRegisters "salt"]).filterMap registration? =
          [⟨2, "alice", .OPERATOR, true⟩] := by
  have served := alice_served loginPair_admitted
  have second : registration? (entry (@serve plainPlatform seedSettings plainContext plainJose)
      loggedIn (adminRegisters "salt")) = some ⟨2, "alice", .OPERATOR, true⟩ := by
    unfold adminRegisters entry
    rw [served]
    rfl
  refine ⟨congrArg Prod.snd served, ?_⟩
  have first : registration? (entry (@serve plainPlatform seedSettings plainContext plainJose)
      ⟨seededStore, [], 0⟩ (.login "admin" "correct horse")) = none := rfl
  exact (List.filterMap_cons_none first).trans (List.filterMap_cons_some second)

theorem loginPair_admitted_later :
    @restGuard plainPlatform (withAlice.decodeToken plainJose) withAlice.db .ADMIN
      (some (plainJose.sign loginPair.access.fields)) = .ok seededAdmin := by
  have issued := @issued_run plainPlatform seedSettings plainContext plainJose
    (fun _ => .error "") "salt" seededStore seededStore_from_program 0
    [.login "admin" "correct horse", adminRegisters "salt"]
  rw [alice_announced.1] at issued
  obtain ⟨user, known, named, accepted, _⟩ := @handed_out_accepted_iff plainPlatform _ _ _ _ _
    issued plainJose_nonempty _ loginPair List.mem_cons_self rfl
  have admin : user = seededAdmin := by
    rcases List.mem_cons.mp known with first | second
    · exact first
    · rw [List.mem_singleton.mp second] at named
      simp [loginPair, makeTokenPair, aliceRow, seededAdmin] at named
  subst admin
  exact (@restGuard_ok_iff plainPlatform _ _ _ _ _).mpr ⟨accepted.mpr (by decide), rfl⟩

/-- The seeded admin, who has logged in and registered an account, lists both users. -/
theorem seeded_admin_listed :
    @listUsers (withAlice.decodeToken plainJose) withAlice.db plainPlatform
      (some (plainJose.sign loginPair.access.fields)) =
        .ok [⟨1, "admin", .ADMIN, true⟩, ⟨2, "alice", .OPERATOR, true⟩] := by
  have recounted := (@directory_recounts_registrations plainPlatform seedSettings plainContext
    plainJose "salt" seededStore seededStore_seeded 0
    [.login "admin" "correct horse", adminRegisters "salt"]).2.2
    (some (plainJose.sign loginPair.access.fields))
  rw [alice_announced.1, alice_announced.2] at recounted
  exact recounted.1 seededAdmin loginPair_admitted_later

end LxdApi

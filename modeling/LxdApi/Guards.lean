import LxdApi.Users

set_option autoImplicit false

/- `api/deps.py` and the gate that each WebSocket handler writes out itself. A
   token is decoded by a parameter: a failure with its text, or the claims. -/
namespace LxdApi
open OrderedMap Json

abbrev DecodeToken := String → Except String Claims

section Guards
variable [Platform] (decodeToken : DecodeToken) (db : UserStore)

def unauthorized : HTTPException := ⟨401, "Not authenticated"⟩

def activeUser (user : Option User) (otherwise : HTTPException) : Except HTTPException User :=
  match user with
  | some user => if user.isActive then .ok user else .error otherwise
  | none => .error otherwise

def getCurrentUser (creds : Option String) : Except HTTPException User :=
  match creds with
  | none => .error unauthorized
  | some token =>
    if token = "" then .error unauthorized
    else
      match decodeToken token with
      | .error _ => .error unauthorized
      | .ok payload =>
        if payload.hasType .access then
          let username := get payload.fields "sub"
          if username.truthy then
            activeUser (db.getUserByUsername (pyStr username)) unauthorized
          else .error unauthorized
        else .error ⟨401, "Access token required"⟩

def requireRole (role : Role) (user : User) : Except HTTPException User :=
  if (Role.orViewer user.role).atLeast role then .ok user
  else .error ⟨403, "Role '" ++ role.value ++ "' or higher required"⟩

def restGuard (role : Role) (creds : Option String) : Except HTTPException User := do
  let user ← getCurrentUser decodeToken db creds
  requireRole role user

/-- An absent subject is looked up as the empty text. -/
def wsUserFromToken (token : String) : Except HTTPException User :=
  match decodeToken token with
  | .error exc => .error ⟨401, exc⟩
  | .ok payload =>
    if payload.hasType .access then
      activeUser
        (db.getUserByUsername (pyStr ((get? payload.fields "sub").getD (.str "")))) unauthorized
    else .error ⟨401, "Access token required"⟩

/-- The gate of the WebSocket handlers: the user, or the code the handshake is
    closed with. -/
def wsGate (role : Role) (token : Option String) : Except Nat User :=
  match token with
  | none => .error 4401
  | some token =>
    if token = "" then .error 4401
    else
      match wsUserFromToken decodeToken db token with
      | .error _ => .error 4401
      | .ok user => if (Role.orViewer user.role).atLeast role then .ok user else .error 4403

end Guards

/- What both gates come to: an unexpired access token of an active user whose
   role, as stored, suffices. -/
structure Admits (decodeToken : DecodeToken) (db : UserStore) (role : Role) (token : String)
    (user : User) : Prop where
  given : token ≠ ""
  claims : ∃ payload, decodeToken token = .ok payload ∧ payload.hasType .access = true ∧
    payload.sub? = some user.username
  member : user ∈ db.rows
  active : user.isActive = true
  enough : (Role.orViewer user.role).atLeast role = true

theorem activeUser_ok_iff (found : Option User) (otherwise : HTTPException) (user : User) :
    activeUser found otherwise = .ok user ↔ found = some user ∧ user.isActive = true := by
  unfold activeUser
  constructor
  · intro h
    split at h
    · split at h
      · rename_i active
        cases h
        exact ⟨rfl, active⟩
      · cases h
    · cases h
  · intro h
    obtain ⟨same, active⟩ := h
    subst same
    simp [active]

theorem requireRole_ok_iff (role : Role) (user admitted : User) :
    requireRole role user = .ok admitted ↔
      user = admitted ∧ (Role.orViewer user.role).atLeast role = true := by
  unfold requireRole
  split
  · rename_i enough
    simp [enough]
  · rename_i short
    simp [short]

section Guards
variable [Platform] {decodeToken : DecodeToken} {db : UserStore}

theorem getCurrentUser_ok_iff (creds : Option String) (user : User) :
    getCurrentUser decodeToken db creds = .ok user ↔
      ∃ token payload name, creds = some token ∧ token ≠ "" ∧ decodeToken token = .ok payload ∧
        payload.hasType .access = true ∧ payload.sub? = some name ∧ name ≠ "" ∧
        db.getUserByUsername name = some user ∧ user.isActive = true := by
  unfold getCurrentUser
  constructor
  · intro h
    split at h
    · cases h
    · rename_i token
      split at h
      · cases h
      · rename_i given
        split at h
        · cases h
        · rename_i payload decoded
          split at h
          · rename_i access
            dsimp only at h
            split at h
            · rename_i truthy
              rw [Json.get, payload.get?_sub] at truthy h
              cases sub : payload.sub? with
              | none => simp [sub] at truthy
              | some name =>
                simp only [sub, Option.map_some, Option.getD_some, pyStr_str, truthy_str]
                  at truthy h
                obtain ⟨found, active⟩ := (activeUser_ok_iff _ _ user).mp h
                exact ⟨token, payload, name, rfl, given, decoded, access, sub, truthy, found, active⟩
            · cases h
          · cases h
  · intro h
    obtain ⟨token, payload, name, same, given, decoded, access, sub, some, found, active⟩ := h
    subst same
    have subject : get payload.fields "sub" = .str name := by
      rw [Json.get, payload.get?_sub, sub]
      rfl
    simp only [given, if_false, decoded, access, if_true, subject, truthy_str, pyStr_str]
    rw [if_pos some]
    exact (activeUser_ok_iff _ _ user).mpr ⟨found, active⟩

theorem wsUserFromToken_ok_iff (token : String) (user : User) :
    wsUserFromToken decodeToken db token = .ok user ↔
      ∃ payload, decodeToken token = .ok payload ∧ payload.hasType .access = true ∧
        db.getUserByUsername (payload.sub?.getD "") = some user ∧ user.isActive = true := by
  unfold wsUserFromToken
  constructor
  · intro h
    split at h
    · cases h
    · rename_i payload decoded
      split at h
      · rename_i access
        obtain ⟨found, active⟩ := (activeUser_ok_iff _ _ user).mp h
        rw [payload.get?_sub] at found
        refine ⟨payload, decoded, access, ?_, active⟩
        cases sub : payload.sub? <;> simpa [sub] using found
      · cases h
  · intro h
    obtain ⟨payload, decoded, access, found, active⟩ := h
    simp only [decoded, access, if_true, payload.get?_sub]
    refine (activeUser_ok_iff _ _ user).mpr ⟨?_, active⟩
    cases sub : payload.sub? <;> simpa [sub] using found

theorem wsGate_ok_iff (role : Role) (token : Option String) (user : User) :
    wsGate decodeToken db role token = .ok user ↔
      ∃ text, token = some text ∧ text ≠ "" ∧
        wsUserFromToken decodeToken db text = .ok user ∧
        (Role.orViewer user.role).atLeast role = true := by
  unfold wsGate
  constructor
  · intro h
    split at h
    · cases h
    · rename_i text
      split at h
      · cases h
      · rename_i given
        split at h
        · cases h
        · rename_i found resolved
          split at h
          · rename_i enough
            cases h
            exact ⟨text, rfl, given, resolved, enough⟩
          · cases h
  · intro h
    obtain ⟨text, same, given, resolved, enough⟩ := h
    subst same
    simp [given, resolved, enough]

theorem restGuard_ok_iff (role : Role) (creds : Option String) (user : User) :
    restGuard decodeToken db role creds = .ok user ↔
      getCurrentUser decodeToken db creds = .ok user ∧
        (Role.orViewer user.role).atLeast role = true := by
  unfold restGuard
  cases resolved : getCurrentUser decodeToken db creds with
  | error e => simp [bind, Except.bind]
  | ok found =>
    simp only [bind, Except.bind, requireRole_ok_iff, Except.ok.injEq]
    constructor
    · intro h
      obtain ⟨same, enough⟩ := h
      subst same
      exact ⟨rfl, enough⟩
    · intro h
      obtain ⟨same, enough⟩ := h
      subst same
      exact ⟨rfl, enough⟩

theorem restGuard_iff_admits (named : ∀ user ∈ db.rows, user.username ≠ "") (role : Role)
    (token : String) (user : User) :
    restGuard decodeToken db role (some token) = .ok user ↔
      Admits decodeToken db role token user := by
  rw [restGuard_ok_iff, getCurrentUser_ok_iff]
  constructor
  · intro h
    obtain ⟨⟨text, payload, name, same, given, decoded, access, sub, _, found, active⟩, enough⟩ := h
    cases same
    obtain ⟨member, isName⟩ := (db.getUserByUsername_eq_some_iff name user).mp found
    subst isName
    exact ⟨given, ⟨payload, decoded, access, sub⟩, member, active, enough⟩
  · intro h
    obtain ⟨payload, decoded, access, sub⟩ := h.claims
    exact ⟨⟨token, payload, user.username, rfl, h.given, decoded, access, sub,
      named user h.member, (db.getUserByUsername_eq_some_iff _ user).mpr ⟨h.member, rfl⟩,
      h.active⟩, h.enough⟩

theorem wsGate_iff_admits (named : ∀ user ∈ db.rows, user.username ≠ "") (role : Role)
    (token : String) (user : User) :
    wsGate decodeToken db role (some token) = .ok user ↔
      Admits decodeToken db role token user := by
  rw [wsGate_ok_iff]
  simp only [wsUserFromToken_ok_iff]
  constructor
  · intro h
    obtain ⟨text, same, given, ⟨payload, decoded, access, found, active⟩, enough⟩ := h
    cases same
    obtain ⟨member, isName⟩ := (db.getUserByUsername_eq_some_iff _ user).mp found
    refine ⟨given, ⟨payload, decoded, access, ?_⟩, member, active, enough⟩
    cases sub : payload.sub? with
    | none =>
      rw [sub] at isName
      exact absurd isName (named user member)
    | some name =>
      rw [sub, Option.getD_some] at isName
      rw [isName]
  · intro h
    obtain ⟨payload, decoded, access, sub⟩ := h.claims
    refine ⟨token, rfl, h.given, ⟨payload, decoded, access, ?_, h.active⟩, h.enough⟩
    rw [sub]
    exact (db.getUserByUsername_eq_some_iff _ user).mpr ⟨h.member, rfl⟩

end Guards
end LxdApi

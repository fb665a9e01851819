import LxdApi.Exceptions
import LxdApi.Security
import Mathlib.Data.List.Nodup

set_option autoImplicit false

/- The user table: `db/models.py`, `db/crud.py`, `db/seed.py` and the registration
   payload of `schemas/auth.py`. -/
namespace LxdApi
open OrderedMap Json

structure User where
  id : Nat
  username : String
  hashedPassword : String
  role : String
  isActive : Bool
  deriving DecidableEq, Repr

/-- The rows of the table; the database keeps the usernames unique. -/
structure UserStore where
  rows : List User
  unique : (rows.map User.username).Nodup

namespace UserStore

def empty : UserStore := ⟨[], List.nodup_nil⟩

def getUserByUsername (db : UserStore) (username : String) : Option User :=
  db.rows.find? fun user => user.username = username

def listUsers (db : UserStore) : List User :=
  db.rows.mergeSort fun a b => a.id ≤ b.id

def nextId (db : UserStore) : Nat := (db.rows.map User.id).foldl max 0 + 1

def insert (db : UserStore) (user : User)
    (free : user.username ∉ db.rows.map User.username) : UserStore where
  rows := db.rows ++ [user]
  unique := by
    rw [List.map_append, List.nodup_append]
    refine ⟨db.unique, by simp, ?_⟩
    intro a known b new same
    simp only [List.map_cons, List.map_nil, List.mem_singleton] at new
    subst same new
    exact free known

/-- `create_user`: the hash comes first, the table refuses a known username, and
    either failure is a `ValueError` that leaves the table as it was. -/
def createUser [Platform] (pwdContext : CryptContext) (db : UserStore)
    (username password role salt : String) : Except String (User × UserStore) := do
  let hashed ← hashPassword pwdContext salt password
  let user : User := ⟨db.nextId, username, hashed, role, true⟩
  if free : user.username ∉ db.rows.map User.username then
    return (user, db.insert user free)
  else throw ("username " ++ Json.reprStr username ++ " already exists")

theorem getUserByUsername_eq_some_iff (db : UserStore) (username : String) (user : User) :
    db.getUserByUsername username = some user ↔ user ∈ db.rows ∧ user.username = username := by
  unfold getUserByUsername
  constructor
  · intro found
    exact ⟨List.mem_of_find?_eq_some found, by simpa using List.find?_some found⟩
  · intro h
    obtain ⟨member, named⟩ := h
    cases found : db.rows.find? fun user => user.username = username with
    | none =>
      have absent := List.find?_eq_none.mp found user member
      simp [named] at absent
    | some other =>
      have otherMember := List.mem_of_find?_eq_some found
      have otherNamed : other.username = username := by simpa using List.find?_some found
      have same : other = user :=
        List.inj_on_of_nodup_map db.unique otherMember member (otherNamed.trans named.symm)
      rw [same]

def Taken (db : UserStore) (username : String) : Prop := username ∈ db.rows.map User.username

instance (db : UserStore) (username : String) : Decidable (db.Taken username) :=
  inferInstanceAs (Decidable (username ∈ db.rows.map User.username))

theorem taken_iff (db : UserStore) (username : String) :
    db.Taken username ↔ ∃ user ∈ db.rows, user.username = username := by
  simp only [Taken, List.mem_map]

theorem taken_append {db after : UserStore} {user : User} (rows : after.rows = db.rows ++ [user])
    (username : String) : after.Taken username ↔ db.Taken username ∨ user.username = username := by
  simp only [Taken, rows, List.map_append, List.mem_append, List.map_cons, List.map_nil,
    List.mem_singleton, eq_comm]

theorem getUserByUsername_eq_none_iff (db : UserStore) (username : String) :
    db.getUserByUsername username = none ↔ ¬ db.Taken username := by
  simp [getUserByUsername, taken_iff]

theorem createUser_cases [Platform] (pwdContext : CryptContext) (db : UserStore)
    (username password role salt : String) :
    (∃ exc, pwdContext.hash salt password = .error exc ∧
      createUser pwdContext db username password role salt = .error exc) ∨
    (∃ hashed exc, pwdContext.hash salt password = .ok hashed ∧ db.Taken username ∧
      createUser pwdContext db username password role salt = .error exc) ∨
    ∃ hashed after, pwdContext.hash salt password = .ok hashed ∧ ¬ db.Taken username ∧
      createUser pwdContext db username password role salt =
        .ok (⟨db.nextId, username, hashed, role, true⟩, after) ∧
      after.rows = db.rows ++ [⟨db.nextId, username, hashed, role, true⟩] := by
  unfold createUser hashPassword
  cases hash : pwdContext.hash salt password with
  | error exc => exact Or.inl ⟨exc, rfl, rfl⟩
  | ok hashed =>
    by_cases free : username ∉ db.rows.map User.username
    · refine Or.inr (Or.inr ⟨hashed, db.insert ⟨db.nextId, username, hashed, role, true⟩ free,
        rfl, free, ?_, rfl⟩)
      simp only [bind, Except.bind, dif_pos free]
      rfl
    · refine Or.inr (Or.inl ⟨hashed, "username " ++ Json.reprStr username ++ " already exists", rfl,
        not_not.mp free, ?_⟩)
      simp only [bind, Except.bind, dif_neg free]
      rfl

theorem createUser_ok [Platform] {pwdContext : CryptContext} {db after : UserStore}
    {username password role salt : String} {user : User}
    (created : createUser pwdContext db username password role salt = .ok (user, after)) :
    ∃ hashed, pwdContext.hash salt password = .ok hashed ∧
      user = ⟨db.nextId, username, hashed, role, true⟩ ∧ after.rows = db.rows ++ [user] := by
  rcases createUser_cases pwdContext db username password role salt with
    ⟨exc, _, refused⟩ | ⟨_, exc, _, _, refused⟩ | ⟨hashed, grown, hash, _, made, rows⟩
  · rw [refused] at created
    cases created
  · rw [refused] at created
    cases created
  · rw [made] at created
    cases created
    exact ⟨hashed, hash, rfl, rows⟩

end UserStore

def isSpace (c : Char) : Bool :=
  let n := c.toNat
  (9 ≤ n ∧ n ≤ 13) ∨ (28 ≤ n ∧ n ≤ 32) ∨ n = 0x85 ∨ n = 0xa0 ∨ n = 0x1680 ∨
    (0x2000 ≤ n ∧ n ≤ 0x200a) ∨ n = 0x2028 ∨ n = 0x2029 ∨ n = 0x202f ∨ n = 0x205f ∨ n = 0x3000

/-- `str.strip()` -/
def strip (s : String) : String :=
  String.ofList (((s.toList.dropWhile isSpace).reverse.dropWhile isSpace).reverse)

/-- First-run seeding; a password that cannot be hashed stops the start. -/
def seedAdmin [Platform] (settings : Settings) (pwdContext : CryptContext) (db : UserStore)
    (salt : String) : Except String UserStore :=
  let username := strip settings.SEED_ADMIN_USERNAME
  let password := settings.SEED_ADMIN_PASSWORD
  if username = "" ∨ password = "" then .ok db
  else
    match db.getUserByUsername username with
    | some _ => .ok db
    | none => (db.createUser pwdContext username password Role.ADMIN.value salt).map Prod.snd

/-- A character of `[A-Za-z0-9_.-]`. -/
def nameChar (c : Char) : Bool :=
  ('A' ≤ c ∧ c ≤ 'Z') ∨ ('a' ≤ c ∧ c ≤ 'z') ∨ ('0' ≤ c ∧ c ≤ '9') ∨ c = '_' ∨ c = '.' ∨ c = '-'

/-- The registration payload: only a valid one can be built. -/
structure UserCreate where
  username : String
  password : String
  role : Role := .VIEWER
  usernameLength : 3 ≤ username.length ∧ username.length ≤ 64
  usernamePattern : ∀ c ∈ username.toList, nameChar c = true
  passwordLength : 8 ≤ password.length ∧ password.length ≤ 128

structure UserOut where
  id : Nat
  username : String
  role : Role
  isActive : Bool
  deriving DecidableEq, Repr

def UserOut.modelValidate (user : User) : Except Raised UserOut :=
  match Role.ofValue user.role with
  | some role => .ok ⟨user.id, user.username, role, user.isActive⟩
  | none => .error (.unhandled "ValidationError")

theorem seedAdmin_ok [Platform] {settings : Settings} {pwdContext : CryptContext}
    {db after : UserStore} {salt : String}
    (seeded : seedAdmin settings pwdContext db salt = .ok after) :
    after = db ∨ ∃ user, user.username = strip settings.SEED_ADMIN_USERNAME ∧
      user.username ≠ "" ∧
      pwdContext.hash salt settings.SEED_ADMIN_PASSWORD = .ok user.hashedPassword ∧
      after.rows = db.rows ++ [user] := by
  unfold seedAdmin at seeded
  dsimp only at seeded
  split at seeded
  · cases seeded; exact Or.inl rfl
  · rename_i given
    split at seeded
    · cases seeded; exact Or.inl rfl
    · cases made : db.createUser pwdContext (strip settings.SEED_ADMIN_USERNAME)
          settings.SEED_ADMIN_PASSWORD Role.ADMIN.value salt with
      | error e => rw [made] at seeded; cases seeded
      | ok pair =>
        obtain ⟨user, store⟩ := pair
        rw [made] at seeded
        cases seeded
        obtain ⟨hashed, hash, shape, rows⟩ := UserStore.createUser_ok made
        refine Or.inr ⟨user, ?_, ?_, ?_, rows⟩
        · rw [shape]
        · rw [shape]
          intro blank
          exact given (Or.inl blank)
        · rw [shape]
          exact hash

end LxdApi

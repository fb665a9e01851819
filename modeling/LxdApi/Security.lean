import LxdApi.Config
import LxdApi.Json

set_option autoImplicit false

/- `core/security.py`: roles, password hashing and the payloads of the tokens. -/
namespace LxdApi
open OrderedMap Json

inductive Role where
  | VIEWER
  | OPERATOR
  | ADMIN
  deriving DecidableEq, Repr

namespace Role

def value : Role → String
  | .VIEWER => "viewer"
  | .OPERATOR => "operator"
  | .ADMIN => "admin"

def level : Role → Nat
  | .VIEWER => 1
  | .OPERATOR => 2
  | .ADMIN => 3

def atLeast (role other : Role) : Bool := role.level ≥ other.level

def ofValue (text : String) : Option Role :=
  if text = "viewer" then some .VIEWER
  else if text = "operator" then some .OPERATOR
  else if text = "admin" then some .ADMIN
  else none

/-- `Role(value)`, with `VIEWER` for a text that names no role. -/
def orViewer (text : String) : Role := (ofValue text).getD .VIEWER

@[simp] theorem ofValue_value (role : Role) : ofValue role.value = some role := by
  cases role <;> decide

theorem viewer_of_everyone (role : Role) : role.atLeast .VIEWER = true := by
  cases role <;> decide

theorem eq_admin_of_atLeast {role : Role} (h : role.atLeast .ADMIN = true) : role = .ADMIN := by
  cases role <;> simp [atLeast, level] at h ⊢

end Role

/-- passlib's context: a hash under the salt it draws, and the check of a
    password against a stored hash. Either may refuse its input. -/
structure CryptContext where
  hash : (salt plain : String) → Except String String
  verify : (plain hashed : String) → Except String Bool

def plainContext : CryptContext where
  hash _ plain := .ok ("$2b$" ++ plain)
  verify plain hashed := .ok (hashed = "$2b$" ++ plain)

def hashPassword (pwdContext : CryptContext) (salt plain : String) : Except String String :=
  pwdContext.hash salt plain

def verifyPassword (pwdContext : CryptContext) (plain hashed : String) : Bool :=
  match pwdContext.verify plain hashed with
  | .ok same => same
  | .error _ => false

inductive TokenType where
  | access
  | refresh
  deriving DecidableEq, Repr

def TokenType.value : TokenType → String
  | .access => "access"
  | .refresh => "refresh"

def expiresDelta (settings : Settings) : TokenType → Int
  | .access => settings.JWT_ACCESS_TOKEN_EXPIRE_MINUTES * 60
  | .refresh => settings.JWT_REFRESH_TOKEN_EXPIRE_DAYS * 86400

def createTokenPayload (settings : Settings) (now : Int) (subject : String)
    (tokenType : TokenType) (extra : Option Dict := none) : Dict :=
  let payload : Dict := [("sub", .str subject), ("type", .str tokenType.value),
    ("iat", .int now), ("exp", .int (now + expiresDelta settings tokenType))]
  match extra with
  | some extra => update payload extra
  | none => payload

def accessPayload (settings : Settings) (now : Int) (subject role : String)
    (extra : Option Dict := none) : Dict :=
  createTokenPayload settings now subject .access
    (some (update [("role", .str role)] (extra.getD [])))

def refreshPayload (settings : Settings) (now : Int) (subject : String) : Dict :=
  createTokenPayload settings now subject .refresh

/-- The claims of a verified token, with a subject that is a text if it is there. -/
structure Claims where
  fields : Dict
  subject : ∀ value, get? fields "sub" = some value → ∃ name, value = .str name

namespace Claims

/-- `payload.get("type") == text` -/
def hasType (claims : Claims) (tokenType : TokenType) : Bool :=
  match get claims.fields "type" with
  | .str text => text = tokenType.value
  | _ => false

def sub? (claims : Claims) : Option String :=
  match get? claims.fields "sub" with
  | some (.str name) => some name
  | _ => none

def exp? (claims : Claims) : Option Int :=
  match get? claims.fields "exp" with
  | some (.int n) => some n
  | _ => none

theorem hasType_exclusive {claims : Claims} (access : claims.hasType .access = true) :
    claims.hasType .refresh = false := by
  unfold hasType at access ⊢
  split at access
  · rename_i text _
    simp only [decide_eq_true_eq] at access
    rw [access]
    decide
  · cases access

theorem get?_sub (claims : Claims) : get? claims.fields "sub" = claims.sub?.map .str := by
  cases found : get? claims.fields "sub" with
  | none => simp [sub?, found]
  | some value =>
    obtain ⟨name, text⟩ := claims.subject value found
    subst text
    simp [sub?, found]

end Claims

/-- The claims of an access token of `_make_token_pair`. -/
def accessClaims (settings : Settings) (now : Int) (subject role : String) : Claims where
  fields := accessPayload settings now subject role
  subject := by
    intro value found
    simp [accessPayload, createTokenPayload] at found
    exact ⟨subject, found.symm⟩

def refreshClaims (settings : Settings) (now : Int) (subject : String) : Claims where
  fields := refreshPayload settings now subject
  subject := by
    intro value found
    simp [refreshPayload, createTokenPayload] at found
    exact ⟨subject, found.symm⟩

section Payloads
variable (settings : Settings) (now : Int) (subject role : String)

@[simp] theorem accessClaims_sub? : (accessClaims settings now subject role).sub? = some subject := by
  simp [Claims.sub?, accessClaims, accessPayload, createTokenPayload]

@[simp] theorem refreshClaims_sub? : (refreshClaims settings now subject).sub? = some subject := by
  simp [Claims.sub?, refreshClaims, refreshPayload, createTokenPayload]

@[simp] theorem accessClaims_hasType (tokenType : TokenType) :
    (accessClaims settings now subject role).hasType tokenType = decide (tokenType = .access) := by
  cases tokenType <;>
    simp [Claims.hasType, accessClaims, accessPayload, createTokenPayload, Json.get,
      TokenType.value]

@[simp] theorem refreshClaims_hasType (tokenType : TokenType) :
    (refreshClaims settings now subject).hasType tokenType = decide (tokenType = .refresh) := by
  cases tokenType <;>
    simp [Claims.hasType, refreshClaims, refreshPayload, createTokenPayload, Json.get,
      TokenType.value]

end Payloads
end LxdApi

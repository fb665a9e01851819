import LxdApi.Library.Machine
import LxdApi.AuthRoutes
import Mathlib.Data.Nat.Pairing
import Mathlib.Logic.Equiv.List

set_option autoImplicit false

/- The part of the service that deals in credentials, as a machine: the user table,
   the tokens it has signed and its clock, under the calls of any client. -/
namespace LxdApi

/-- Signing under the configured secret. Distinct payloads have distinct tokens. -/
structure Jose where
  sign : Dict → String
  injective : Function.Injective sign
  refusal : String → String

structure Server where
  db : UserStore
  minted : List Claims
  now : Int

/-- Decoding succeeds on the tokens that were signed here and have not expired. -/
def Server.decodeToken (jose : Jose) (server : Server) : DecodeToken := fun token =>
  match server.minted.find? fun claims => jose.sign claims.fields = token with
  | none => .error (jose.refusal token)
  | some claims =>
    match claims.exp? with
    | none => .ok claims
    | some exp => if server.now ≤ exp then .ok claims else .error "Signature has expired."

/-- A call, with whatever strings the client puts in it. The guarded calls stand for
    every route that declares this role. -/
inductive Request where
  | login (username password : String)
  | refresh (refreshToken : String)
  | register (creds : Option String) (payload : UserCreate) (salt : String)
  | me (creds : Option String)
  | listUsers (creds : Option String)
  | rest (role : Role) (creds : Option String)
  | ws (role : Role) (token : Option String)
  | tick (seconds : Nat)

inductive Response where
  | tokens (pair : TokenPair)
  | user (user : UserOut)
  | users (users : List UserOut)
  | admitted (user : User)
  | refused (exc : Raised)
  | closed (code : Nat)
  | ticked

section Serve
variable [Platform] (settings : Settings) (pwdContext : CryptContext) (jose : Jose)

def Server.issue (server : Server) (minted : Except HTTPException TokenPair) :
    Response × Server :=
  match minted with
  | .error exc => (.refused (.http exc), server)
  | .ok pair => (.tokens pair, { server with minted := server.minted ++ pair.claims })

def Response.ofExcept {A : Type} (answer : A → Response) : Except Raised A → Response
  | .ok value => answer value
  | .error exc => .refused exc

def serve (server : Server) (request : Request) : Response × Server :=
  let decodeToken := server.decodeToken jose
  match request with
  | .login username password =>
      server.issue (login settings pwdContext server.now server.db username password)
  | .refresh token =>
      server.issue (refresh settings server.now decodeToken server.db token)
  | .register creds payload salt =>
      let answer := register pwdContext decodeToken server.db creds payload salt
      (Response.ofExcept .user answer.1, { server with db := answer.2 })
  | .me creds => (Response.ofExcept .user (me decodeToken server.db creds), server)
  | .listUsers creds => (Response.ofExcept .users (listUsers decodeToken server.db creds), server)
  | .rest role creds =>
      (Response.ofExcept .admitted
        ((restGuard decodeToken server.db role creds).mapError .http), server)
  | .ws role token =>
      match wsGate decodeToken server.db role token with
      | .ok user => (.admitted user, server)
      | .error code => (.closed code, server)
  | .tick seconds => (.ticked, { server with now := server.now + seconds })

end Serve

theorem decodeToken_ok {jose : Jose} {server : Server} {token : String} {claims : Claims}
    (decoded : server.decodeToken jose token = .ok claims) :
    claims ∈ server.minted ∧ jose.sign claims.fields = token := by
  unfold Server.decodeToken at decoded
  split at decoded
  · cases decoded
  · rename_i found
    have member := List.mem_of_find?_eq_some found
    have signed := List.find?_some found
    rw [decide_eq_true_eq] at signed
    split at decoded
    · cases decoded
      exact ⟨member, signed⟩
    · split at decoded
      · cases decoded
        exact ⟨member, signed⟩
      · cases decoded

theorem decodeToken_sign {jose : Jose} {server : Server} {given claims : Claims}
    (decoded : server.decodeToken jose (jose.sign given.fields) = .ok claims) :
    claims = given := by
  have same := jose.injective (decodeToken_ok decoded).2
  cases claims
  cases given
  cases same
  rfl

/- A signing function of the assumed kind: every document has its own number. -/
def textCode (s : String) : Nat := Encodable.encode (s.toList.map Char.toNat)

mutual
def jsonCode : Json → Nat
  | .null => Nat.pair 0 0
  | .bool b => Nat.pair 1 b.toNat
  | .int n => Nat.pair 2 (Encodable.encode n)
  | .float text => Nat.pair 3 (textCode text)
  | .str s => Nat.pair 4 (textCode s)
  | .arr items => Nat.pair 5 (itemsCode items)
  | .obj fields => Nat.pair 6 (fieldsCode fields)
def itemsCode : List Json → Nat
  | [] => 0
  | item :: rest => Nat.pair (jsonCode item) (itemsCode rest) + 1
def fieldsCode : List (String × Json) → Nat
  | [] => 0
  | (key, value) :: rest => Nat.pair (textCode key) (Nat.pair (jsonCode value) (fieldsCode rest)) + 1
end

theorem textCode_injective {s t : String} (same : textCode s = textCode t) : s = t := by
  have lists := Encodable.encode_injective same
  exact String.toList_injective (List.map_injective_iff.mpr (fun _ _ h => Char.toNat_inj.mp h) lists)

mutual
theorem jsonCode_injective {a b : Json} (same : jsonCode a = jsonCode b) : a = b := by
  cases a <;> cases b <;> simp only [jsonCode, Nat.pair_eq_pair] at same <;> try omega
  case bool.bool a b => cases a <;> cases b <;> simp_all
  case int.int => rw [Encodable.encode_injective same.2]
  case float.float => rw [textCode_injective same.2]
  case str.str => rw [textCode_injective same.2]
  case arr.arr => rw [itemsCode_injective same.2]
  case obj.obj => rw [fieldsCode_injective same.2]
  case null.null => rfl
theorem itemsCode_injective {a b : List Json} (same : itemsCode a = itemsCode b) : a = b := by
  cases a <;> cases b <;> simp only [itemsCode, Nat.add_right_cancel_iff, Nat.pair_eq_pair] at same
  case nil.nil => rfl
  case nil.cons => omega
  case cons.nil => omega
  case cons.cons => rw [jsonCode_injective same.1, itemsCode_injective same.2]
theorem fieldsCode_injective {a b : List (String × Json)} (same : fieldsCode a = fieldsCode b) :
    a = b := by
  cases a <;> cases b <;>
    simp only [fieldsCode, Nat.add_right_cancel_iff, Nat.pair_eq_pair] at same
  case nil.nil => rfl
  case nil.cons => omega
  case cons.nil => omega
  case cons.cons x _ y _ =>
    obtain ⟨key, value, rest⟩ := same
    rw [Prod.ext (textCode_injective key) (jsonCode_injective value), fieldsCode_injective rest]
end
def plainJose : Jose where
  sign fields := String.ofList (List.replicate (fieldsCode fields) 'x')
  injective := by
    intro a b same
    have lists := congrArg String.toList same
    rw [String.toList_ofList, String.toList_ofList] at lists
    exact fieldsCode_injective (List.replicate_left_injective 'x' lists)
  refusal _ := "Not enough segments"

end LxdApi

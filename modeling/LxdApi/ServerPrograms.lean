import LxdApi.Library.Linearizable
import LxdApi.RoundTrips
import LxdApi.UserPrograms

set_option autoImplicit false

/- The server with the user table and LXD behind it. Every request is a program of round
   trips to the two; between two of them those of other requests may be served. -/
namespace LxdApi
open Interaction Program

/- A round trip to the user table stands for the code around one query: nothing else of
   that code touches what requests share. -/
inductive ServerEffect where
  | user (effect : UserEffect)
  | authenticate (username password : String)
  | refreshUser (refreshToken : String)
  | currentUser (creds : Option String)
  | wsGate (role : Role) (token : Option String)
  | listUsers
  | outward (effect : Effect)

def ServerEffect.Reply : ServerEffect → Type
  | .user effect => effect.Reply
  | .authenticate _ _ => Except HTTPException User
  | .refreshUser _ => Except HTTPException User
  | .currentUser _ => Except HTTPException User
  | .wsGate _ _ => Except Nat User
  | .listUsers => List User
  | .outward effect => effect.Reply

structure Backend (S : Type) where
  db : UserStore
  lxd : S

inductive ServerAnswer where
  | tokens (pair : TokenPair)
  | user (user : UserOut)
  | users (users : List UserOut)
  | answer (answer : Answer)

inductive ServerCall where
  | login (now : Int) (username password : String)
  | refresh (now : Int) (refreshToken : String)
  | register (creds : Option String) (payload : UserCreate) (salt : String)
  | me (creds : Option String)
  | listUsers (creds : Option String)
  | route (called : Call) (creds : Option String)

abbrev ServerProgram := Program ServerEffect ServerEffect.Reply Raised ServerAnswer

section Server
variable [Platform] (settings : Settings) (pwdContext : CryptContext) (decodeToken : DecodeToken)
  (lxd : LXDClient)

def Backend.serve {S : Type} (answer : S → (effect : Effect) → effect.Reply × S) (b : Backend S) :
    (effect : ServerEffect) → effect.Reply × Backend S
  | .user effect =>
    let served := UserStore.serve pwdContext decodeToken b.db effect
    (served.1, { b with db := served.2 })
  | .authenticate username password =>
    (LxdApi.authenticate pwdContext b.db username password, b)
  | .refreshUser refreshToken => (LxdApi.refreshUser decodeToken b.db refreshToken, b)
  | .currentUser creds => (getCurrentUser decodeToken b.db creds, b)
  | .wsGate role token => (LxdApi.wsGate decodeToken b.db role token, b)
  | .listUsers => (b.db.listUsers, b)
  | .outward effect =>
    let served := answer b.lxd effect
    (served.1, { b with lxd := served.2 })

omit [Platform] in
def found {A : Type} (user : Except HTTPException User) (next : User → Except Raised A) :
    Except Raised A :=
  (user.mapError .http).bind next

omit [Platform] in
def outward (body : Handler Answer) : ServerProgram :=
  body.embed .outward (fun _ reply => reply) .answer

def routeProgram (call : Call) (creds : Option String) : ServerProgram :=
  match call.guard with
  | .open => outward (call.program lxd)
  | .rest role =>
    .call (.user (.requireRole role creds)) fun admitted : Except HTTPException User =>
      outward (guarded admitted (call.program lxd))
  | .ws role =>
    .call (.wsGate role creds) fun admitted : Except Nat User =>
      outward (accepting admitted (call.program lxd))

def ServerCall.program : ServerCall → ServerProgram
  | .login now username password =>
    .call (.authenticate username password) fun user : Except HTTPException User =>
      ofExcept (found user fun user => .ok (.tokens (makeTokenPair settings now user)))
  | .refresh now refreshToken =>
    .call (.refreshUser refreshToken) fun user : Except HTTPException User =>
      ofExcept (found user fun user => .ok (.tokens (makeTokenPair settings now user)))
  | .register creds payload salt =>
    (registerProgram creds payload salt).embed .user (fun _ reply => reply) .user
  | .me creds =>
    .call (.currentUser creds) fun user : Except HTTPException User =>
      ofExcept (found user fun user => (UserOut.modelValidate user).map .user)
  | .listUsers creds =>
    .call (.user (.requireRole .ADMIN creds)) fun admitted : Except HTTPException User =>
      match admitted with
      | .error exc => .raise (.http exc)
      | .ok _ => .call .listUsers fun users : List User =>
        ofExcept ((users.mapM UserOut.modelValidate).map .users)
  | .route called creds => routeProgram lxd called creds

def ServerCall.alone {S : Type} (answer : S → (effect : Effect) → effect.Reply × S)
    (b : Backend S) : ServerCall → Except Raised ServerAnswer × Backend S
  | .login now username password =>
    (((LxdApi.login settings pwdContext now b.db username password).mapError .http).map .tokens, b)
  | .refresh now refreshToken =>
    (((LxdApi.refresh settings now decodeToken b.db refreshToken).mapError .http).map .tokens, b)
  | .register creds payload salt =>
    let answered := LxdApi.register pwdContext decodeToken b.db creds payload salt
    (answered.1.map .user, { b with db := answered.2 })
  | .me creds => ((LxdApi.me decodeToken b.db creds).map .user, b)
  | .listUsers creds => ((LxdApi.listUsers decodeToken b.db creds).map .users, b)
  | .route called creds =>
    let ran := (called.serve decodeToken b.db lxd creds).runFrom answer b.lxd
    (ran.1.map .answer, { b with lxd := ran.2 })

end Server

section Alone
variable [Platform] {settings : Settings} {pwdContext : CryptContext} {decodeToken : DecodeToken}
  {lxd : LXDClient} {S : Type} {answer : S → (effect : Effect) → effect.Reply × S}

theorem outward_runFrom (body : Handler Answer) (b : Backend S) :
    (outward body).runFrom (Backend.serve pwdContext decodeToken answer) b =
      ((body.runFrom answer b.lxd).1.map .answer,
        { b with lxd := (body.runFrom answer b.lxd).2 }) :=
  embed_runFrom Backend.lxd (fun b lxd => { b with lxd := lxd }) (fun _ _ => rfl) (fun _ => rfl)
    (fun _ _ _ => rfl) (fun _ _ => ⟨rfl, rfl⟩) body b

theorem program_runFrom (call : ServerCall) (b : Backend S) :
    (call.program settings lxd).runFrom (Backend.serve pwdContext decodeToken answer) b =
      call.alone settings pwdContext decodeToken lxd answer b := by
  cases call with
  | login now username password =>
    simp only [ServerCall.program, ServerCall.alone, runFrom, Backend.serve, runFrom_ofExcept, found,
      LxdApi.login]
    cases LxdApi.authenticate pwdContext b.db username password <;> rfl
  | refresh now refreshToken =>
    simp only [ServerCall.program, ServerCall.alone, runFrom, Backend.serve, runFrom_ofExcept, found,
      LxdApi.refresh]
    cases LxdApi.refreshUser decodeToken b.db refreshToken <;> rfl
  | register creds payload salt =>
    have own := @registerProgram_runFrom _ pwdContext decodeToken creds payload salt b.db
    refine (embed_runFrom Backend.db (fun b db => { b with db := db }) (fun _ _ => rfl)
      (fun _ => rfl) (fun _ _ _ => rfl) (fun _ _ => ⟨rfl, rfl⟩)
      (registerProgram creds payload salt) b).trans ?_
    rw [own]
    rfl
  | me creds =>
    simp only [ServerCall.program, ServerCall.alone, runFrom, Backend.serve, runFrom_ofExcept, found,
      LxdApi.me]
    cases getCurrentUser decodeToken b.db creds <;> rfl
  | listUsers creds =>
    simp only [ServerCall.program, ServerCall.alone, runFrom, Backend.serve, UserStore.serve,
      LxdApi.listUsers]
    cases restGuard decodeToken b.db .ADMIN creds with
    | error exc => rfl
    | ok admin => simp only [runFrom, Backend.serve, runFrom_ofExcept]
  | route called creds =>
    simp only [ServerCall.program, ServerCall.alone, routeProgram, Call.serve]
    cases called.guard with
    | «open» => exact outward_runFrom _ b
    | rest role => exact outward_runFrom _ b
    | ws role => exact outward_runFrom _ b

end Alone

/-- The most round trips of a request: those of its body, its guard, and the acceptance of a
    handshake. -/
def ServerCall.roundTrips : ServerCall → Nat
  | .login .. | .refresh .. | .me .. => 1
  | .register .. | .listUsers .. => 2
  | .route called _ =>
    match called.guard with
    | .open => called.roundTrips
    | .rest _ => called.roundTrips + 1
    | .ws _ => called.roundTrips + 2

theorem within_of_query {effect : ServerEffect} {A : Type}
    (outcomeOf : effect.Reply → Except Raised A) :
    (Program.call effect fun reply => ofExcept (outcomeOf reply) : Program ServerEffect
      ServerEffect.Reply Raised A).Within 1 :=
  fun _ => within_of_ended (ended_ofExcept _) 0

theorem register_within (payload : UserCreate) (salt : String) :
    ((registerBody payload salt).embed .user (fun _ reply => reply) .user : ServerProgram).Within
      1 := by
  refine embed_within ?_
  intro created
  cases created with
  | error exc => trivial
  | ok user => exact within_of_ended (ended_ofExcept _) 0

theorem accepting_within {admitted : Except Nat User} {body : Handler Answer} {n : Nat}
    (within : body.Within n) : (accepting admitted body).Within (n + 1) := by
  cases admitted with
  | error code =>
    intro _
    refine within_of_ended ?_ n
    trivial
  | ok user => exact fun _ => within

theorem guarded_within {admitted : Except HTTPException User} {body : Handler Answer} {n : Nat}
    (within : body.Within n) : (guarded admitted body).Within n := by
  cases admitted with
  | error exc =>
    refine within_of_ended ?_ n
    trivial
  | ok user => exact within

theorem program_within [Platform] (settings : Settings) (lxd : LXDClient) (call : ServerCall) :
    (call.program settings lxd).Within call.roundTrips := by
  cases call with
  | login now username password => exact within_of_query _
  | refresh now refreshToken => exact within_of_query _
  | me creds => exact within_of_query _
  | register creds payload salt =>
    intro admitted
    cases admitted with
    | error exc => trivial
    | ok admin => exact register_within payload salt
  | listUsers creds =>
    intro admitted
    cases admitted with
    | error exc => trivial
    | ok admin => exact within_of_query _
  | route called creds =>
    have body := (handler_costs lxd called).within
    simp only [ServerCall.program, routeProgram, ServerCall.roundTrips]
    cases called.guard with
    | «open» => exact embed_within body
    | rest role => exact fun _ => embed_within (guarded_within body)
    | ws role => exact fun _ => embed_within (accepting_within body)

end LxdApi

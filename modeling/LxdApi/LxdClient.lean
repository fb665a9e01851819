import LxdApi.Library.Interaction
import LxdApi.Config
import LxdApi.Envelope
import LxdApi.Exceptions

set_option autoImplicit false

/- `services/lxd_client.py`: one method talks to LXD, `request`, and everything
   the handlers see of a reply is what it returns or raises. -/
namespace LxdApi
open Interaction OrderedMap Json

structure LXDClient where
  settings : Settings

inductive Method where
  | GET
  | POST
  | PUT
  | PATCH
  | DELETE
  deriving DecidableEq, Repr

/- The literal segments that occur in the paths of the handlers. -/
inductive Word where
  | instances | snapshots | backups | exec | console | logs | state | export
  | storagePools | volumes | resources | networks | projects | images | aliases
  | operations | wait | websocket | events
  deriving DecidableEq, Repr

def Word.text : Word → String
  | .instances => "instances"
  | .snapshots => "snapshots"
  | .backups => "backups"
  | .exec => "exec"
  | .console => "console"
  | .logs => "logs"
  | .state => "state"
  | .export => "export"
  | .storagePools => "storage-pools"
  | .volumes => "volumes"
  | .resources => "resources"
  | .networks => "networks"
  | .projects => "projects"
  | .images => "images"
  | .aliases => "aliases"
  | .operations => "operations"
  | .wait => "wait"
  | .websocket => "websocket"
  | .events => "events"

/- An f-string path, read between its slashes: a literal segment or the place of
   a parameter together with the value it is given. -/
inductive Piece where
  | lit (w : Word)
  | arg (value : String)
  deriving DecidableEq

def Piece.text : Piece → String
  | .lit w => w.text
  | .arg value => value

/-- A path relative to `/1.0`, whose first segment is always a literal one, or the path
    `"/"` that some callers pass. -/
inductive LXDPath where
  | under (first : Word) (rest : List Piece)
  | root
  deriving DecidableEq

/-- The URL text `request` hands to the HTTP client. -/
def LXDPath.url : LXDPath → String
  | .under first rest => "/1.0/" ++ "/".intercalate (first.text :: rest.map Piece.text)
  | .root => "/"

inductive Param where
  | none
  | str (s : String)
  | int (n : Int)
  | bool (b : Bool)
  | float (q : Rat)
  deriving DecidableEq

def Param.ofOption : Option String → Param
  | some s => .str s
  | .none => .none

abbrev Params := List (String × Param)

def Param.text [Platform] : Param → String
  | .none => ""
  | .str s => s
  | .int n => toString n
  | .bool b => if b then "true" else "false"
  | .float q => Platform.floatStr q

/- The JSON body of a request. A body the caller of the API wrote is kept apart
   from one the handler wrote itself. -/
inductive RequestBody where
  | none
  | fixed (body : Json)
  | free (body : Json)

structure LXDRequest where
  method : Method
  path : LXDPath
  jsonBody : RequestBody
  params : Option Params
  timeout : Rat

/-- The entries of the query string; without params none are added. -/
def LXDRequest.query [Platform] (req : LXDRequest) : List (String × String) :=
  ((req.params.getD []).map fun entry => (entry.1, entry.2.text))

inductive Body where
  | empty
  | plain (text : String)
  | json (text : String) (value : Json)

def Body.text : Body → String
  | .empty => ""
  | .plain text => text
  | .json text _ => text

def Body.parsed : Body → Option Json
  | .json _ value => some value
  | _ => none

structure HttpReply where
  statusCode : Nat
  body : Body

/-- What the HTTP client gives back: a reply, a transport failure, or its refusal
    of the URL, which is not a transport failure and which no caller catches. -/
inductive Wire where
  | reply (r : HttpReply)
  | httpError (exc : String)
  | invalidUrl

/- The URL of a WebSocket that LXD serves: `ws_url(path, secret=...)` and what a
   caller appends to it. -/
structure WsUrl where
  path : LXDPath
  secret : Option String
  suffix : String
  deriving DecidableEq

inductive Effect where
  | lxd (req : LXDRequest)
  | connect (url : WsUrl)
  | accept
  | close (code : Nat)
  | sendText (text : String)

/- The client takes whatever it is sent: Starlette raises when it has gone, which is left out. -/
def Effect.Reply : Effect → Type
  | .lxd _ => Wire
  | .connect _ => Except String Unit
  | .accept => Unit
  | .close _ => Unit
  | .sendText _ => Unit

abbrev Handler (A : Type) := Program Effect Effect.Reply Raised A

def HttpReply.envelope [Platform] (r : HttpReply) : Option LXDResponse :=
  r.body.parsed.bind LXDResponse.modelValidate

/-- `envelope.error_code or response.status_code` -/
def effectiveCode (envelope : LXDResponse) (statusCode : Nat) : Int :=
  match envelope.errorCode with
  | some code => if code ≠ 0 then code else statusCode
  | none => statusCode

def errorText (envelope : LXDResponse) : String :=
  match envelope.error with
  | some error => if error ≠ "" then error else "LXD error"
  | none => "LXD error"

def nonJsonError (r : HttpReply) : LXDError :=
  ⟨.LXDError,
    "LXD returned a non-JSON response (HTTP " ++ toString r.statusCode ++ "): " ++
      String.ofList (r.body.text.toList.take 200),
    r.statusCode⟩

/- The payload of an accepted envelope. An async envelope without metadata is
   replaced by its operation URL and status. -/
def payload (envelope : LXDResponse) : Json :=
  if envelope.isAsync then
    match envelope.metadata with
    | .null => .obj [("operation", (envelope.operation.map Json.str).getD .null),
        ("status", (envelope.status.map Json.str).getD .null)]
    | metadata => metadata
  else envelope.metadata

/-- What `request` makes of a reply when the caller did not ask for the raw one. -/
def normalize [Platform] (r : HttpReply) : Except LXDError Json :=
  match r.body with
  | .empty => .ok .null
  | _ =>
    match r.envelope with
    | none => .error (nonJsonError r)
    | some envelope =>
      if envelope.isError then
        .error (lxdErrorForStatus (errorText envelope) (effectiveCode envelope r.statusCode))
      else .ok (payload envelope)

namespace LXDClient

def connectionError (lxd : LXDClient) (exc : String) : LXDError :=
  ⟨.LXDConnectionError,
    "Cannot reach LXD (" ++ lxd.settings.LXD_CONNECTION_MODE.text ++ " mode): " ++ exc, 0⟩

/-- `request(..., raw_response=True)` -/
def requestRaw (lxd : LXDClient) (method : Method) (path : LXDPath) (jsonBody : RequestBody)
    (params : Option Params) : Handler HttpReply :=
  .call (.lxd ⟨method, path, jsonBody, params, lxd.settings.LXD_TIMEOUT⟩) fun wire =>
    match wire with
    | .reply r => .done r
    | .httpError exc => .raise (.lxd (lxd.connectionError exc))
    | .invalidUrl => .raise (.unhandled "InvalidURL")

def request [Platform] (lxd : LXDClient) (method : Method) (path : LXDPath)
    (jsonBody : RequestBody) (params : Option Params) : Handler Json := do
  let response ← lxd.requestRaw method path jsonBody params
  Program.ofExcept ((normalize response).mapError .lxd)

def get [Platform] (lxd : LXDClient) (path : LXDPath) (params : Option Params) : Handler Json :=
  lxd.request .GET path .none params

def post [Platform] (lxd : LXDClient) (path : LXDPath) (body : RequestBody)
    (params : Option Params) : Handler Json :=
  lxd.request .POST path body params

/-- The shared helper for query parameters; the routes do not call it. -/
def buildParams (recursion : Option Int) (filterExpr project : Option String) (extra : Params) :
    Params :=
  let params : Params := []
  let params := match recursion with
    | some n => set params "recursion" (.int n)
    | none => params
  let params := match filterExpr with
    | some f => if f = "" then params else set params "filter" (.str f)
    | none => params
  let params := match project with
    | some p => if p = "" then params else set params "project" (.str p)
    | none => params
  update params extra

end LXDClient

section Replies
variable [Platform] {r : HttpReply} {envelope : LXDResponse}

theorem normalize_of_empty (empty : r.body = .empty) : normalize r = .ok .null := by
  simp only [normalize, empty]

theorem normalize_of_accepted (parsed : r.envelope = some envelope)
    (fine : envelope.isError = false) : normalize r = .ok (payload envelope) := by
  unfold normalize
  split
  · rename_i empty
    simp [HttpReply.envelope, empty, Body.parsed] at parsed
  · simp [parsed, fine]

theorem normalize_of_error (parsed : r.envelope = some envelope)
    (isError : envelope.isError = true) :
    normalize r = .error
      (lxdErrorForStatus (errorText envelope) (effectiveCode envelope r.statusCode)) := by
  unfold normalize
  split
  · rename_i empty
    simp [HttpReply.envelope, empty, Body.parsed] at parsed
  · simp [parsed, isError]

theorem normalize_cases (r : HttpReply) :
    (r.body = .empty ∧ normalize r = .ok .null) ∨
    (∃ envelope, r.envelope = some envelope ∧ envelope.isError = false ∧
      normalize r = .ok (payload envelope)) ∨
    (∃ envelope, r.envelope = some envelope ∧ envelope.isError = true ∧
      normalize r = .error
        (lxdErrorForStatus (errorText envelope) (effectiveCode envelope r.statusCode))) ∨
    (r.body ≠ .empty ∧ r.envelope = none ∧ normalize r = .error (nonJsonError r)) := by
  by_cases empty : r.body = .empty
  · exact Or.inl ⟨empty, normalize_of_empty empty⟩
  · cases parsed : r.envelope with
    | none => exact Or.inr (Or.inr (Or.inr ⟨empty, rfl, by unfold normalize; split <;> simp_all⟩))
    | some envelope =>
      cases failed : envelope.isError with
      | true =>
        exact Or.inr (Or.inr (Or.inl ⟨envelope, rfl, failed, normalize_of_error parsed failed⟩))
      | false =>
        exact Or.inr (Or.inl ⟨envelope, rfl, failed, normalize_of_accepted parsed failed⟩)

theorem refused_cases {exc : LXDError} (refused : normalize r = .error exc) :
    (∃ envelope, r.envelope = some envelope ∧ envelope.isError = true ∧
      exc = lxdErrorForStatus (errorText envelope) (effectiveCode envelope r.statusCode)) ∨
    (r.body ≠ .empty ∧ r.envelope = none ∧ exc = nonJsonError r) := by
  rcases normalize_cases r with ⟨_, same⟩ | ⟨_, _, _, same⟩ | ⟨envelope, parsed, isError, same⟩ |
      ⟨some, unparsed, same⟩
  · rw [refused] at same
    cases same
  · rw [refused] at same
    cases same
  · rw [refused] at same
    cases same
    exact Or.inl ⟨envelope, parsed, isError, rfl⟩
  · rw [refused] at same
    cases same
    exact Or.inr ⟨some, unparsed, rfl⟩

theorem normalize_of_unparsed (some : r.body ≠ .empty)
    (unparsed : r.envelope = none) : normalize r = .error (nonJsonError r) := by
  rcases normalize_cases r with ⟨empty, _⟩ | ⟨_, parsed, _, _⟩ | ⟨_, parsed, _, _⟩ | ⟨_, _, same⟩
  · exact absurd empty some
  · rw [unparsed] at parsed
    cases parsed
  · rw [unparsed] at parsed
    cases parsed
  · exact same

def Hands (r : HttpReply) (value : Json) : Prop :=
  (r.body = .empty ∧ value = .null) ∨
    ∃ envelope, r.envelope = some envelope ∧ envelope.isError = false ∧ value = payload envelope

theorem hands_iff (r : HttpReply) (value : Json) : Hands r value ↔ normalize r = .ok value := by
  constructor
  · intro hands
    rcases hands with ⟨empty, nothing⟩ | ⟨envelope, parsed, fine, same⟩
    · rw [nothing, normalize_of_empty empty]
    · rw [same, normalize_of_accepted parsed fine]
  · intro ok
    rcases normalize_cases r with ⟨empty, same⟩ | ⟨envelope, parsed, fine, same⟩ |
        ⟨_, _, _, same⟩ | ⟨_, _, same⟩
    · rw [same] at ok
      cases ok
      exact Or.inl ⟨empty, rfl⟩
    · rw [same] at ok
      cases ok
      exact Or.inr ⟨envelope, parsed, fine, rfl⟩
    · rw [same] at ok
      cases ok
    · rw [same] at ok
      cases ok

theorem hands_unique {first second : Json} (one : Hands r first)
    (other : Hands r second) : first = second := by
  have same := (hands_iff r first).mp one
  rw [(hands_iff r second).mp other] at same
  cases same
  rfl

end Replies
end LxdApi

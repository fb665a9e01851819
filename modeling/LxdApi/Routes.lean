import LxdApi.LxdOperations
import LxdApi.Pagination

set_option autoImplicit false

/- What the handlers of all routers have in common: one call to LXD inside the
   `try` that maps LXD errors, and one of few ways to answer with its result. -/
namespace LxdApi
open Interaction OrderedMap Json

inductive Answer where
  | value (value : Json)
  | page (page : Page)
  | ref (ref : AsyncOperationRef)
  | success (operationId : String)
  | message (text : String)
  | stream (reply : HttpReply) (mediaType disposition : String)
  | health (status lxd : String) (detail : Option String)
  | closed

def toHttp : Raised → Raised
  | .lxd exc => .http (lxdErrToHttp exc)
  | other => other

/-- `except LXDError as exc: raise _lxd_err_to_http(exc)` -/
def orHttp {A : Type} (body : Handler A) : Handler A :=
  body.handle fun exc => .raise (toHttp exc)

/-- `{"project": project} or None`: a dict with a key is never falsy. -/
def projectParams (project : Option String) : Option Params :=
  orNone [("project", .ofOption project)]

inductive Finish where
  | any
  | dict
  | page (page : PageParams)
  | ref
  | message (text : String)

/- A handler declared to return a dict fails its response validation on
   anything else; only a list can be cut into pages. -/
def Finish.answer [Platform] : Finish → Json → Except Raised Answer
  | .any, result => .ok (.value result)
  | .dict, result =>
      if result.isDict then .ok (.value result)
      else .error (.unhandled "ResponseValidationError")
  | .page params, result =>
      let items := match result with
        | .arr items => items
        | _ => []
      .ok (.page (paginate items params))
  | .ref, result => (toAsyncRef result).map .ref
  | .message text, _ => .ok (.message text)

def single [Platform] (lxd : LXDClient) (method : Method) (path : LXDPath) (body : RequestBody)
    (params : Option Params) (finish : Finish) : Handler Answer := do
  let result ← orHttp (lxd.request method path body params)
  Program.ofExcept (finish.answer result)

def reading [Platform] (lxd : LXDClient) (path : LXDPath) (params : Option Params)
    (finish : Finish) : Handler Answer :=
  single lxd .GET path .none params finish

def mutating [Platform] (lxd : LXDClient) (method : Method) (path : LXDPath)
    (body : RequestBody) (params : Option Params) : Handler Answer :=
  single lxd method path body params .ref

/-- `except LXDOperationError as exc: raise HTTPException(500, exc.message)` -/
def operationErrorOnly : Raised → Raised
  | .lxd exc => if exc.type = .LXDOperationError then .http ⟨500, exc.message⟩ else .lxd exc
  | other => other

def Raised.text : Raised → String
  | .lxd exc => exc.message
  | .http exc => toString exc.statusCode ++ ": " ++ exc.detail
  | .unhandled name => name

/-- `except Exception as exc: raise HTTPException(500, str(exc))` -/
def everyException (exc : Raised) : Raised := .http ⟨500, exc.text⟩

def mutatingOrWaiting [Platform] (lxd : LXDClient) (method : Method) (path : LXDPath)
    (body : RequestBody) (project : Option String) (wait : Bool)
    (caught : Raised → Raised) : Handler Answer := do
  let result ← orHttp (lxd.request method path body (projectParams project))
  let ref ← Program.ofExcept (toAsyncRef result)
  if wait = true ∧ ref.operationId ≠ "" then
    (waitForOperation lxd ref.operationId 0 project >>= fun _ =>
      pure (.success ref.operationId)).handle fun exc => .raise (caught exc)
  else pure (.ref ref)

/-- Header values are written in Latin-1. -/
def latin1 (text : String) : Bool := text.toList.all fun c => c.toNat < 256

def streaming (lxd : LXDClient) (path : LXDPath) (params : Option Params)
    (mediaType disposition : String) : Handler Answer := do
  let response ← orHttp (lxd.requestRaw .GET path .none params)
  if latin1 disposition then pure (.stream response mediaType disposition)
  else .raise (.unhandled "UnicodeEncodeError")

/-- A key as JSON writes it; lists and dicts cannot be keys. -/
def keyText : Json → Option String
  | .str s => some s
  | .null => some "null"
  | .bool b => some (if b then "true" else "false")
  | .int n => some (toString n)
  | .float text => some text
  | .arr _ => none
  | .obj _ => none

/-- One element of a sequence of pairs: anything that iterates over two values. -/
def pairInto (devices : Dict) (item : Json) : Except Raised Dict :=
  let pair : Except Raised (Json × Json) := match item with
    | .arr [key, value] => .ok (key, value)
    | .obj [(key, _), (value, _)] => .ok (.str key, .str value)
    | .str s =>
        match s.toList with
        | [key, value] => .ok (.str (String.ofList [key]), .str (String.ofList [value]))
        | _ => .error (.unhandled "ValueError")
    | .arr _ | .obj _ => .error (.unhandled "ValueError")
    | _ => .error (.unhandled "TypeError")
  pair >>= fun (key, value) =>
    match keyText key with
    | some key => .ok (set devices key value)
    | none => .error (.unhandled "TypeError")

/- `dict(value)`: a mapping is copied, a sequence must consist of pairs. The map
   LXD sends is an object. -/
def dictOf : Json → Except Raised Dict
  | .obj fields => .ok fields
  | .arr items => items.foldlM pairInto []
  | .str s => if s = "" then .ok [] else .error (.unhandled "ValueError")
  | _ => .error (.unhandled "TypeError")

def devicesOf (inst : Json) : Except Raised Dict :=
  match inst with
  | .obj fields =>
      match get? fields "devices" with
      | some devices => dictOf devices
      | none => .ok []
  | _ => .ok []

inductive DeviceEdit where
  | put (key : String) (device : Json)
  | pop (key : String)

def DeviceEdit.key : DeviceEdit → String
  | .put key _ => key
  | .pop key => key

def DeviceEdit.apply (devices : Dict) : DeviceEdit → Dict
  | .put key device => set devices key device
  | .pop key => erase devices key

def instancePath (instance' : String) : LXDPath := .under .instances [.arg instance']

def patchDevices [Platform] (lxd : LXDClient) (instance' : String) (project : Option String)
    (edit : DeviceEdit) : Handler Answer := do
  let inst ← orHttp (lxd.get (instancePath instance') (projectParams project))
  let devices ← Program.ofExcept (devicesOf inst)
  mutating lxd .PATCH (instancePath instance')
    (.fixed (.obj [("devices", .obj (edit.apply devices))])) (projectParams project)

end LxdApi

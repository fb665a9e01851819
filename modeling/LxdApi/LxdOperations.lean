import LxdApi.LxdClient

set_option autoImplicit false

/- `services/lxd_operations.py`: references to background operations, and the
   long poll for one. -/
namespace LxdApi
open Interaction OrderedMap Json

def rstripSlash (s : List Char) : List Char := (s.reverse.dropWhile (· = '/')).reverse

def operationIdFromUrl (url : Option String) : Option String :=
  match url with
  | none => none
  | some url =>
    if url = "" then none
    else some (String.ofList (((rstripSlash url.toList).splitOn '/').getLastD []))

def buildRef [Platform] (opId opUrl : Json) : Except Raised AsyncOperationRef :=
  match AsyncOperationRef.validate opId opUrl ("/api/v1/operations/" ++ pyStr opId)
      ("/api/v1/operations/" ++ pyStr opId ++ "/wait") with
  | some ref => .ok ref
  | none => .error (.unhandled "ValidationError")

/- The fallback URL is formatted from the id, whatever value it has. The second
   look at `operation` in the source repeats the first. -/
def toAsyncRef [Platform] (metadata : Json) : Except Raised AsyncOperationRef :=
  match metadata with
  | .obj fields =>
      let opId := (get? fields "id").getD (.str "")
      let opUrl := if (get fields "operation").truthy then get fields "operation"
        else .str ("/1.0/operations/" ++ pyStr opId)
      buildRef opId opUrl
  | value =>
      let opId := pyStr value
      buildRef (.str opId) (.str ("/1.0/operations/" ++ opId))

def waitParams (timeout : Rat) (project : Option String) : Params :=
  let params : Params := if 0 < timeout then [("timeout", .float timeout)] else []
  match project with
  | some p => if p = "" then params else set params "project" (.str p)
  | none => params

/-- `params or None` -/
def orNone (params : Params) : Option Params := if params.isEmpty then none else some params

/- The status strings on which a finished operation counts as failed, with the
   lower-case word the fallback message uses. -/
def failedStatus : Json → Option (String × String)
  | .str "Failure" => some ("Failure", "failure")
  | .str "Cancelled" => some ("Cancelled", "cancelled")
  | _ => none

def operationFailure [Platform] (operationId : String) (fields : Dict)
    (status lower : String) : LXDError :=
  let err := if (get fields "err").truthy then pyStr (get fields "err")
    else "operation " ++ operationId ++ " " ++ lower
  ⟨.LXDOperationError,
    "LXD operation " ++ operationId ++ " ended in " ++ status ++ ": " ++ err, 0⟩

/-- What the long poll makes of the reply of `/wait`. -/
def waited [Platform] (operationId : String) (result : Json) : Except LXDError Json :=
  match result with
  | .obj fields =>
    match failedStatus (get fields "status") with
    | some (status, lower) => .error (operationFailure operationId fields status lower)
    | none => .ok (.obj fields)
  | _ => .ok (.obj [])

def waitPath (operationId : String) : LXDPath :=
  .under .operations [.arg operationId, .lit .wait]

def waitForOperation [Platform] (lxd : LXDClient) (operationId : String) (timeout : Rat)
    (project : Option String) : Handler Json := do
  let result ← lxd.get (waitPath operationId) (orNone (waitParams timeout project))
  Program.ofExcept ((waited operationId result).mapError .lxd)

theorem buildRef_str [Platform] (id url : String) :
    buildRef (.str id) (.str url) = .ok ⟨id, url, "async", "/api/v1/operations/" ++ id,
      "/api/v1/operations/" ++ id ++ "/wait"⟩ := rfl

theorem buildRef_ok_iff [Platform] (opId opUrl : Json) (ref : AsyncOperationRef) :
    buildRef opId opUrl = .ok ref ↔ ∃ id url, opId = .str id ∧ opUrl = .str url ∧
      ref = ⟨id, url, "async", "/api/v1/operations/" ++ id,
        "/api/v1/operations/" ++ id ++ "/wait"⟩ := by
  constructor
  · intro built
    cases opId <;> cases opUrl <;> simp [buildRef, AsyncOperationRef.validate] at built
    rename_i id url
    exact ⟨id, url, rfl, rfl, built.symm⟩
  · intro h
    obtain ⟨id, url, sameId, sameUrl, shape⟩ := h
    rw [sameId, sameUrl, shape, buildRef_str]

theorem toAsyncRef_urls [Platform] {metadata : Json} {ref : AsyncOperationRef}
    (built : toAsyncRef metadata = .ok ref) :
    ref.pollUrl = "/api/v1/operations/" ++ ref.operationId ∧
      ref.waitUrl = "/api/v1/operations/" ++ ref.operationId ++ "/wait" := by
  have urls : ∀ opId opUrl, buildRef opId opUrl = .ok ref →
      ref.pollUrl = "/api/v1/operations/" ++ ref.operationId ∧
        ref.waitUrl = "/api/v1/operations/" ++ ref.operationId ++ "/wait" := by
    intro opId opUrl h
    obtain ⟨id, url, _, _, shape⟩ := (buildRef_ok_iff opId opUrl ref).mp h
    rw [shape]
    exact ⟨rfl, rfl⟩
  unfold toAsyncRef at built
  split at built <;> exact urls _ _ built

/- The id under which metadata presents itself as an operation: an object by the text
   under `id`, where no id counts as the empty one, anything else by its own text. -/
def Identifies [Platform] (id : String) : Json → Prop
  | .obj fields => (get? fields "id").getD (.str "") = .str id ∧
      ((get fields "operation").truthy = true → ∃ url, get fields "operation" = .str url)
  | other => pyStr other = id

theorem identifies_iff [Platform] (id : String) (metadata : Json) :
    Identifies id metadata ↔ ∃ ref, toAsyncRef metadata = .ok ref ∧ ref.operationId = id := by
  have text : ∀ s, s = id ↔ ∃ ref, buildRef (.str s) (.str ("/1.0/operations/" ++ s)) = .ok ref ∧
      ref.operationId = id := by
    intro s
    rw [buildRef_str]
    constructor
    · intro same
      exact ⟨_, rfl, same⟩
    · intro h
      obtain ⟨ref, built, same⟩ := h
      cases built
      exact same
  cases metadata
  case obj fields =>
    simp only [Identifies, toAsyncRef]
    constructor
    · intro h
      obtain ⟨found, isText⟩ := h
      rw [found]
      split
      · rename_i given
        obtain ⟨url, same⟩ := isText given
        rw [same]
        exact ⟨_, buildRef_str _ _, rfl⟩
      · exact ⟨_, buildRef_str _ _, rfl⟩
    · intro h
      obtain ⟨ref, built, same⟩ := h
      obtain ⟨found, url, sameId, sameUrl, shape⟩ := (buildRef_ok_iff _ _ ref).mp built
      rw [shape] at same
      rw [sameId, ← same]
      constructor
      · rfl
      · intro given
        rw [if_pos given] at sameUrl
        exact ⟨url, sameUrl⟩
  all_goals exact text _

theorem identifies_unique [Platform] {first second : String} {metadata : Json}
    (one : Identifies first metadata) (other : Identifies second metadata) : first = second := by
  obtain ⟨ref, built, same⟩ := (identifies_iff first metadata).mp one
  obtain ⟨again, rebuilt, same'⟩ := (identifies_iff second metadata).mp other
  rw [built] at rebuilt
  cases rebuilt
  exact same.symm.trans same'

end LxdApi

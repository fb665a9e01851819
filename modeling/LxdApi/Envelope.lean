import LxdApi.Json

set_option autoImplicit false

/- The response shapes of `schemas/lxd.py`. -/
namespace LxdApi
open OrderedMap Json

inductive LXDResponseType where
  | sync
  | async
  | error
  deriving DecidableEq, Repr

structure LXDResponse where
  type : LXDResponseType
  status : Option String
  statusCode : Option Int
  operation : Option String
  metadata : Json
  error : Option String
  errorCode : Option Int

namespace LXDResponse

def isSync (envelope : LXDResponse) : Bool := envelope.type = .sync
def isAsync (envelope : LXDResponse) : Bool := envelope.type = .async
def isError (envelope : LXDResponse) : Bool := envelope.type = .error

def readType : Json → Option LXDResponseType
  | .str "sync" => some .sync
  | .str "async" => some .async
  | .str "error" => some .error
  | _ => none

/- `Optional[str]`: absent and `null` are `None`, a text is itself, anything
   else fails the validation. -/
def optionalStr : Json → Option (Option String)
  | .null => some none
  | .str s => some (some s)
  | _ => none

def optionalInt [Platform] : Json → Option (Option Int)
  | .null => some none
  | value => (Platform.laxInt value).map some

def modelValidate [Platform] : Json → Option LXDResponse
  | .obj fields => do
      let type ← readType (get fields "type")
      let status ← optionalStr (get fields "status")
      let statusCode ← optionalInt (get fields "status_code")
      let operation ← optionalStr (get fields "operation")
      let error ← optionalStr (get fields "error")
      let errorCode ← optionalInt (get fields "error_code")
      return ⟨type, status, statusCode, operation, get fields "metadata", error, errorCode⟩
  | _ => none

theorem modelValidate_eq_some_iff [Platform] (fields : Dict) (envelope : LXDResponse) :
    modelValidate (.obj fields) = some envelope ↔
      readType (get fields "type") = some envelope.type ∧
      optionalStr (get fields "status") = some envelope.status ∧
      optionalInt (get fields "status_code") = some envelope.statusCode ∧
      optionalStr (get fields "operation") = some envelope.operation ∧
      optionalStr (get fields "error") = some envelope.error ∧
      optionalInt (get fields "error_code") = some envelope.errorCode ∧
      envelope.metadata = get fields "metadata" := by
  simp only [modelValidate, bind, Option.bind_eq_some_iff, pure, Option.some.injEq]
  constructor
  · intro h
    obtain ⟨type, h1, status, h2, statusCode, h3, operation, h4, error, h5, errorCode, h6, shape⟩ := h
    rw [← shape]
    exact ⟨h1, h2, h3, h4, h5, h6, rfl⟩
  · intro h
    obtain ⟨h1, h2, h3, h4, h5, h6, h7⟩ := h
    refine ⟨_, h1, _, h2, _, h3, _, h4, _, h5, _, h6, ?_⟩
    rw [← h7]

theorem optionalStr_eq_some {fields : Dict} {key s : String}
    (read : optionalStr (get fields key) = some (some s)) : get? fields key = some (.str s) := by
  unfold Json.get at read
  cases found : get? fields key with
  | none => simp [found, optionalStr] at read
  | some value =>
    rw [found, Option.getD_some] at read
    cases value <;> simp [optionalStr] at read
    rw [read]

end LXDResponse

/-- The compact reference handed to API clients; `status` is always `async`. -/
structure AsyncOperationRef where
  operationId : String
  operationUrl : String
  status : String
  pollUrl : String
  waitUrl : String
  deriving DecidableEq, Repr

def AsyncOperationRef.validate (operationId operationUrl : Json) (pollUrl waitUrl : String) :
    Option AsyncOperationRef :=
  match operationId, operationUrl with
  | .str id, .str url => some ⟨id, url, "async", pollUrl, waitUrl⟩
  | _, _ => none

end LxdApi

import Mathlib.Tactic.Common
import Mathlib.Tactic.SplitIfs

set_option autoImplicit false

/- `services/exceptions.py` and the copy of `_lxd_err_to_http` that every router
   carries. -/
namespace LxdApi

inductive LXDErrorClass where
  | LXDError
  | LXDConnectionError
  | LXDRequestError
  | LXDBadRequest
  | LXDAuthError
  | LXDNotFoundError
  | LXDConflictError
  | LXDOperationError
  deriving DecidableEq, Repr

structure LXDError where
  type : LXDErrorClass
  message : String
  statusCode : Int
  deriving DecidableEq, Repr

def lxdErrorForStatus (message : String) (statusCode : Int) : LXDError :=
  if statusCode = 400 then ⟨.LXDBadRequest, message, statusCode⟩
  else if statusCode = 401 ∨ statusCode = 403 then ⟨.LXDAuthError, message, statusCode⟩
  else if statusCode = 404 then ⟨.LXDNotFoundError, message, statusCode⟩
  else if statusCode = 409 then ⟨.LXDConflictError, message, statusCode⟩
  else ⟨.LXDRequestError, message, statusCode⟩

structure HTTPException where
  statusCode : Int
  detail : String
  deriving DecidableEq, Repr

def codeMap : LXDErrorClass → Option Int
  | .LXDBadRequest => some 400
  | .LXDAuthError => some 403
  | .LXDNotFoundError => some 404
  | .LXDConflictError => some 409
  | .LXDConnectionError => some 503
  | _ => none

def lxdErrToHttp (exc : LXDError) : HTTPException :=
  ⟨(codeMap exc.type).getD (if exc.statusCode ≠ 0 then exc.statusCode else 500), exc.message⟩

/- What can escape a `try`: an LXD error, an HTTP error already chosen by the
   handler, or an exception no handler names, which the application turns into
   a 500 answer. -/
inductive Raised where
  | lxd (exc : LXDError)
  | http (exc : HTTPException)
  | unhandled (name : String)
  deriving DecidableEq, Repr

def Raised.statusCode : Raised → Int
  | .http exc => exc.statusCode
  | .lxd _ => 500
  | .unhandled _ => 500

theorem lxdErrToHttp_forStatus (message : String) (code : Int) :
    (lxdErrToHttp (lxdErrorForStatus message code)).statusCode =
      if code = 401 then 403 else if code = 0 then 500 else code := by
  unfold lxdErrorForStatus
  split_ifs <;> simp_all [lxdErrToHttp, codeMap]

end LxdApi

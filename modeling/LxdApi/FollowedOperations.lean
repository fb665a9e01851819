import LxdApi.Library.Pool
import LxdApi.WaitFailures

set_option autoImplicit false

/- A call that waits against the two calls of a client that does its own waiting. -/
namespace LxdApi
open Interaction Program OrderedMap Json

/-- The call without its `wait=true`, and the project it is made for. -/
def Call.unwaited : Call → Option (Call × Option String)
  | .setInstanceState name payload project true =>
      some (.setInstanceState name payload project false, project)
  | .createSnapshot name payload project true =>
      some (.createSnapshot name payload project false, project)
  | .restoreSnapshot name snap project true =>
      some (.restoreSnapshot name snap project false, project)
  | .createBackup name payload project true =>
      some (.createBackup name payload project false, project)
  | _ => none

section Following
variable [Platform] (lxd : LXDClient)

/- What a call with `wait=true` is answered, and what its client would be told by waiting:
   where the call says that the operation succeeded, the client has what LXD says of it,
   which may be any status but the two failing words. -/
inductive Told : Except Raised Answer → Except Raised Answer → Prop where
  | ended {id : String} {fields : Dict} (named : id ≠ "") (fine : ¬ BadEnd (.obj fields)) :
      Told (.ok (.success id)) (.ok (.value (.obj fields)))
  | nameless {ref : AsyncOperationRef} (empty : ref.operationId = "") :
      Told (.ok (.ref ref)) (.ok (.ref ref))
  | failed (x y : Raised) : Told (.error x) (.error y)

def Call.Told (call : Call) (x y : Except Raised Answer) : Prop :=
  if call.unwaited.isSome = true then LxdApi.Told x y else x = y

variable {ι S : Type} [DecidableEq ι]

end Following

end LxdApi

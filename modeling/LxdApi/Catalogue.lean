import LxdApi.Guards
import LxdApi.ResourceRoutes

set_option autoImplicit false

/- Every handler that talks to LXD, with the arguments it is called with, the
   guard it declares and the status of its answer. -/
namespace LxdApi
open Interaction

inductive Call where
  | listInstances (instanceType project : Option String) (page : PageParams) (expand : Bool)
      (filter : Option String)
  | createInstance (payload : Dict) (project : Option String)
  | getInstance (name : String) (project : Option String)
  | replaceInstance (name : String) (payload : Dict) (project : Option String)
  | patchInstance (name : String) (payload : Dict) (project : Option String)
  | deleteInstance (name : String) (project : Option String) (force : Bool)
  | getInstanceState (name : String) (project : Option String)
  | setInstanceState (name : String) (payload : Dict) (project : Option String) (wait : Bool)
  | listInstanceLogs (name : String) (project : Option String)
  | getInstanceLog (name filename : String) (project : Option String)
  | execInstance (name : String) (payload : Dict) (project : Option String)
  | execWs (name command : String) (project : Option String)
  | consoleWs (name type : String) (project : Option String)
  | listSnapshots (name : String) (project : Option String) (page : PageParams)
  | createSnapshot (name : String) (payload : Dict) (project : Option String) (wait : Bool)
  | getSnapshot (name snap : String) (project : Option String)
  | renameSnapshot (name snap : String) (payload : Dict) (project : Option String)
  | deleteSnapshot (name snap : String) (project : Option String)
  | restoreSnapshot (name snap : String) (project : Option String) (wait : Bool)
  | listBackups (name : String) (project : Option String) (page : PageParams)
  | createBackup (name : String) (payload : Dict) (project : Option String) (wait : Bool)
  | getBackup (name backup : String) (project : Option String)
  | deleteBackup (name backup : String) (project : Option String)
  | exportBackup (name backup : String) (project : Option String)
  | listPools (project : Option String) (page : PageParams) (expand : Bool)
  | createPool (payload : Dict) (project : Option String)
  | getPool (name : String) (project : Option String)
  | updatePool (name : String) (payload : Dict) (project : Option String)
  | patchPool (name : String) (payload : Dict) (project : Option String)
  | deletePool (name : String) (project : Option String)
  | listVolumes (pool : String) (project volumeType : Option String) (page : PageParams)
      (expand : Bool)
  | createVolume (pool : String) (payload : Dict) (project : Option String)
  | getVolume (pool volumeType name : String) (project : Option String)
  | updateVolume (pool volumeType name : String) (payload : Dict) (project : Option String)
  | patchVolume (pool volumeType name : String) (payload : Dict) (project : Option String)
  | deleteVolume (pool volumeType name : String) (project : Option String)
  | attachVolume (pool name instance' : String) (project : Option String)
  | detachVolume (pool name instance' : String) (project : Option String)
  | listNetworks (project : Option String) (page : PageParams) (expand : Bool)
  | createNetwork (payload : Dict) (project : Option String)
  | getNetwork (name : String) (project : Option String)
  | updateNetwork (name : String) (payload : Dict) (project : Option String)
  | patchNetwork (name : String) (payload : Dict) (project : Option String)
  | deleteNetwork (name : String) (project : Option String)
  | getNetworkState (name : String) (project : Option String)
  | attachNic (name instance' : String) (deviceName : Option String) (nicName : String)
      (project : Option String)
  | detachNic (name instance' : String) (deviceName project : Option String)
  | listProjects (page : PageParams) (expand : Bool)
  | createProject (payload : Dict)
  | getProject (name : String)
  | updateProject (name : String) (payload : Dict)
  | patchProject (name : String) (payload : Dict)
  | deleteProject (name : String)
  | listImages (project : Option String) (page : PageParams) (expand : Bool)
      (filter : Option String)
  | getImage (fingerprint : String) (project : Option String)
  | deleteImage (fingerprint : String) (project : Option String)
  | createImage (payload : Dict) (project : Option String)
  | createAlias (payload : Dict) (project : Option String)
  | deleteAlias (name : String)
  | listOperations (project : Option String) (page : PageParams)
  | getOperation (operationId : String) (project : Option String)
  | cancelOperation (operationId : String) (project : Option String)
  | waitOperation (operationId : String) (project : Option String) (timeout : WaitTimeout)
  | operationsWs (project : Option String)
  | healthDeep
  | serverInfo (project : Option String)
  | hostResources (project : Option String)
  | poolResources (name : String) (project : Option String)

namespace Call

def program [Platform] (lxd : LXDClient) : Call → Handler Answer
  | listInstances type project page expand filter =>
      LxdApi.listInstances lxd type project page expand filter
  | createInstance payload project => LxdApi.createInstance lxd payload project
  | getInstance name project => LxdApi.getInstance lxd name project
  | replaceInstance name payload project => LxdApi.replaceInstance lxd name payload project
  | patchInstance name payload project => LxdApi.patchInstance lxd name payload project
  | deleteInstance name project force => LxdApi.deleteInstance lxd name project force
  | getInstanceState name project => LxdApi.getInstanceState lxd name project
  | setInstanceState name payload project wait =>
      LxdApi.setInstanceState lxd name payload project wait
  | listInstanceLogs name project => LxdApi.listInstanceLogs lxd name project
  | getInstanceLog name filename project => LxdApi.getInstanceLog lxd name filename project
  | execInstance name payload project => LxdApi.execInstance lxd name payload project
  | execWs name command project => LxdApi.execWs lxd name command project
  | consoleWs name type project => LxdApi.consoleWs lxd name type project
  | listSnapshots name project page => LxdApi.listSnapshots lxd name project page
  | createSnapshot name payload project wait =>
      LxdApi.createSnapshot lxd name payload project wait
  | getSnapshot name snap project => LxdApi.getSnapshot lxd name snap project
  | renameSnapshot name snap payload project =>
      LxdApi.renameSnapshot lxd name snap payload project
  | deleteSnapshot name snap project => LxdApi.deleteSnapshot lxd name snap project
  | restoreSnapshot name snap project wait => LxdApi.restoreSnapshot lxd name snap project wait
  | listBackups name project page => LxdApi.listBackups lxd name project page
  | createBackup name payload project wait => LxdApi.createBackup lxd name payload project wait
  | getBackup name backup project => LxdApi.getBackup lxd name backup project
  | deleteBackup name backup project => LxdApi.deleteBackup lxd name backup project
  | exportBackup name backup project => LxdApi.exportBackup lxd name backup project
  | listPools project page expand => LxdApi.listPools lxd project page expand
  | createPool payload project => LxdApi.createPool lxd payload project
  | getPool name project => LxdApi.getPool lxd name project
  | updatePool name payload project => LxdApi.updatePool lxd name payload project
  | patchPool name payload project => LxdApi.patchPool lxd name payload project
  | deletePool name project => LxdApi.deletePool lxd name project
  | listVolumes pool project type page expand =>
      LxdApi.listVolumes lxd pool project type page expand
  | createVolume pool payload project => LxdApi.createVolume lxd pool payload project
  | getVolume pool type name project => LxdApi.getVolume lxd pool type name project
  | updateVolume pool type name payload project =>
      LxdApi.updateVolume lxd pool type name payload project
  | patchVolume pool type name payload project =>
      LxdApi.patchVolume lxd pool type name payload project
  | deleteVolume pool type name project => LxdApi.deleteVolume lxd pool type name project
  | attachVolume pool name instance' project =>
      LxdApi.attachVolume lxd pool name instance' project
  | detachVolume pool name instance' project =>
      LxdApi.detachVolume lxd pool name instance' project
  | listNetworks project page expand => LxdApi.listNetworks lxd project page expand
  | createNetwork payload project => LxdApi.createNetwork lxd payload project
  | getNetwork name project => LxdApi.getNetwork lxd name project
  | updateNetwork name payload project => LxdApi.updateNetwork lxd name payload project
  | patchNetwork name payload project => LxdApi.patchNetwork lxd name payload project
  | deleteNetwork name project => LxdApi.deleteNetwork lxd name project
  | getNetworkState name project => LxdApi.getNetworkState lxd name project
  | attachNic name instance' deviceName nicName project =>
      LxdApi.attachNic lxd name instance' deviceName nicName project
  | detachNic name instance' deviceName project =>
      LxdApi.detachNic lxd name instance' deviceName project
  | listProjects page expand => LxdApi.listProjects lxd page expand
  | createProject payload => LxdApi.createProject lxd payload
  | getProject name => LxdApi.getProject lxd name
  | updateProject name payload => LxdApi.updateProject lxd name payload
  | patchProject name payload => LxdApi.patchProject lxd name payload
  | deleteProject name => LxdApi.deleteProject lxd name
  | listImages project page expand filter => LxdApi.listImages lxd project page expand filter
  | getImage fingerprint project => LxdApi.getImage lxd fingerprint project
  | deleteImage fingerprint project => LxdApi.deleteImage lxd fingerprint project
  | createImage payload project => LxdApi.createImage lxd payload project
  | createAlias payload project => LxdApi.createAlias lxd payload project
  | deleteAlias name => LxdApi.deleteAlias lxd name
  | listOperations project page => LxdApi.listOperations lxd project page
  | getOperation operationId project => LxdApi.getOperation lxd operationId project
  | cancelOperation operationId project => LxdApi.cancelOperation lxd operationId project
  | waitOperation operationId project timeout =>
      LxdApi.waitOperation lxd operationId project timeout
  | operationsWs project => LxdApi.operationsWs project
  | healthDeep => LxdApi.healthDeep lxd
  | serverInfo project => LxdApi.serverInfo lxd project
  | hostResources project => LxdApi.hostResources lxd project
  | poolResources name project => LxdApi.poolResources lxd name project

end Call

inductive Guard where
  | open
  | rest (role : Role)
  | ws (role : Role)
  deriving DecidableEq, Repr

def Call.guard : Call → Guard
  | listInstances .. | getInstance .. | getInstanceState .. | listInstanceLogs ..
  | getInstanceLog .. | listSnapshots .. | getSnapshot .. | listBackups .. | getBackup ..
  | listPools .. | getPool .. | listVolumes .. | getVolume .. | listNetworks .. | getNetwork ..
  | getNetworkState .. | listProjects .. | getProject .. | listImages .. | getImage ..
  | listOperations .. | getOperation .. | waitOperation .. | serverInfo .. | hostResources ..
  | poolResources .. => .rest .VIEWER
  | setInstanceState .. | execInstance .. | createSnapshot .. | renameSnapshot ..
  | deleteSnapshot .. | restoreSnapshot .. | createBackup .. | deleteBackup ..
  | exportBackup .. | attachVolume .. | detachVolume .. | attachNic .. | detachNic ..
  | cancelOperation .. => .rest .OPERATOR
  | createInstance .. | replaceInstance .. | patchInstance .. | deleteInstance ..
  | createPool .. | updatePool .. | patchPool .. | deletePool .. | createVolume ..
  | updateVolume .. | patchVolume .. | deleteVolume .. | createNetwork .. | updateNetwork ..
  | patchNetwork .. | deleteNetwork .. | createProject .. | updateProject ..
  | patchProject .. | deleteProject .. | deleteImage .. | createImage .. | createAlias ..
  | deleteAlias .. => .rest .ADMIN
  | execWs .. | consoleWs .. => .ws .OPERATOR
  | operationsWs .. => .ws .VIEWER
  | healthDeep => .open

def Call.successStatus : Call → Int
  | createInstance .. | replaceInstance .. | patchInstance .. | deleteInstance ..
  | setInstanceState .. | execInstance .. | createSnapshot .. | renameSnapshot ..
  | deleteSnapshot .. | restoreSnapshot .. | createBackup .. | deleteBackup ..
  | createPool .. | updatePool .. | patchPool .. | deletePool .. | createVolume ..
  | updateVolume .. | patchVolume .. | deleteVolume .. | attachVolume .. | detachVolume ..
  | createNetwork .. | updateNetwork .. | patchNetwork .. | deleteNetwork .. | attachNic ..
  | detachNic .. | createProject .. | updateProject .. | patchProject .. | deleteProject ..
  | deleteImage .. | createImage .. | deleteAlias .. | cancelOperation .. => 202
  | createAlias .. => 201
  | _ => 200

section Serving
variable [Platform] (decodeToken : DecodeToken) (db : UserStore)

def guarded (admitted : Except HTTPException User) (body : Handler Answer) : Handler Answer :=
  match admitted with
  | .error exc => .raise (.http exc)
  | .ok _ => body

def accepting (admitted : Except Nat User) (body : Handler Answer) : Handler Answer :=
  match admitted with
  | .error code => .call (.close code) fun _ => .done .closed
  | .ok _ => .call .accept fun _ => body

/-- The whole route: the guard, then the body. -/
def Call.serve (lxd : LXDClient) (call : Call) (token : Option String) : Handler Answer :=
  match call.guard with
  | .open => call.program lxd
  | .rest role => guarded (restGuard decodeToken db role token) (call.program lxd)
  | .ws role => accepting (wsGate decodeToken db role token) (call.program lxd)

end Serving
end LxdApi

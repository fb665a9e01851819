import LxdApi.Routes

set_option autoImplicit false

/- The handlers of `routes/instances.py`, `routes/snapshots.py` and
   `routes/backups.py`. A payload is the dict its model dumps. The WebSocket
   handlers start where their handshake has been admitted. -/
namespace LxdApi
open Interaction OrderedMap Json

section Instances
variable [Platform] (lxd : LXDClient)

def recursionParam (expand : Bool) : String × Param :=
  ("recursion", .int (if expand then 1 else 0))

/-- `extra` has the key only for a value that is given and not empty. -/
def givenParam (key : String) (value : Option String) : Params :=
  match value with
  | some text => if text = "" then [] else [(key, .str text)]
  | none => []

def listInstances (instanceType project : Option String := none) (page : PageParams := {})
    (expand : Bool := true) (filter : Option String := none) : Handler Answer :=
  reading lxd (.under .instances [])
    (some (update [recursionParam expand, ("filter", .ofOption filter),
      ("project", .ofOption project)] (givenParam "type" instanceType)))
    (.page page)

def createInstance (payload : Dict) (project : Option String := none) : Handler Answer :=
  mutating lxd .POST (.under .instances []) (.free (.obj payload)) (projectParams project)

def getInstance (name : String) (project : Option String := none) : Handler Answer :=
  reading lxd (.under .instances [.arg name]) (projectParams project) .dict

def replaceInstance (name : String) (payload : Dict) (project : Option String := none) :
    Handler Answer :=
  mutating lxd .PUT (.under .instances [.arg name]) (.free (.obj payload))
    (projectParams project)

def patchInstance (name : String) (payload : Dict) (project : Option String := none) :
    Handler Answer :=
  mutating lxd .PATCH (.under .instances [.arg name]) (.free (.obj payload))
    (projectParams project)

/-- `if (project or force)`: neither `None` nor the empty text counts. -/
def deleteParams (project : Option String) (force : Bool) : Option Params :=
  if (∃ p ∈ project, p ≠ "") ∨ force = true then
    some [("project", .ofOption project), ("force", .bool force)]
  else none

def deleteInstance (name : String) (project : Option String := none) (force : Bool := false) :
    Handler Answer :=
  mutating lxd .DELETE (.under .instances [.arg name]) .none (deleteParams project force)

def getInstanceState (name : String) (project : Option String := none) : Handler Answer :=
  reading lxd (.under .instances [.arg name, .lit .state]) (projectParams project) .dict

def setInstanceState (name : String) (payload : Dict) (project : Option String := none)
    (wait : Bool := false) : Handler Answer :=
  mutatingOrWaiting lxd .PUT (.under .instances [.arg name, .lit .state])
    (.free (.obj payload)) project wait operationErrorOnly

def listInstanceLogs (name : String) (project : Option String := none) : Handler Answer :=
  reading lxd (.under .instances [.arg name, .lit .logs]) (projectParams project) .any

def getInstanceLog (name filename : String) (project : Option String := none) : Handler Answer :=
  streaming lxd (.under .instances [.arg name, .lit .logs, .arg filename])
    (projectParams project) "text/plain" ("inline; filename=" ++ filename)

def execInstance (name : String) (payload : Dict) (project : Option String := none) :
    Handler Answer :=
  mutating lxd .POST (.under .instances [.arg name, .lit .exec]) (.free (.obj payload))
    (projectParams project)

end Instances

section Snapshots
variable [Platform] (lxd : LXDClient)

def listSnapshots (name : String) (project : Option String := none) (page : PageParams := {}) :
    Handler Answer :=
  reading lxd (.under .instances [.arg name, .lit .snapshots])
    (some [("recursion", .int 1), ("project", .ofOption project)]) (.page page)

def createSnapshot (name : String) (payload : Dict) (project : Option String := none)
    (wait : Bool := false) : Handler Answer :=
  mutatingOrWaiting lxd .POST (.under .instances [.arg name, .lit .snapshots])
    (.free (.obj payload)) project wait everyException

def getSnapshot (name snap : String) (project : Option String := none) : Handler Answer :=
  reading lxd (.under .instances [.arg name, .lit .snapshots, .arg snap])
    (projectParams project) .any

def renameSnapshot (name snap : String) (payload : Dict) (project : Option String := none) :
    Handler Answer :=
  mutating lxd .PUT (.under .instances [.arg name, .lit .snapshots, .arg snap])
    (.free (.obj payload)) (projectParams project)

def deleteSnapshot (name snap : String) (project : Option String := none) : Handler Answer :=
  mutating lxd .DELETE (.under .instances [.arg name, .lit .snapshots, .arg snap]) .none
    (projectParams project)

/-- LXD restores on a `PUT` of the instance itself. -/
def restoreSnapshot (name snap : String) (project : Option String := none) (wait : Bool := false) :
    Handler Answer :=
  mutatingOrWaiting lxd .PUT (.under .instances [.arg name])
    (.fixed (.obj [("restore", .str snap)])) project wait everyException

end Snapshots

section Backups
variable [Platform] (lxd : LXDClient)

def listBackups (name : String) (project : Option String := none) (page : PageParams := {}) :
    Handler Answer :=
  reading lxd (.under .instances [.arg name, .lit .backups])
    (some [("recursion", .int 1), ("project", .ofOption project)]) (.page page)

def createBackup (name : String) (payload : Dict) (project : Option String := none)
    (wait : Bool := false) : Handler Answer :=
  mutatingOrWaiting lxd .POST (.under .instances [.arg name, .lit .backups])
    (.free (.obj payload)) project wait everyException

def getBackup (name backup : String) (project : Option String := none) : Handler Answer :=
  reading lxd (.under .instances [.arg name, .lit .backups, .arg backup])
    (projectParams project) .any

def deleteBackup (name backup : String) (project : Option String := none) : Handler Answer :=
  mutating lxd .DELETE (.under .instances [.arg name, .lit .backups, .arg backup]) .none
    (projectParams project)

def exportBackup (name backup : String) (project : Option String := none) : Handler Answer :=
  streaming lxd (.under .instances [.arg name, .lit .backups, .arg backup, .lit .export])
    (projectParams project) "application/gzip"
    ("attachment; filename=\"" ++ name ++ "-" ++ backup ++ ".tar.gz\"")

end Backups

section Relays
variable [Platform] (lxd : LXDClient)

def sendAndClose (text : String) : Handler Answer :=
  .call (.sendText text) fun _ => .call (.close 1011) fun _ => .done .closed

/- The handler up to the moment at which LXD's socket is open. What passes over the open relay,
   and how it ends, is the relay machine's; here only a failure to connect is reported. -/
def relay (url : WsUrl) (report : String → String) : Handler Answer :=
  .call (.connect url) fun connected =>
    match connected with
    | .ok _ => .done .closed
    | .error exc => sendAndClose (report exc)

/- `ws_url` quotes its secret, which only a text survives; a secret without truth
   value never reaches it. -/
def proxyExecWs (opId secret : Json) : Handler Answer :=
  if secret.truthy then
    match secret with
    | .str secret =>
        relay ⟨.under .operations [.arg (pyStr opId), .lit .websocket], some secret, ""⟩
          fun exc => "proxy error: " ++ exc
    | _ => .raise (.unhandled "TypeError")
  else sendAndClose "no exec data secret returned by LXD"

/-- `op if isinstance(op, dict) else {"id": str(op)}` -/
def opDict (op : Json) : Dict :=
  match op with
  | .obj fields => fields
  | other => [("id", .str (pyStr other))]

/-- The table of secrets, two levels of `metadata` below the operation. -/
def secretsOf (opDict : Dict) : Dict :=
  match get opDict "metadata" with
  | .obj metadata =>
      match get metadata "metadata" with
      | .obj inner => inner
      | _ => []
  | _ => []

def truthyProject (project : Option String) : Option Params :=
  match project with
  | some p => if p = "" then none else some [("project", .str p)]
  | none => none

/- Post the request that opens the session, then relay to the operation it
   returned. -/
def relaySession (path : LXDPath) (body : Json) (project : Option String) (failure : String)
    (secret : Dict → Json) : Handler Answer :=
  let opened : Handler (Option Json) :=
    ((lxd.post path (.fixed body) (truthyProject project)) >>= fun op => pure (some op)).handle fun
      | .lxd exc => sendAndClose (failure ++ exc.message) >>= fun _ => pure none
      | other => .raise other
  do match ← opened with
    | none => pure .closed
    | some op =>
        proxyExecWs ((get? (opDict op) "id").getD (.str "")) (secret (secretsOf (opDict op)))

def execWs (name : String) (command : String := "/bin/sh")
    (project : Option String := none) : Handler Answer :=
  relaySession lxd (.under .instances [.arg name, .lit .exec])
    (.obj [("command", .arr [.str command]),
      ("environment", .obj [("TERM", .str "xterm-256color")]),
      ("interactive", .bool true), ("width", .int 80), ("height", .int 24)])
    project "exec failed: " fun inner => get inner "1"

def consoleWs (name : String) (type : String := "console")
    (project : Option String := none) : Handler Answer :=
  relaySession lxd (.under .instances [.arg name, .lit .console])
    (.obj [("type", .str type), ("width", .int 80), ("height", .int 24)])
    project "console attach failed: "
    fun inner => if (get inner "0").truthy then get inner "0" else get inner "console"

end Relays
end LxdApi

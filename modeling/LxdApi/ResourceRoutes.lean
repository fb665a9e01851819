import LxdApi.InstanceRoutes

set_option autoImplicit false

/- The handlers of `routes/storage.py`, `routes/networks.py`, `routes/projects.py`,
   `routes/images.py`, `routes/operations.py` and `routes/system.py`. -/
namespace LxdApi
open Interaction OrderedMap Json

section Storage
variable [Platform] (lxd : LXDClient)

def listPools (project : Option String := none) (page : PageParams := {})
    (expand : Bool := true) : Handler Answer :=
  reading lxd (.under .storagePools [])
    (some [recursionParam expand, ("project", .ofOption project)]) (.page page)

def createPool (payload : Dict) (project : Option String := none) : Handler Answer :=
  mutating lxd .POST (.under .storagePools []) (.free (.obj payload)) (projectParams project)

def getPool (name : String) (project : Option String := none) : Handler Answer :=
  reading lxd (.under .storagePools [.arg name]) (projectParams project) .any

def updatePool (name : String) (payload : Dict) (project : Option String := none) :
    Handler Answer :=
  mutating lxd .PUT (.under .storagePools [.arg name]) (.free (.obj payload))
    (projectParams project)

def patchPool (name : String) (payload : Dict) (project : Option String := none) :
    Handler Answer :=
  mutating lxd .PATCH (.under .storagePools [.arg name]) (.free (.obj payload))
    (projectParams project)

def deletePool (name : String) (project : Option String := none) : Handler Answer :=
  mutating lxd .DELETE (.under .storagePools [.arg name]) .none (projectParams project)

def listVolumes (pool : String) (project volumeType : Option String := none)
    (page : PageParams := {}) (expand : Bool := true) : Handler Answer :=
  reading lxd (.under .storagePools [.arg pool, .lit .volumes])
    (some (update [recursionParam expand, ("project", .ofOption project)]
      (givenParam "type" volumeType)))
    (.page page)

def createVolume (pool : String) (payload : Dict) (project : Option String := none) :
    Handler Answer :=
  mutating lxd .POST (.under .storagePools [.arg pool, .lit .volumes])
    (.free (.obj payload)) (projectParams project)

def volumePath (pool volumeType name : String) : LXDPath :=
  .under .storagePools [.arg pool, .lit .volumes, .arg volumeType, .arg name]

def getVolume (pool volumeType name : String) (project : Option String := none) :
    Handler Answer :=
  reading lxd (volumePath pool volumeType name) (projectParams project) .any

def updateVolume (pool volumeType name : String) (payload : Dict)
    (project : Option String := none) : Handler Answer :=
  mutating lxd .PUT (volumePath pool volumeType name) (.free (.obj payload))
    (projectParams project)

def patchVolume (pool volumeType name : String) (payload : Dict)
    (project : Option String := none) : Handler Answer :=
  mutating lxd .PATCH (volumePath pool volumeType name) (.free (.obj payload))
    (projectParams project)

def deleteVolume (pool volumeType name : String) (project : Option String := none) :
    Handler Answer :=
  mutating lxd .DELETE (volumePath pool volumeType name) .none (projectParams project)

def diskDevice (pool name : String) : Json :=
  .obj [("type", .str "disk"), ("pool", .str pool), ("volume", .str name),
    ("path", .str "/mnt/data")]

def attachVolume (pool name instance' : String) (project : Option String := none) :
    Handler Answer :=
  patchDevices lxd instance' project (.put ("vol_" ++ name) (diskDevice pool name))

/-- The pool of the path is not looked at. -/
def detachVolume (_pool name instance' : String) (project : Option String := none) :
    Handler Answer :=
  patchDevices lxd instance' project (.pop ("vol_" ++ name))

end Storage

section Networks
variable [Platform] (lxd : LXDClient)

def listNetworks (project : Option String := none) (page : PageParams := {})
    (expand : Bool := true) : Handler Answer :=
  reading lxd (.under .networks [])
    (some [recursionParam expand, ("project", .ofOption project)]) (.page page)

def createNetwork (payload : Dict) (project : Option String := none) : Handler Answer :=
  mutating lxd .POST (.under .networks []) (.free (.obj payload)) (projectParams project)

def getNetwork (name : String) (project : Option String := none) : Handler Answer :=
  reading lxd (.under .networks [.arg name]) (projectParams project) .any

def updateNetwork (name : String) (payload : Dict) (project : Option String := none) :
    Handler Answer :=
  mutating lxd .PUT (.under .networks [.arg name]) (.free (.obj payload))
    (projectParams project)

def patchNetwork (name : String) (payload : Dict) (project : Option String := none) :
    Handler Answer :=
  mutating lxd .PATCH (.under .networks [.arg name]) (.free (.obj payload))
    (projectParams project)

def deleteNetwork (name : String) (project : Option String := none) : Handler Answer :=
  mutating lxd .DELETE (.under .networks [.arg name]) .none (projectParams project)

def getNetworkState (name : String) (project : Option String := none) : Handler Answer :=
  reading lxd (.under .networks [.arg name, .lit .state]) (projectParams project) .any

/-- `device_name or f"nic_{name}"` -/
def nicKey (name : String) (deviceName : Option String) : String :=
  match deviceName with
  | some key => if key = "" then "nic_" ++ name else key
  | none => "nic_" ++ name

def nicDevice (name nicName : String) : Json :=
  .obj [("type", .str "nic"), ("network", .str name), ("name", .str nicName)]

def attachNic (name instance' : String) (deviceName : Option String := none)
    (nicName : String := "eth0") (project : Option String := none) : Handler Answer :=
  patchDevices lxd instance' project (.put (nicKey name deviceName) (nicDevice name nicName))

def detachNic (name instance' : String) (deviceName project : Option String := none) :
    Handler Answer :=
  patchDevices lxd instance' project (.pop (nicKey name deviceName))

end Networks

section Projects
variable [Platform] (lxd : LXDClient)

def listProjects (page : PageParams := {}) (expand : Bool := true) : Handler Answer :=
  reading lxd (.under .projects []) (some [recursionParam expand]) (.page page)

def createProject (payload : Dict) : Handler Answer :=
  mutating lxd .POST (.under .projects []) (.free (.obj payload)) none

def getProject (name : String) : Handler Answer :=
  reading lxd (.under .projects [.arg name]) none .any

def updateProject (name : String) (payload : Dict) : Handler Answer :=
  mutating lxd .PUT (.under .projects [.arg name]) (.free (.obj payload)) none

def patchProject (name : String) (payload : Dict) : Handler Answer :=
  mutating lxd .PATCH (.under .projects [.arg name]) (.free (.obj payload)) none

def deleteProject (name : String) : Handler Answer :=
  mutating lxd .DELETE (.under .projects [.arg name]) .none none

end Projects

section Images
variable [Platform] (lxd : LXDClient)

def listImages (project : Option String := none) (page : PageParams := {})
    (expand : Bool := true) (filter : Option String := none) : Handler Answer :=
  reading lxd (.under .images [])
    (some (update [recursionParam expand, ("project", .ofOption project)]
      (givenParam "filter" filter)))
    (.page page)

def getImage (fingerprint : String) (project : Option String := none) : Handler Answer :=
  reading lxd (.under .images [.arg fingerprint]) (projectParams project) .any

def deleteImage (fingerprint : String) (project : Option String := none) : Handler Answer :=
  mutating lxd .DELETE (.under .images [.arg fingerprint]) .none (projectParams project)

def createImage (payload : Dict) (project : Option String := none) : Handler Answer :=
  mutating lxd .POST (.under .images []) (.free (.obj payload)) (projectParams project)

/-- The one creation that is answered with LXD's own result. -/
def createAlias (payload : Dict) (project : Option String := none) : Handler Answer :=
  single lxd .POST (.under .images [.lit .aliases]) (.free (.obj payload))
    (projectParams project) .any

/-- The one handler of this router that takes no project. -/
def deleteAlias (name : String) : Handler Answer :=
  mutating lxd .DELETE (.under .images [.lit .aliases, .arg name]) .none none

end Images

section Operations
variable [Platform] (lxd : LXDClient)

def listOperations (project : Option String := none) (page : PageParams := {}) :
    Handler Answer :=
  reading lxd (.under .operations [])
    (some [("recursion", .int 1), ("project", .ofOption project)]) (.page page)

def getOperation (operationId : String) (project : Option String := none) : Handler Answer :=
  reading lxd (.under .operations [.arg operationId]) (projectParams project) .any

def cancelOperation (operationId : String) (project : Option String := none) :
    Handler Answer :=
  single lxd .DELETE (.under .operations [.arg operationId]) .none (projectParams project)
    (.message ("Cancellation requested for operation " ++ operationId))

structure WaitTimeout where
  seconds : Rat := 0
  nonneg : 0 ≤ seconds := by decide

/-- A failed operation is answered with 500, any other LXD error with its own status. -/
def waitOperation (operationId : String) (project : Option String := none)
    (timeout : WaitTimeout := {}) : Handler Answer :=
  (waitForOperation lxd operationId (if 0 < timeout.seconds then timeout.seconds else 0)
    project >>= fun result => pure (.value result)).handle fun exc =>
      .raise (toHttp (operationErrorOnly exc))

/- `operations_ws` once it has accepted the handshake. The project of the client
   is not passed on. -/
def operationsWs (_project : Option String := none) : Handler Answer :=
  relay ⟨.under .events [], none, "&type=operation"⟩ fun exc =>
    "\x7b\"error\": " ++ dumpsStr exc ++ "\x7d"

end Operations

section System
variable [Platform] (lxd : LXDClient)

def healthDeep : Handler Answer :=
  (lxd.get .root none >>= fun _ => pure (.health "healthy" "reachable" none)).handle fun
    | .lxd exc =>
        if exc.type = .LXDConnectionError then
          pure (.health "unhealthy" "unreachable" (some exc.message))
        else pure (.health "degraded" "reachable" (some exc.message))
    | other => .raise other

def serverInfo (project : Option String := none) : Handler Answer :=
  reading lxd .root (projectParams project) .any

def hostResources (project : Option String := none) : Handler Answer :=
  reading lxd (.under .resources []) (projectParams project) .any

def poolResources (name : String) (project : Option String := none) : Handler Answer :=
  reading lxd (.under .storagePools [.arg name, .lit .resources]) (projectParams project)
    .any

end System
end LxdApi

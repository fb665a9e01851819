import LxdApi.Catalogue
import LxdApi.Library.PathPatterns

set_option autoImplicit false

/- The table of routes: `api.py`, the decorators of the routers and `/health`. -/
namespace LxdApi
open PathPatterns

inductive Verb where
  | http (method : Method)
  | websocket
  deriving DecidableEq, Repr

inductive Endpoint where
  | register | login | refresh | me | listUsers | listInstances | createInstance | getInstance
  | replaceInstance | patchInstance | deleteInstance | getInstanceState | setInstanceState
  | listInstanceLogs | getInstanceLog | execInstance | execWs | consoleWs | listSnapshots
  | createSnapshot | getSnapshot | renameSnapshot | deleteSnapshot | restoreSnapshot
  | listBackups | createBackup | getBackup | deleteBackup | exportBackup | listPools | createPool
  | getPool | updatePool | patchPool | deletePool | listVolumes | createVolume | getVolume
  | updateVolume | patchVolume | deleteVolume | attachVolume | detachVolume | listNetworks
  | createNetwork | getNetwork | updateNetwork | patchNetwork | deleteNetwork | getNetworkState
  | attachNic | detachNic | listProjects | createProject | getProject | updateProject
  | patchProject | deleteProject | listImages | getImage | deleteImage | createImage
  | createAlias | deleteAlias | listOperations | getOperation | cancelOperation | waitOperation
  | operationsWs | healthDeep | serverInfo | hostResources | poolResources | health
  deriving DecidableEq, Repr

structure Router where
  base : List Part
  routes : List (Route Verb Endpoint)

def authRouter : Router where
  base := [.lit "auth"]
  routes := [
    ⟨.http .POST, [.lit "register"], .register⟩,
    ⟨.http .POST, [.lit "login"], .login⟩,
    ⟨.http .POST, [.lit "refresh"], .refresh⟩,
    ⟨.http .GET, [.lit "me"], .me⟩,
    ⟨.http .GET, [.lit "users"], .listUsers⟩]

def instancesRouter : Router where
  base := [.lit "instances"]
  routes := [
    ⟨.http .GET, [], .listInstances⟩,
    ⟨.http .POST, [], .createInstance⟩,
    ⟨.http .GET, [.param "name"], .getInstance⟩,
    ⟨.http .PUT, [.param "name"], .replaceInstance⟩,
    ⟨.http .PATCH, [.param "name"], .patchInstance⟩,
    ⟨.http .DELETE, [.param "name"], .deleteInstance⟩,
    ⟨.http .GET, [.param "name", .lit "state"], .getInstanceState⟩,
    ⟨.http .PUT, [.param "name", .lit "state"], .setInstanceState⟩,
    ⟨.http .GET, [.param "name", .lit "logs"], .listInstanceLogs⟩,
    ⟨.http .GET, [.param "name", .lit "logs", .param "filename"], .getInstanceLog⟩,
    ⟨.http .POST, [.param "name", .lit "exec"], .execInstance⟩,
    ⟨.websocket, [.param "name", .lit "exec", .lit "ws"], .execWs⟩,
    ⟨.websocket, [.param "name", .lit "console", .lit "ws"], .consoleWs⟩]

def snapshotsRouter : Router where
  base := [.lit "instances", .param "name", .lit "snapshots"]
  routes := [
    ⟨.http .GET, [], .listSnapshots⟩,
    ⟨.http .POST, [], .createSnapshot⟩,
    ⟨.http .GET, [.param "snap"], .getSnapshot⟩,
    ⟨.http .PUT, [.param "snap"], .renameSnapshot⟩,
    ⟨.http .DELETE, [.param "snap"], .deleteSnapshot⟩,
    ⟨.http .POST, [.param "snap", .lit "restore"], .restoreSnapshot⟩]

def backupsRouter : Router where
  base := [.lit "instances", .param "name", .lit "backups"]
  routes := [
    ⟨.http .GET, [], .listBackups⟩,
    ⟨.http .POST, [], .createBackup⟩,
    ⟨.http .GET, [.param "backup"], .getBackup⟩,
    ⟨.http .DELETE, [.param "backup"], .deleteBackup⟩,
    ⟨.http .GET, [.param "backup", .lit "export"], .exportBackup⟩]

def volumeTemplate : List Part :=
  [.lit "pools", .param "pool", .lit "volumes", .param "volume_type", .param "name"]

def customTemplate (action : String) : List Part :=
  [.lit "pools", .param "pool", .lit "volumes", .lit "custom", .param "name", .lit action]

def storageRouter : Router where
  base := [.lit "storage"]
  routes := [
    ⟨.http .GET, [.lit "pools"], .listPools⟩,
    ⟨.http .POST, [.lit "pools"], .createPool⟩,
    ⟨.http .GET, [.lit "pools", .param "name"], .getPool⟩,
    ⟨.http .PUT, [.lit "pools", .param "name"], .updatePool⟩,
    ⟨.http .PATCH, [.lit "pools", .param "name"], .patchPool⟩,
    ⟨.http .DELETE, [.lit "pools", .param "name"], .deletePool⟩,
    ⟨.http .GET, [.lit "pools", .param "pool", .lit "volumes"], .listVolumes⟩,
    ⟨.http .POST, [.lit "pools", .param "pool", .lit "volumes"], .createVolume⟩,
    ⟨.http .GET, volumeTemplate, .getVolume⟩,
    ⟨.http .PUT, volumeTemplate, .updateVolume⟩,
    ⟨.http .PATCH, volumeTemplate, .patchVolume⟩,
    ⟨.http .DELETE, volumeTemplate, .deleteVolume⟩,
    ⟨.http .POST, customTemplate "attach", .attachVolume⟩,
    ⟨.http .POST, customTemplate "detach", .detachVolume⟩]

def networksRouter : Router where
  base := [.lit "networks"]
  routes := [
    ⟨.http .GET, [], .listNetworks⟩,
    ⟨.http .POST, [], .createNetwork⟩,
    ⟨.http .GET, [.param "name"], .getNetwork⟩,
    ⟨.http .PUT, [.param "name"], .updateNetwork⟩,
    ⟨.http .PATCH, [.param "name"], .patchNetwork⟩,
    ⟨.http .DELETE, [.param "name"], .deleteNetwork⟩,
    ⟨.http .GET, [.param "name", .lit "state"], .getNetworkState⟩,
    ⟨.http .POST, [.param "name", .lit "attach"], .attachNic⟩,
    ⟨.http .POST, [.param "name", .lit "detach"], .detachNic⟩]

def projectsRouter : Router where
  base := [.lit "projects"]
  routes := [
    ⟨.http .GET, [], .listProjects⟩,
    ⟨.http .POST, [], .createProject⟩,
    ⟨.http .GET, [.param "name"], .getProject⟩,
    ⟨.http .PUT, [.param "name"], .updateProject⟩,
    ⟨.http .PATCH, [.param "name"], .patchProject⟩,
    ⟨.http .DELETE, [.param "name"], .deleteProject⟩]

def imagesRouter : Router where
  base := [.lit "images"]
  routes := [
    ⟨.http .GET, [], .listImages⟩,
    ⟨.http .GET, [.param "fingerprint"], .getImage⟩,
    ⟨.http .DELETE, [.param "fingerprint"], .deleteImage⟩,
    ⟨.http .POST, [], .createImage⟩,
    ⟨.http .POST, [.lit "aliases"], .createAlias⟩,
    ⟨.http .DELETE, [.lit "aliases", .param "name"], .deleteAlias⟩]

def operationsRouter : Router where
  base := [.lit "operations"]
  routes := [
    ⟨.http .GET, [], .listOperations⟩,
    ⟨.http .GET, [.param "operation_id"], .getOperation⟩,
    ⟨.http .DELETE, [.param "operation_id"], .cancelOperation⟩,
    ⟨.http .GET, [.param "operation_id", .lit "wait"], .waitOperation⟩,
    ⟨.websocket, [.lit "ws"], .operationsWs⟩]

def systemRouter : Router where
  base := [.lit "system"]
  routes := [
    ⟨.http .GET, [.lit "health"], .healthDeep⟩,
    ⟨.http .GET, [.lit "info"], .serverInfo⟩,
    ⟨.http .GET, [.lit "resources"], .hostResources⟩,
    ⟨.http .GET, [.lit "storage-pools", .param "name", .lit "resources"], .poolResources⟩]

/-- The routers in the order in which `api.py` includes them. -/
def v1Router : List Router :=
  [authRouter, instancesRouter, snapshotsRouter, backupsRouter, storageRouter, networksRouter,
    projectsRouter, imagesRouter, operationsRouter, systemRouter]

/-- `include_router`: every route of the router, below a path. -/
def Router.below (base : List Part) (router : Router) : List (Route Verb Endpoint) :=
  router.routes.map fun route => { route with pattern := base ++ router.base ++ route.pattern }

def appRoutes : List (Route Verb Endpoint) :=
  v1Router.flatMap (Router.below [.lit "api", .lit "v1"]) ++
    [⟨.http .GET, [.lit "health"], .health⟩]

theorem appRoutes_apart : appRoutes.Pairwise Route.Apart := by decide

theorem appRoutes_nodup : (appRoutes.map Route.endpoint).Nodup := by decide

theorem endpoint_routed (endpoint : Endpoint) :
    (appRoutes.find? fun route => route.endpoint = endpoint).isSome = true := by
  cases endpoint <;> rfl

def Endpoint.route (endpoint : Endpoint) : Route Verb Endpoint :=
  (appRoutes.find? fun route => route.endpoint = endpoint).get (endpoint_routed endpoint)

/-- The endpoint of a handler, and the parameters it takes from the path. -/
def Call.address : Call → Endpoint × List String
  | .listInstances .. => (.listInstances, [])
  | .createInstance .. => (.createInstance, [])
  | .getInstance name .. => (.getInstance, [name])
  | .replaceInstance name .. => (.replaceInstance, [name])
  | .patchInstance name .. => (.patchInstance, [name])
  | .deleteInstance name .. => (.deleteInstance, [name])
  | .getInstanceState name .. => (.getInstanceState, [name])
  | .setInstanceState name .. => (.setInstanceState, [name])
  | .listInstanceLogs name .. => (.listInstanceLogs, [name])
  | .getInstanceLog name filename .. => (.getInstanceLog, [name, filename])
  | .execInstance name .. => (.execInstance, [name])
  | .execWs name .. => (.execWs, [name])
  | .consoleWs name .. => (.consoleWs, [name])
  | .listSnapshots name .. => (.listSnapshots, [name])
  | .createSnapshot name .. => (.createSnapshot, [name])
  | .getSnapshot name snap .. => (.getSnapshot, [name, snap])
  | .renameSnapshot name snap .. => (.renameSnapshot, [name, snap])
  | .deleteSnapshot name snap .. => (.deleteSnapshot, [name, snap])
  | .restoreSnapshot name snap .. => (.restoreSnapshot, [name, snap])
  | .listBackups name .. => (.listBackups, [name])
  | .createBackup name .. => (.createBackup, [name])
  | .getBackup name backup .. => (.getBackup, [name, backup])
  | .deleteBackup name backup .. => (.deleteBackup, [name, backup])
  | .exportBackup name backup .. => (.exportBackup, [name, backup])
  | .listPools .. => (.listPools, [])
  | .createPool .. => (.createPool, [])
  | .getPool name .. => (.getPool, [name])
  | .updatePool name .. => (.updatePool, [name])
  | .patchPool name .. => (.patchPool, [name])
  | .deletePool name .. => (.deletePool, [name])
  | .listVolumes pool .. => (.listVolumes, [pool])
  | .createVolume pool .. => (.createVolume, [pool])
  | .getVolume pool volumeType name .. => (.getVolume, [pool, volumeType, name])
  | .updateVolume pool volumeType name .. => (.updateVolume, [pool, volumeType, name])
  | .patchVolume pool volumeType name .. => (.patchVolume, [pool, volumeType, name])
  | .deleteVolume pool volumeType name .. => (.deleteVolume, [pool, volumeType, name])
  | .attachVolume pool name .. => (.attachVolume, [pool, name])
  | .detachVolume pool name .. => (.detachVolume, [pool, name])
  | .listNetworks .. => (.listNetworks, [])
  | .createNetwork .. => (.createNetwork, [])
  | .getNetwork name .. => (.getNetwork, [name])
  | .updateNetwork name .. => (.updateNetwork, [name])
  | .patchNetwork name .. => (.patchNetwork, [name])
  | .deleteNetwork name .. => (.deleteNetwork, [name])
  | .getNetworkState name .. => (.getNetworkState, [name])
  | .attachNic name .. => (.attachNic, [name])
  | .detachNic name .. => (.detachNic, [name])
  | .listProjects .. => (.listProjects, [])
  | .createProject .. => (.createProject, [])
  | .getProject name => (.getProject, [name])
  | .updateProject name .. => (.updateProject, [name])
  | .patchProject name .. => (.patchProject, [name])
  | .deleteProject name => (.deleteProject, [name])
  | .listImages .. => (.listImages, [])
  | .getImage fingerprint .. => (.getImage, [fingerprint])
  | .deleteImage fingerprint .. => (.deleteImage, [fingerprint])
  | .createImage .. => (.createImage, [])
  | .createAlias .. => (.createAlias, [])
  | .deleteAlias name => (.deleteAlias, [name])
  | .listOperations .. => (.listOperations, [])
  | .getOperation operationId .. => (.getOperation, [operationId])
  | .cancelOperation operationId .. => (.cancelOperation, [operationId])
  | .waitOperation operationId .. => (.waitOperation, [operationId])
  | .operationsWs .. => (.operationsWs, [])
  | .healthDeep => (.healthDeep, [])
  | .serverInfo .. => (.serverInfo, [])
  | .hostResources .. => (.hostResources, [])
  | .poolResources name .. => (.poolResources, [name])

def Call.path (call : Call) : String :=
  pathText (fill call.address.1.route.pattern call.address.2)

theorem route_listed (endpoint : Endpoint) : endpoint.route ∈ appRoutes :=
  List.mem_of_find?_eq_some (Option.some_get _).symm

theorem route_endpoint (endpoint : Endpoint) : endpoint.route.endpoint = endpoint := by
  have found := List.find?_some (Option.some_get (endpoint_routed endpoint)).symm
  exact of_decide_eq_true found

theorem route_unique {endpoint : Endpoint} {route : Route Verb Endpoint}
    (listed : route ∈ appRoutes)
    (own : route.endpoint = endpoint) : route = endpoint.route :=
  List.inj_on_of_nodup_map appRoutes_nodup listed (route_listed endpoint)
    (own.trans (route_endpoint endpoint).symm)

theorem route_rooted (endpoint : Endpoint) : endpoint.route.pattern ≠ [] := by
  cases endpoint <;> exact List.cons_ne_nil _ _

theorem address_length (call : Call) :
    call.address.2.length = (params call.address.1.route.pattern).length := by
  cases call <;> rfl

theorem literals_clean (endpoint : Endpoint) {text : String}
    (literal : .lit text ∈ endpoint.route.pattern) : UriReference.Clean text.toList := by
  have all : ∀ route ∈ appRoutes, ∀ part ∈ route.pattern, ∀ other ∈ part.literal?,
      UriReference.Clean other.toList := by decide
  exact all _ (route_listed endpoint) _ literal text rfl

/- Whatever the order in which the routers are included, a route is taken by its path, with
   the values its parameters were filled with, exactly if none of them is empty or has a
   slash; and no request matches two routes. -/
theorem endpoint_called_iff {routes : List (Route Verb Endpoint)} (order : appRoutes.Perm routes) :
    (∀ (endpoint : Endpoint) (values : List String),
      values.length = (params endpoint.route.pattern).length →
      (dispatch routes endpoint.route.verb
          (segmentsOf (pathText (fill endpoint.route.pattern values))) =
        some (endpoint, (params endpoint.route.pattern).zip values) ↔
          ∀ value ∈ values, Segment value)) ∧
    ∀ verb segments, ∀ r ∈ routes, ∀ s ∈ routes, (r.accept verb segments).isSome = true →
      (s.accept verb segments).isSome = true → r = s := by
  constructor
  · intro endpoint values given
    have filled := dispatch_pathText_iff appRoutes_apart (route_listed endpoint)
      (fun _ literal => (literals_clean _ literal).slash) (route_rooted _) given
    rw [route_endpoint] at filled
    rw [← dispatch_perm appRoutes_apart order]
    exact filled
  · intro verb segments r listed s other
    exact accept_unique appRoutes_apart (order.mem_iff.mpr listed) (order.mem_iff.mpr other)

/-- An alias may be created with a slash in its name, and then its deletion is never called. -/
theorem slashed_alias_not_called :
    ¬ dispatch appRoutes.reverse (.http .DELETE)
        (segmentsOf "/api/v1/images/aliases/ubuntu/22.04") =
      some (.deleteAlias, [("name", "ubuntu/22.04")]) := by
  intro called
  have segments := ((endpoint_called_iff appRoutes.reverse_perm.symm).1 .deleteAlias
    ["ubuntu/22.04"] rfl).mp called
  exact absurd (segments "ubuntu/22.04" List.mem_cons_self).2 (by decide)

end LxdApi

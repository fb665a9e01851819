import LxdApi.LxdHosts
import LxdApi.Permissions

set_option autoImplicit false

/- Requests on different instances. LXD tells instances by the name that is left of a URL
   when it has been sent and decoded, and keeps a state for each of them. -/
namespace LxdApi
open Interaction Program UriReference

def Target.instance? (target : Target) : Option (List UInt8) :=
  match target.segments with
  | version :: first :: name :: _ =>
    if percentDecode version = octets "1.0".toList ∧
        percentDecode first = octets "instances".toList then some (percentDecode name)
    else none
  | _ => none

def instanceHost {S : Type} (answer : S → LXDRequest → Target → HttpReply × S)
    (elsewhere : LXDRequest → Target → HttpReply) : LxdHost (List UInt8) S :=
  ⟨Target.instance?, answer, elsewhere⟩

/-- The instance that a call is made for, and what else its paths hold; a call that waits asks
    for an operation as well. -/
def Call.instance? : Call → Option (String × List String)
  | .getInstance name _ | .replaceInstance name _ _ | .patchInstance name _ _
  | .deleteInstance name _ _ | .getInstanceState name _ | .setInstanceState name _ _ false
  | .listInstanceLogs name _ | .execInstance name _ _ | .listSnapshots name _ _
  | .createSnapshot name _ _ false | .restoreSnapshot name _ _ false | .listBackups name _ _
  | .createBackup name _ _ false => some (name, [])
  | .getInstanceLog name filename _ => some (name, [filename])
  | .getSnapshot name snap _ | .renameSnapshot name snap _ _ | .deleteSnapshot name snap _ =>
      some (name, [snap])
  | .getBackup name backup _ | .deleteBackup name backup _ | .exportBackup name backup _ =>
      some (name, [backup])
  | .attachVolume _ _ name _ | .detachVolume _ _ name _ | .attachNic _ name _ _ _
  | .detachNic _ name _ _ => some (name, [])
  | _ => none

def OnInstance (name : String) (more : List String) (effect : Effect) : Prop :=
  ∃ req rest, effect = .lxd req ∧ req.path = .under .instances (.arg name :: rest) ∧
    ∀ arg ∈ req.path.args, arg ∈ name :: more

theorem onInstance_of_path {name : String} {more : List String} {req : LXDRequest}
    {rest : List Piece} (path : req.path = .under .instances (.arg name :: rest))
    (inside : ∀ arg ∈ (LXDPath.under .instances (.arg name :: rest)).args, arg ∈ name :: more) :
    OnInstance name more (.lxd req) :=
  ⟨req, rest, rfl, path, by rwa [path]⟩

section Isolation
variable [Platform] (lxd : LXDClient)

theorem waitless_uses {allowed : Effect → Prop} {method : Method} {path : LXDPath}
    {body : RequestBody} {project : Option String} {caught : Raised → Raised}
    (asks : allowed (.lxd (lxd.sent method path body (projectParams project)))) :
    (mutatingOrWaiting lxd method path body project false caught).Uses allowed := by
  rw [mutatingOrWaiting_of_not_wait]
  exact single_uses asks

theorem call_onInstance {call : Call} {name : String} {more : List String}
    (own : call.instance? = some (name, more)) :
    (call.program lxd).Uses (OnInstance name more) := by
  cases call
  case setInstanceState name' payload project wait =>
    cases wait <;> cases own
    exact waitless_uses lxd (onInstance_of_path rfl (by simp [LXDPath.args]))
  case createSnapshot name' payload project wait =>
    cases wait <;> cases own
    exact waitless_uses lxd (onInstance_of_path rfl (by simp [LXDPath.args]))
  case restoreSnapshot name' snap project wait =>
    cases wait <;> cases own
    exact waitless_uses lxd (onInstance_of_path rfl (by simp [LXDPath.args]))
  case createBackup name' payload project wait =>
    cases wait <;> cases own
    exact waitless_uses lxd (onInstance_of_path rfl (by simp [LXDPath.args]))
  all_goals
    cases own
    try first
      | exact single_uses (onInstance_of_path rfl (by simp [LXDPath.args]))
      | exact streaming_uses (onInstance_of_path rfl (by simp [LXDPath.args]))
      | exact patchDevices_uses (onInstance_of_path rfl (by simp [LXDPath.args]))
          fun _ => onInstance_of_path rfl (by simp [LXDPath.args])

variable {S : Type} (rules : UrlRules) (answer : S → LXDRequest → Target → HttpReply × S)
  (elsewhere : LXDRequest → Target → HttpReply)

theorem target_instance {name : String} {rest : List Piece} {req : LXDRequest} {target : Target}
    (path : req.path = .under .instances (.arg name :: rest))
    (clean : ∀ arg ∈ req.path.args, Clean arg.toList) (sent : rules.target req = some target) :
    target.instance? = some (octets name.toList) := by
  have sound : req.path.Sound := ⟨by rw [path]; nofun, clean⟩
  have segments := ((addresses_iff rules sent).mpr sound).path
  rw [path] at segments
  simp only [LXDPath.pieces, List.map_cons, Denotes, List.forall₂_cons_left_iff] at segments
  obtain ⟨version, _, isVersion, ⟨first, _, isFirst, ⟨segment, _, isName, _, rfl⟩, rfl⟩, shape⟩ :=
    segments
  have word : Word.text .instances = "instances" := rfl
  have piece : Piece.text (.arg name) = name := rfl
  rw [word] at isFirst
  rw [piece] at isName
  rw [Target.instance?, shape]
  dsimp only
  rw [if_pos ⟨isVersion, isFirst⟩, isName]

theorem onInstance_staysAt {name : String} {more : List String}
    (clean : ∀ arg ∈ name :: more, Clean arg.toList) {effect : Effect}
    (on : OnInstance name more effect) :
    ((instanceHost answer elsewhere).keeper rules).StaysAt (octets name.toList) effect := by
  obtain ⟨req, rest, rfl, path, inside⟩ := on
  apply LxdHost.staysAt_of_target
  intro target sent
  exact target_instance rules path (fun arg member => clean arg (inside arg member)) sent

omit [Platform] in
theorem same_instance_iff (name other : String) :
    octets name.toList = octets other.toList ↔ name = other := by
  constructor
  · exact fun same => String.toList_injective (octets_injective same)
  · exact fun same => by rw [same]

section Pools
variable {ι : Type} [DecidableEq ι] {calls : ι → Call} {place : ι → String × List String}

theorem run_on_instance (own : ∀ i, (calls i).instance? = some (place i))
    (clean : ∀ i, ∀ arg ∈ (place i).1 :: (place i).2, Clean arg.toList)
    (instances : List UInt8 → S) (schedule : List ι) (name : String) :
    Pool.LookAlike (fun i => decide ((place i).1 = name))
      (fun instances => instances (octets name.toList))
      (Pool.run ((instanceHost answer elsewhere).serve rules)
        ⟨instances, fun i => (calls i).program lxd⟩ schedule)
      (Pool.run ((instanceHost answer elsewhere).serve rules)
        ⟨instances, fun i => (calls i).program lxd⟩
        (schedule.filter fun i => decide ((place i).1 = name))) := by
  let start : Pool Effect Effect.Reply Raised Answer (List UInt8 → S) ι :=
    ⟨instances, fun i => (calls i).program lxd⟩
  have stays : ∀ i, (start.threads i).Uses (((instanceHost answer elsewhere).keeper rules).StaysAt
      (octets (place i).1.toList)) := by
    intro i
    exact (call_onInstance lxd (own i)).mono fun effect on =>
      onInstance_staysAt rules answer elsewhere (clean i) on
  refine Keeper.run_apart stays ?_ schedule
  intro i
  rw [decide_eq_true_iff, same_instance_iff]

/-- However requests on any instances take turns, what becomes of an instance, and of the requests
    on it, is what would become of them if these had been the only ones. -/
theorem instances_isolated (own : ∀ i, (calls i).instance? = some (place i))
    (clean : ∀ i, ∀ arg ∈ (place i).1 :: (place i).2, Clean arg.toList)
    (instances : List UInt8 → S) (schedule : List ι) (name : String) :
    let start : Pool Effect Effect.Reply Raised Answer (List UInt8 → S) ι :=
      ⟨instances, fun i => (calls i).program lxd⟩
    let serve := (instanceHost answer elsewhere).serve rules
    let among := Pool.run serve start schedule
    let alone := Pool.run serve start (schedule.filter fun i => (place i).1 = name)
    among.shared (octets name.toList) = alone.shared (octets name.toList) ∧
      ∀ i, (place i).1 = name → among.threads i = alone.threads i := by
  intro start serve among alone
  have alike := run_on_instance lxd rules answer elsewhere own clean instances schedule name
  exact ⟨alike.shared, fun i its => alike.threads i (decide_eq_true its)⟩

end Pools
end Isolation

def countingHost : LxdHost (List UInt8) Nat :=
  instanceHost (fun asked _ _ => (⟨204, .empty⟩, asked + 1)) fun _ _ => ⟨404, .empty⟩

def twoInstances : Bool → Call
  | false => .deleteSnapshot "web1" "before upgrade" none
  | true => .attachVolume "ssd" "data" "db1" none

def twoPlaces : Bool → String × List String
  | false => ("web1", ["before upgrade"])
  | true => ("db1", [])

theorem twoPlaces_clean (i : Bool) :
    ∀ arg ∈ (twoPlaces i).1 :: (twoPlaces i).2, Clean arg.toList := by
  cases i with
  | false => exact List.forall_mem_cons.mpr ⟨by decide, List.forall_mem_singleton.mpr (by decide)⟩
  | true => exact List.forall_mem_singleton.mpr (by decide)

theorem other_instance_unheard :
    let start : Pool Effect Effect.Reply Raised Answer (List UInt8 → Nat) Bool :=
      ⟨fun _ => 0, fun i => @Call.program plainPlatform ⟨{}⟩ (twoInstances i)⟩
    let serve := @LxdHost.serve plainPlatform _ _ httpx countingHost _
    let among := Pool.run serve start [true, false, true]
    let alone := Pool.run serve start [false]
    among.shared (octets "web1".toList) = alone.shared (octets "web1".toList) ∧
      ∀ i, (twoPlaces i).1 = "web1" → among.threads i = alone.threads i :=
  @instances_isolated plainPlatform ⟨{}⟩ _ httpx _ _ _ _ twoInstances twoPlaces
    (by intro i; cases i <;> rfl) twoPlaces_clean
    (fun _ => 0) [true, false, true] "web1"

end LxdApi

import LxdApi.DeviceFrames
import LxdApi.Library.ExclusiveMap

set_option autoImplicit false

/- Mount points and interface names in the device maps that attach and detach calls
   write: neither is looked up in the map before a device is added to it. -/
namespace LxdApi
open Interaction Program OrderedMap Json ExclusiveMap

def fieldOf (type field : String) : Json → Option Json
  | .obj fields =>
      match get? fields "type" with
      | some (.str t) => if t = type then get? fields field else none
      | _ => none
  | _ => none

def mountPath : Json → Option Json := fieldOf "disk" "path"

def interfaceName : Json → Option Json := fieldOf "nic" "name"

/-- No two disks have the same path, and no two nics the same name. -/
structure Mountable (devices : Dict) : Prop where
  paths : Exclusive mountPath (get? devices)
  names : Exclusive interfaceName (get? devices)

/- Nothing under another key has the path or the interface name of the device that the
   request attaches; a detachment always fits. -/
def DeviceRequest.Fits (request : DeviceRequest) (devices : Dict) : Prop :=
  ∀ device, request.edit.value = some device →
    Free mountPath (get? devices) request.edit.key device ∧
      Free interfaceName (get? devices) request.edit.key device

theorem mountable_apply_iff {devices : Dict} (mountable : Mountable devices)
    (request : DeviceRequest) :
    Mountable (request.edit.apply devices) ↔ request.Fits devices := by
  have shape := apply_denotes request.edit devices
  cases value : request.edit.value with
  | none =>
    rw [value] at shape
    refine iff_of_true ⟨?_, ?_⟩ ?_
    · rw [shape]
      exact exclusive_remove mountable.paths
    · rw [shape]
      exact exclusive_remove mountable.names
    · intro device attaches
      rw [value] at attaches
      cases attaches
  | some device =>
    rw [value] at shape
    have paths := exclusive_put_iff mountable.paths (k := request.edit.key) device
    have names := exclusive_put_iff mountable.names (k := request.edit.key) device
    rw [← shape] at paths names
    constructor
    · intro after other attaches
      rw [value] at attaches
      cases attaches
      exact ⟨paths.mp after.paths, names.mp after.names⟩
    · intro fits
      obtain ⟨freePath, freeName⟩ := fits device value
      exact ⟨paths.mpr freePath, names.mpr freeName⟩

theorem rule_denotes (rule : PatchRule) (edit : DeviceEdit) (devices : Dict) :
    get? (rule.apply devices (edit.apply devices)) = get? (edit.apply devices) ∨
      get? (rule.apply devices (edit.apply devices)) = get? devices := by
  cases rule with
  | replaces => exact Or.inl rfl
  | merges =>
    cases value : edit.value with
    | some device =>
      left
      funext key
      rw [merged_denotes, apply_denotes, value]
      by_cases same : edit.key = key
      · subst key
        simp
      · rw [if_neg same, Function.update_of_ne (Ne.symm same)]
    | none =>
      right
      funext key
      rw [merged_denotes, value]
      simp

section Conflicts
variable [Platform] (lxd : LXDClient) (rule : PatchRule) (server : DeviceServer)
  (project : Option String)

def WritesMountable (request : DeviceRequest) (devices : Dict) : Prop :=
  ∀ written, Writes lxd server.name project request (server.lookup devices) written →
    Mountable written

theorem writesMountable_iff (request : DeviceRequest) (devices : Dict) :
    WritesMountable lxd server project request devices ↔
      Mountable (request.edit.apply devices) := by
  have hands : Hands (server.lookup devices)
      (.obj (set server.other "devices" (.obj devices))) := (hands_iff _ _).mpr rfl
  have read : devicesOf (.obj (set server.other "devices" (.obj devices))) = .ok devices := by
    simp [devicesOf, dictOf]
  constructor
  · intro all
    apply all
    exact (writes_iff lxd server.name project request _ _).mpr ⟨_, devices, hands, read, rfl⟩
  · intro mountable written writes
    obtain ⟨value, other, hands', read', same⟩ :=
      (writes_iff lxd server.name project request _ _).mp writes
    rw [hands_unique hands' hands, read] at read'
    cases read'
    rw [same]
    exact mountable

/- From a mountable map, every map written along a sequence of calls is mountable exactly
   if every call fits into the map that it finds. -/
theorem each_mountable_iff {initial : Dict} (mountable : Mountable initial)
    (calls : List DeviceCall) :
    EachFinds lxd rule server project (WritesMountable lxd server project) initial calls ↔
      EachFinds lxd rule server project DeviceRequest.Fits initial calls := by
  induction calls generalizing initial with
  | nil => exact Iff.rfl
  | cons first rest ih =>
    simp only [EachFinds, writesMountable_iff, mountable_apply_iff mountable]
    apply and_congr_right
    intro fits
    apply ih
    have written := (mountable_apply_iff mountable first.request).mpr fits
    rw [callOnce_eq]
    rcases rule_denotes rule first.request.edit initial with as | as
    · exact ⟨as ▸ written.paths, as ▸ written.names⟩
    · exact ⟨as ▸ mountable.paths, as ▸ mountable.names⟩

end Conflicts

theorem mountable_singleton (key : String) (device : Json) : Mountable [(key, device)] := by
  have only : ∀ claim : Json → Option Json, Exclusive claim (get? [(key, device)]) := by
    intro claim a b v w r atA atB _ _
    rw [get?_cons] at atA atB
    split_ifs at atA atB with isA isB
    · rw [← isA, ← isB]
    · cases atB
    · cases atA
    · cases atA
  exact ⟨only _, only _⟩

theorem fits_of_entries {request : DeviceRequest} {devices : Dict} {device : Json}
    (value : request.edit.value = some device)
    (others : ∀ entry ∈ devices, entry.1 ≠ request.edit.key → ∀ r,
      (mountPath entry.2 = some r → mountPath device ≠ some r) ∧
        (interfaceName entry.2 = some r → interfaceName device ≠ some r)) :
    request.Fits devices := by
  intro same attaches
  rw [value] at attaches
  cases attaches
  constructor
  · intro a w r other held
    exact (others _ (mem_of_get? held) other r).1
  · intro a w r other held
    exact (others _ (mem_of_get? held) other r).2

def withVolume : Dict := [("root", rootDisk), ("vol_a", diskDevice "ssd" "a")]

def withNic : Dict := withVolume ++ [("nic_lan", nicDevice "lan" "eth0")]

/-- A volume and two nics find their paths and names free, also while the volume that was
    detached by a merging PATCH stays in the map. -/
theorem first_volume_mountable :
    @EachFinds plainPlatform ⟨{}⟩ .merges web1 none (@WritesMountable plainPlatform ⟨{}⟩ web1 none)
      [("root", rootDisk)]
      [⟨.attachVolume "ssd" "a", web1.receipt⟩, ⟨.attachNic "lan" none "eth0", web1.receipt⟩,
        ⟨.detachVolume "ssd" "a", web1.receipt⟩, ⟨.attachNic "wan" none "eth1", web1.receipt⟩] := by
  refine (@each_mountable_iff plainPlatform ⟨{}⟩ .merges web1 none _
    (mountable_singleton "root" rootDisk) _).mpr ?_
  have volume : (DeviceRequest.attachVolume "ssd" "a").Fits [("root", rootDisk)] :=
    fits_of_entries rfl (by simp [mountPath, interfaceName, fieldOf, rootDisk, diskDevice])
  have first : (DeviceRequest.attachNic "lan" none "eth0").Fits withVolume :=
    fits_of_entries rfl
      (by simp [withVolume, mountPath, interfaceName, fieldOf, rootDisk, diskDevice, nicDevice])
  have gone : (DeviceRequest.detachVolume "ssd" "a").Fits withNic := nofun
  have second : (DeviceRequest.attachNic "wan" none "eth1").Fits withNic :=
    fits_of_entries rfl (by
      simp [withNic, withVolume, mountPath, interfaceName, fieldOf, rootDisk, diskDevice,
        nicDevice])
  simp only [EachFinds, @callOnce_eq plainPlatform]
  exact ⟨volume, first, gone, second, trivial⟩

/-- The second volume is written with the path of the first, and a nic with the name of
    the one that is there. -/
theorem second_volume_conflicts :
    ¬ @EachFinds plainPlatform ⟨{}⟩ .merges web1 none
      (@WritesMountable plainPlatform ⟨{}⟩ web1 none) []
      [⟨.attachVolume "ssd" "a", web1.receipt⟩, ⟨.attachVolume "ssd" "b", web1.receipt⟩] ∧
    ¬ @WritesMountable plainPlatform ⟨{}⟩ web1 none (.attachNic "wan" none "eth0")
      [("eth0", nicDevice "lan" "eth0")] := by
  constructor
  · intro each
    have both := (@writesMountable_iff plainPlatform _ _ _ _ _).mp each.2.1
    have same := both.paths "vol_a" "vol_b" (diskDevice "ssd" "a") (diskDevice "ssd" "b")
      (.str "/mnt/data") rfl rfl rfl rfl
    simp at same
  · intro writes
    have both := (@writesMountable_iff plainPlatform _ _ _ _ _).mp writes
    have same := both.names "eth0" "nic_wan" (nicDevice "lan" "eth0") (nicDevice "wan" "eth0")
      (.str "eth0") rfl rfl rfl rfl
    simp at same

end LxdApi

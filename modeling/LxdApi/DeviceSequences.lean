import LxdApi.DeviceUpdates
import LxdApi.FailurePropagation

set_option autoImplicit false

/- Attach and detach calls on one instance, one after another. What LXD makes of the
   device map in a change is a parameter: the map replaces the stored one, or its
   entries are laid over the stored ones. -/
namespace LxdApi
open Interaction Program OrderedMap Json

inductive PatchRule where
  | replaces
  | merges
  deriving DecidableEq, Repr

def PatchRule.apply : PatchRule → Dict → Dict → Dict
  | .replaces, _, written => written
  | .merges, stored, written => merge stored written

namespace DeviceServer

def answerBy (rule : PatchRule) (server : DeviceServer) (devices : Dict) (req : LXDRequest) :
    HttpReply × Dict :=
  if req.path = instancePath server.name then
    match req.method with
    | .GET => (server.lookup devices, devices)
    | .PATCH => (server.receipt, (req.newDevices?.map (rule.apply devices)).getD devices)
    | _ => (refusal, devices)
  else (refusal, devices)

def serveBy (rule : PatchRule) (server : DeviceServer) (devices : Dict) :
    (e : Effect) → e.Reply × Dict
  | .lxd req => (.reply (server.answerBy rule devices req).1, (server.answerBy rule devices req).2)
  | .connect _ => (.ok (), devices)
  | .accept => ((), devices)
  | .close _ => ((), devices)
  | .sendText _ => ((), devices)

theorem serveBy_replaces (server : DeviceServer) : server.serveBy .replaces = server.serve := by
  funext devices e
  cases e
  case lxd req =>
    have same : server.answerBy .replaces devices req = server.answer devices req := by
      unfold answerBy answer
      cases req.newDevices? <;> rfl
    simp only [serveBy, serve, same]
  all_goals rfl

end DeviceServer

structure DeviceCall where
  request : DeviceRequest
  receipt : HttpReply

section Calls
variable [Platform] (lxd : LXDClient) (rule : PatchRule) (server : DeviceServer)
  (project : Option String)

def callOnce (call : DeviceCall) (devices : Dict) : Except Raised Answer × Dict :=
  ((call.request.call server.name project).program lxd).runFrom
    ({ server with receipt := call.receipt }.serveBy rule) devices

def inSequence (calls : List DeviceCall) (devices : Dict) : Dict :=
  calls.foldl (fun devices call => (callOnce lxd rule server project call devices).2) devices

/-- The requests that concurrent ones are compared with are a sequence of calls whose changes
    replace the map. -/
theorem oneByOne_eq_inSequence {ι : Type} (requests : ι → DeviceRequest) (order : List ι)
    (devices : Dict) :
    oneByOne lxd server project requests order devices =
      inSequence lxd .replaces server project
        (order.map fun i => ⟨requests i, server.receipt⟩) devices := by
  simp only [oneByOne, inSequence, List.foldl_map, callOnce, DeviceServer.serveBy_replaces]
  rfl

theorem callOnce_eq (call : DeviceCall) (devices : Dict) :
    callOnce lxd rule server project call devices =
      (finished lxd .ref (.reply call.receipt),
        rule.apply devices (call.request.edit.apply devices)) := by
  have looked := lookup_received lxd { server with receipt := call.receipt } devices
  rw [callOnce, program_eq, patchDevices_eq]
  simp only [runFrom, DeviceServer.serveBy, DeviceServer.answerBy, LXDClient.sent, if_true, looked]
  cases finished lxd .ref (.reply call.receipt) <;> simp [runFrom, LXDRequest.newDevices?]

theorem inSequence_append (before later : List DeviceCall) (devices : Dict) :
    inSequence lxd rule server project (before ++ later) devices =
      inSequence lxd rule server project later
        (inSequence lxd rule server project before devices) := by
  simp only [inSequence, List.foldl_append]

def EachFinds (holds : DeviceRequest → Dict → Prop) (devices : Dict) : List DeviceCall → Prop
  | [] => True
  | first :: rest => holds first.request devices ∧
      EachFinds holds (callOnce lxd rule server project first devices).2 rest

end Calls

/- Every call of the sequence has done what it is called: a key has the device of its
   last attachment, no device after a last detachment, and its first device untouched. -/
structure ReallyDone (initial final : Dict) (calls : List DeviceCall) : Prop where
  last : ∀ before call later, calls = before ++ call :: later →
    (∀ other ∈ later, other.request.edit.key ≠ call.request.edit.key) →
    get? final call.request.edit.key = call.request.edit.value
  untouched : ∀ key, (∀ call ∈ calls, call.request.edit.key ≠ key) →
    get? final key = get? initial key

/- The sequences in which this is so: a key whose last call detaches had no device to
   begin with, and no call before has attached one. -/
def NothingToDetach (initial : Dict) (calls : List DeviceCall) : Prop :=
  ∀ before call later, calls = before ++ call :: later → call.request.edit.value = none →
    (∀ other ∈ later, other.request.edit.key ≠ call.request.edit.key) →
    get? initial call.request.edit.key = none ∧
      ∀ other ∈ before, other.request.edit.key = call.request.edit.key →
        other.request.edit.value = none

theorem merged_denotes (edit : DeviceEdit) (devices : Dict) (key : String) :
    get? (PatchRule.merges.apply devices (edit.apply devices)) key =
      if edit.key = key then edit.value.or (get? devices key) else get? devices key := by
  cases edit with
  | put name device =>
    simp only [PatchRule.apply, DeviceEdit.apply, DeviceEdit.key, DeviceEdit.value, get?_merge,
      get?_set]
    by_cases same : name = key <;> simp [same]
  | pop name =>
    simp only [PatchRule.apply, DeviceEdit.apply, DeviceEdit.key, DeviceEdit.value, get?_merge,
      get?_erase]
    by_cases same : name = key <;> simp [same]

section Merging
variable [Platform] (lxd : LXDClient) (server : DeviceServer) (project : Option String)

theorem kept_of_not_attached {calls : List DeviceCall} {key : String} (devices : Dict)
    (never : ∀ call ∈ calls, call.request.edit.key = key → call.request.edit.value = none) :
    get? (inSequence lxd .merges server project calls devices) key = get? devices key := by
  induction calls generalizing devices with
  | nil => rfl
  | cons call rest ih =>
    have here := never call List.mem_cons_self
    have later := ih (callOnce lxd .merges server project call devices).2
      fun other member => never other (List.mem_cons_of_mem _ member)
    simp only [inSequence, List.foldl_cons] at later ⊢
    rw [later, callOnce_eq, merged_denotes]
    split
    · rename_i same
      simp [here same]
    · rfl

theorem device_stays (calls : List DeviceCall) {devices : Dict} {key : String}
    (present : get? devices key ≠ none) :
    get? (inSequence lxd .merges server project calls devices) key ≠ none := by
  induction calls generalizing devices with
  | nil => exact present
  | cons call rest ih =>
    simp only [inSequence, List.foldl_cons]
    apply ih
    rw [callOnce_eq, merged_denotes]
    split
    · cases call.request.edit.value <;> simp [present]
    · exact present

theorem attached_last {before later : List DeviceCall} {call : DeviceCall} (devices : Dict)
    {device : Json} (attaches : call.request.edit.value = some device)
    (last : ∀ other ∈ later, other.request.edit.key ≠ call.request.edit.key) :
    get? (inSequence lxd .merges server project (before ++ call :: later) devices)
      call.request.edit.key = some device := by
  have unnamed : ∀ other ∈ later, other.request.edit.key = call.request.edit.key →
      other.request.edit.value = none := by
    intro other member same
    exact absurd same (last other member)
  have kept := kept_of_not_attached lxd server project
    (callOnce lxd .merges server project call
      (inSequence lxd .merges server project before devices)).2 unnamed
  rw [inSequence_append]
  simp only [inSequence, List.foldl_cons] at kept ⊢
  rw [kept, callOnce_eq, merged_denotes, if_pos rfl, attaches]
  rfl

theorem nothingToDetach_of_done {initial : Dict} {calls : List DeviceCall}
    (done : ReallyDone initial (inSequence lxd .merges server project calls initial) calls) :
    NothingToDetach initial calls := by
  intro before call later shape detaches last
  have gone := done.last before call later shape last
  rw [detaches] at gone
  have unattached : ∀ other ∈ calls, other.request.edit.key = call.request.edit.key →
      other.request.edit.value = none := by
    intro other member same
    obtain ⟨front, back, split⟩ := List.append_of_mem member
    by_contra attaches
    obtain ⟨device, value⟩ := Option.ne_none_iff_exists'.mp attaches
    have present : get? (callOnce lxd .merges server project other
        (inSequence lxd .merges server project front initial)).2
        call.request.edit.key ≠ none := by
      rw [callOnce_eq, merged_denotes, if_pos same, value]
      simp
    apply device_stays lxd server project back present
    rw [split, inSequence_append] at gone
    exact gone
  constructor
  · rw [← kept_of_not_attached lxd server project initial unattached]
    exact gone
  · intro other member
    apply unattached
    rw [shape]
    exact List.mem_append_left _ member

theorem done_of_nothingToDetach {initial : Dict} {calls : List DeviceCall}
    (nothing : NothingToDetach initial calls) :
    ReallyDone initial (inSequence lxd .merges server project calls initial) calls := by
  constructor
  · intro before call later shape last
    cases value : call.request.edit.value with
    | some device =>
      rw [shape]
      exact attached_last lxd server project initial value last
    | none =>
      obtain ⟨absent, unattached⟩ := nothing before call later shape value last
      rw [← absent]
      apply kept_of_not_attached
      intro other member same
      rw [shape, List.mem_append, List.mem_cons] at member
      rcases member with earlier | itself | after
      · exact unattached other earlier same
      · rw [itself]
        exact value
      · exact absurd same (last other after)
  · intro key never
    apply kept_of_not_attached
    intro call member same
    exact absurd same (never call member)

/- Where LXD lays a change over the map it keeps, a sequence of calls does what it is
   called exactly if no key whose last call detaches ever had a device. -/
theorem really_done_iff (initial : Dict) (calls : List DeviceCall) :
    ReallyDone initial (inSequence lxd .merges server project calls initial) calls ↔
      NothingToDetach initial calls :=
  ⟨nothingToDetach_of_done lxd server project, done_of_nothingToDetach lxd server project⟩

end Merging

def detachVolumeA : DeviceCall := ⟨.detachVolume "pool" "a", web1.receipt⟩

/-- A volume that is attached and then detached is still there, though both calls were
    answered with a reference. -/
theorem detached_volume_remains :
    let calls := [⟨.attachVolume "pool" "a", web1.receipt⟩, detachVolumeA]
    let final := @inSequence plainPlatform ⟨{}⟩ .merges web1 none calls []
    (∀ call ∈ calls, ∃ ref,
      @finished plainPlatform ⟨{}⟩ .ref (.reply call.receipt) = .ok (.ref ref)) ∧
      get? final "vol_a" = some (diskDevice "pool" "a") ∧ ¬ ReallyDone [] final calls := by
  refine ⟨?_, rfl, ?_⟩
  · intro call member
    have same : call.receipt = web1.receipt := by
      simp only [List.mem_cons, List.not_mem_nil, or_false] at member
      rcases member with first | second
      · rw [first]
      · rw [second]; rfl
    rw [same]
    exact ⟨_, rfl⟩
  · intro done
    have gone := done.last [⟨.attachVolume "pool" "a", web1.receipt⟩] detachVolumeA [] rfl
      (fun other member => nomatch member)
    cases gone

end LxdApi

import LxdApi.DeviceSequences

set_option autoImplicit false

/- What an attach or detach call writes, compared with the map it has fetched: which
   devices it keeps, and which one it may replace or take out. -/
namespace LxdApi
open Interaction Program OrderedMap Json

def written? : Event Effect Effect.Reply → Option Dict
  | ⟨.lxd req, _⟩ => if req.method = .PATCH then req.newDevices? else none
  | _ => none

/-- The device is a disk of the pool and volume, or a nic of the network, that the
    request names. -/
def DeviceRequest.Owns : DeviceRequest → Json → Prop
  | .attachVolume pool name, device | .detachVolume pool name, device =>
      ∃ fields, device = .obj fields ∧ get? fields "type" = some (.str "disk") ∧
        get? fields "pool" = some (.str pool) ∧ get? fields "volume" = some (.str name)
  | .attachNic name _ _, device | .detachNic name _, device =>
      ∃ fields, device = .obj fields ∧ get? fields "type" = some (.str "nic") ∧
        get? fields "network" = some (.str name)

/- The written map has the entry of the fetched one under every key that holds no device
   of the request, apart from one key that an attachment adds. -/
def OnlyOwn (request : DeviceRequest) (devices written : Dict) : Prop :=
  ∃ added, ∀ key, (∀ device, get? devices key = some device → ¬ request.Owns device) →
    get? written key = get? devices key ∨
      request.edit.value ≠ none ∧ key = added ∧ get? devices key = none

theorem owns_attached {request : DeviceRequest} {device : Json}
    (attaches : request.edit.value = some device) : request.Owns device := by
  cases request with
  | attachVolume pool name => cases attaches; exact ⟨_, rfl, rfl, rfl, rfl⟩
  | attachNic name deviceName nicName => cases attaches; exact ⟨_, rfl, rfl, rfl⟩
  | detachVolume pool name => cases attaches
  | detachNic name deviceName => cases attaches

theorem onlyOwn_iff (request : DeviceRequest) (devices : Dict) :
    OnlyOwn request devices (request.edit.apply devices) ↔
      ∀ device, get? devices request.edit.key = some device → request.Owns device := by
  constructor
  · intro only device found
    obtain ⟨added, kept⟩ := only
    by_contra foreign
    have same := kept request.edit.key fun other held => by
      rw [found] at held
      cases held
      exact foreign
    rw [apply_denotes, Function.update_self, found] at same
    rcases same with value | ⟨_, _, absent⟩
    · exact foreign (owns_attached value)
    · cases absent
  · intro own
    refine ⟨request.edit.key, ?_⟩
    intro key foreign
    rw [apply_denotes]
    by_cases same : key = request.edit.key
    · subst key
      rw [Function.update_self]
      have absent : get? devices request.edit.key = none := by
        cases found : get? devices request.edit.key with
        | none => rfl
        | some device => exact absurd (own device found) (foreign device found)
      rw [absent]
      cases value : request.edit.value with
      | none => exact Or.inl rfl
      | some device => exact Or.inr ⟨by simp, rfl, rfl⟩
    · rw [Function.update_of_ne same]
      exact Or.inl rfl

theorem unread_iff (value : Json) :
    (∃ fields listed, value = .obj fields ∧ get? fields "devices" = some listed ∧
      ((∃ devices, listed = .obj devices) ∨ ∃ exc, dictOf listed = .error exc)) ↔
      ((∃ fields devices, value = .obj fields ∧ get? fields "devices" = some (.obj devices)) ∨
        ∃ exc, devicesOf value = .error exc) := by
  cases value
  case obj fields =>
    cases found : get? fields "devices" with
    | none => simp [devicesOf, found]
    | some listed =>
      constructor
      · intro h
        obtain ⟨_, _, same, at', cases'⟩ := h
        cases same
        rw [found] at at'
        cases at'
        rcases cases' with mapped | broken
        · obtain ⟨devices, same⟩ := mapped
          exact Or.inl ⟨fields, devices, rfl, by rw [found, same]⟩
        · right
          simpa [devicesOf, found] using broken
      · intro h
        refine ⟨fields, listed, rfl, found, ?_⟩
        rcases h with ⟨_, devices, same, at'⟩ | broken
        · cases same
          rw [found] at at'
          cases at'
          exact Or.inl ⟨devices, rfl⟩
        · right
          simpa [devicesOf, found] using broken
  all_goals simp [devicesOf]

section Frames
variable [Platform]

def Carries (r : HttpReply) (devices : Dict) : Prop :=
  ∃ fields, Hands r (.obj fields) ∧ get? fields "devices" = some (.obj devices)

variable (lxd : LXDClient) (name : String) (project : Option String)

def Writes (request : DeviceRequest) (r : HttpReply) (written : Dict) : Prop :=
  ∃ trace outcome, ((request.call name project).program lxd).Runs trace outcome ∧
    trace.head?.bind reply? = some r ∧ ∃ event ∈ trace, written? event = some written

/- The handler touches its own device only, and writes nothing where it has seen no
   device map. -/
structure TouchesOwn (request : DeviceRequest) (r : HttpReply) : Prop where
  frame : ∀ devices written, Carries r devices → Writes lxd name project request r written →
    OnlyOwn request devices written
  blind : (¬ ∃ devices, Carries r devices) → ∀ written, ¬ Writes lxd name project request r written

/- The replies for which this is so: the key of the request holds nothing but its own
   device, and a reply without a map is refused, or has under `devices` something of
   which no dict can be made. -/
structure FindsOwn (request : DeviceRequest) (r : HttpReply) : Prop where
  own : ∀ devices device, Carries r devices →
    get? devices request.edit.key = some device → request.Owns device
  seen : ∀ value, Hands r value → ∃ fields listed, value = .obj fields ∧
    get? fields "devices" = some listed ∧
      ((∃ devices, listed = .obj devices) ∨ ∃ exc, dictOf listed = .error exc)

theorem patchDevices_replied_iff (edit : DeviceEdit) (r : HttpReply)
    (trace : List (Event Effect Effect.Reply)) :
    (∃ outcome, (patchDevices lxd name project edit).Runs trace outcome ∧
        trace.head?.bind reply? = some r) ↔
      ∃ tail, trace = ⟨.lxd (lxd.sent .GET (instancePath name) .none (projectParams project)),
          .reply r⟩ :: tail ∧
        ((tail = [] ∧ ∃ exc, ((lxd.received (.reply r)).mapError toHttp).bind devicesOf =
            .error exc) ∨
          ∃ devices wire, ((lxd.received (.reply r)).mapError toHttp).bind devicesOf =
              .ok devices ∧
            tail = [⟨.lxd (lxd.sent .PATCH (instancePath name)
              (.fixed (.obj [("devices", .obj (edit.apply devices))])) (projectParams project)),
              wire⟩]) := by
  rw [patchDevices_eq]
  constructor
  · intro h
    obtain ⟨outcome, run, head⟩ := h
    obtain ⟨wire, tail, shape, run⟩ := (runs_call_iff _ _ _ _).mp run
    rw [shape] at head
    cases wire with
    | httpError exc => cases head
    | invalidUrl => cases head
    | reply other =>
      cases head
      refine ⟨tail, shape, ?_⟩
      cases read : ((lxd.received (.reply r)).mapError toHttp).bind devicesOf with
      | error exc =>
        rw [read] at run
        exact Or.inl ⟨((runs_raise_iff _ _ _).mp run).1, exc, rfl⟩
      | ok devices =>
        rw [read] at run
        obtain ⟨wire, last, _⟩ := (runs_one_request _ _ _ _).mp run
        exact Or.inr ⟨devices, wire, rfl, last⟩
  · intro h
    obtain ⟨tail, shape, ends⟩ := h
    rw [shape]
    rcases ends with ⟨empty, exc, read⟩ | ⟨devices, wire, read, last⟩
    · refine ⟨.error exc, (runs_call_iff _ _ _ _).mpr ⟨.reply r, tail, rfl, ?_⟩, rfl⟩
      simp only [read]
      exact (runs_raise_iff _ _ _).mpr ⟨empty, rfl⟩
    · refine ⟨finished lxd .ref wire, (runs_call_iff _ _ _ _).mpr ⟨.reply r, tail, rfl, ?_⟩, rfl⟩
      simp only [read]
      exact (runs_one_request _ _ _ _).mpr ⟨wire, last, rfl⟩

theorem made_out_iff (r : HttpReply) (devices : Dict) :
    ((lxd.received (.reply r)).mapError toHttp).bind devicesOf = .ok devices ↔
      ∃ value, Hands r value ∧ devicesOf value = .ok devices := by
  simp only [hands_iff, LXDClient.received]
  cases normalize r with
  | error exc => simp [Except.mapError, Except.bind]
  | ok value => simp [Except.mapError, Except.bind]

theorem writes_iff (request : DeviceRequest) (r : HttpReply) (written : Dict) :
    Writes lxd name project request r written ↔
      ∃ value devices, Hands r value ∧ devicesOf value = .ok devices ∧
        written = request.edit.apply devices := by
  constructor
  · intro writes
    obtain ⟨trace, outcome, run, head, event, member, wrote⟩ := writes
    rw [program_eq] at run
    obtain ⟨tail, shape, ends⟩ :=
      (patchDevices_replied_iff lxd name project request.edit r trace).mp ⟨outcome, run, head⟩
    rw [shape, List.mem_cons] at member
    rcases member with first | later
    · rw [first] at wrote
      cases wrote
    · rcases ends with ⟨empty, _⟩ | ⟨devices, wire, made, last⟩
      · rw [empty] at later
        cases later
      · rw [last, List.mem_singleton] at later
        rw [later] at wrote
        cases wrote
        obtain ⟨value, hands, read⟩ := (made_out_iff lxd r devices).mp made
        exact ⟨value, devices, hands, read, rfl⟩
  · intro h
    obtain ⟨value, devices, hands, read, same⟩ := h
    obtain ⟨outcome, run, head⟩ :=
      (patchDevices_replied_iff lxd name project request.edit r _).mpr
        ⟨_, rfl, Or.inr ⟨devices, .invalidUrl, (made_out_iff lxd r devices).mpr
          ⟨value, hands, read⟩, rfl⟩⟩
    rw [← program_eq] at run
    rw [same]
    exact ⟨_, outcome, run, head, _, List.mem_cons_of_mem _ List.mem_cons_self, rfl⟩

theorem carries_iff {r : HttpReply} {devices : Dict} :
    Carries r devices ↔ ∃ fields, Hands r (.obj fields) ∧
      get? fields "devices" = some (.obj devices) ∧ devicesOf (.obj fields) = .ok devices := by
  constructor
  · intro carries
    obtain ⟨fields, hands, listed⟩ := carries
    exact ⟨fields, hands, listed, by simp [devicesOf, listed, dictOf]⟩
  · intro h
    obtain ⟨fields, hands, listed, _⟩ := h
    exact ⟨fields, hands, listed⟩

theorem touchesOwn_iff (request : DeviceRequest) (r : HttpReply) :
    TouchesOwn lxd name project request r ↔ FindsOwn request r := by
  constructor
  · intro touches
    constructor
    · intro devices device carries
      obtain ⟨fields, hands, _, read⟩ := carries_iff.mp carries
      have writes := (writes_iff lxd name project request r _).mpr ⟨_, devices, hands, read, rfl⟩
      exact (onlyOwn_iff request devices).mp (touches.frame devices _ carries writes) device
    · intro value hands
      apply (unread_iff value).mpr
      by_contra neither
      rw [not_or] at neither
      cases read : devicesOf value with
      | error exc => exact neither.2 ⟨exc, read⟩
      | ok devices =>
        refine touches.blind ?_ _
          ((writes_iff lxd name project request r _).mpr ⟨value, devices, hands, read, rfl⟩)
        intro carried
        obtain ⟨devices', fields, hands', listed⟩ := carried
        exact neither.1 ⟨fields, devices', hands_unique hands hands', listed⟩
  · intro finds
    constructor
    · intro devices written carries writes
      obtain ⟨value, read, hands, made, same⟩ := (writes_iff lxd name project request r _).mp writes
      obtain ⟨fields, hands', _, made'⟩ := carries_iff.mp carries
      rw [hands_unique hands hands', made'] at made
      cases made
      rw [same]
      exact (onlyOwn_iff request devices).mpr fun device => finds.own devices device carries
    · intro bare written writes
      obtain ⟨value, devices, hands, made, _⟩ := (writes_iff lxd name project request r _).mp writes
      rcases (unread_iff value).mp (finds.seen value hands) with ⟨fields, devices', same, listed⟩ |
          ⟨exc, failed⟩
      · rw [same] at hands
        exact bare ⟨devices', fields, hands, listed⟩
      · rw [made] at failed
        cases failed

theorem callOnce_keeps (rule : PatchRule) (server : DeviceServer) {call : DeviceCall}
    {devices : Dict} {key : String} {device : Json}
    (own : ∀ device, get? devices call.request.edit.key = some device → call.request.Owns device)
    (held : get? devices key = some device) (foreign : ¬ call.request.Owns device) :
    get? (callOnce lxd rule server project call devices).2 key = some device := by
  have other : key ≠ call.request.edit.key := by
    intro same
    rw [same] at held
    exact foreign (own device held)
  have written : get? (call.request.edit.apply devices) key = some device := by
    rw [apply_denotes, Function.update_of_ne other, held]
  rw [callOnce_eq]
  cases rule with
  | replaces => exact written
  | merges => simp only [PatchRule.apply, get?_merge, written, Option.some_or]

theorem inSequence_keeps (rule : PatchRule) (server : DeviceServer) {calls : List DeviceCall}
    {devices : Dict} {key : String} {device : Json}
    (finds : EachFinds lxd rule server project (fun request devices =>
      ∀ device, get? devices request.edit.key = some device → request.Owns device) devices calls)
    (held : get? devices key = some device)
    (foreign : ∀ call ∈ calls, ¬ call.request.Owns device) :
    get? (inSequence lxd rule server project calls devices) key = some device := by
  induction calls generalizing devices with
  | nil => exact held
  | cons call rest ih =>
    have kept := callOnce_keeps lxd project rule server finds.1 held
      (foreign call List.mem_cons_self)
    exact ih finds.2 kept fun other member => foreign other (List.mem_cons_of_mem _ member)

/- A call touches its own device only exactly if it finds nothing else under its key;
   and in a sequence of such calls every device that none of them names stays. -/
theorem own_devices_only :
    (∀ request r, TouchesOwn lxd name project request r ↔ FindsOwn request r) ∧
    ∀ rule server initial calls,
      EachFinds lxd rule server project (fun request devices =>
        ∀ device, get? devices request.edit.key = some device → request.Owns device) initial calls →
      ∀ key device, get? initial key = some device →
        (∀ call ∈ calls, ¬ call.request.Owns device) →
        get? (inSequence lxd rule server project calls initial) key = some device := by
  constructor
  · intro request r
    exact touchesOwn_iff lxd name project request r
  · intro rule server initial calls finds key device held foreign
    exact inSequence_keeps lxd project rule server finds held foreign

end Frames

def rootDisk : Json := .obj [("type", .str "disk"), ("pool", .str "ssd"), ("path", .str "/")]

/-- An attachment beside the root disk is confined to its own device, and the root disk
    is still there after it. -/
theorem root_disk_kept :
    @TouchesOwn plainPlatform ⟨{}⟩ "web1" none (.attachVolume "ssd" "a")
      (web1.lookup [("root", rootDisk)]) ∧
    get? (@inSequence plainPlatform ⟨{}⟩ .replaces web1 none
      [⟨.attachVolume "ssd" "a", web1.receipt⟩] [("root", rootDisk)]) "root" = some rootDisk := by
  have only := @own_devices_only plainPlatform ⟨{}⟩ "web1" none
  constructor
  · refine (only.1 _ _).mpr (@FindsOwn.mk plainPlatform _ _ ?_ ?_)
    · intro devices device carries found
      obtain ⟨fields, hands, listed⟩ := carries
      rw [(@hands_iff plainPlatform _ _)] at hands
      cases hands
      cases listed
      cases found
    · intro value hands
      rw [(@hands_iff plainPlatform _ _)] at hands
      cases hands
      exact ⟨_, _, rfl, rfl, Or.inl ⟨_, rfl⟩⟩
  · apply only.2 .replaces web1 [("root", rootDisk)] [⟨.attachVolume "ssd" "a", web1.receipt⟩]
    · refine ⟨?_, trivial⟩
      intro device found
      cases found
    · rfl
    · intro call member owns
      rw [List.mem_singleton] at member
      rw [member] at owns
      obtain ⟨fields, same, _, _, volume⟩ := owns
      cases same
      cases volume

/-- The volume of another pool is taken out, the root disk is overwritten by a nic, and
    after a lookup with an empty body an empty map is written. -/
theorem foreign_devices_touched :
    ¬ @TouchesOwn plainPlatform ⟨{}⟩ "web1" none (.detachVolume "hdd" "a")
      (web1.lookup [("vol_a", diskDevice "ssd" "a")]) ∧
    ¬ @TouchesOwn plainPlatform ⟨{}⟩ "web1" none (.attachNic "lan" (some "root") "eth0")
      (web1.lookup [("root", rootDisk)]) ∧
    @Writes plainPlatform ⟨{}⟩ "web1" none (.detachVolume "hdd" "a") ⟨200, .empty⟩ [] := by
  refine ⟨?_, ?_, ?_⟩
  · intro touches
    have finds := (@touchesOwn_iff plainPlatform _ _ _ _ _).mp touches
    have owns := @FindsOwn.own plainPlatform _ _ finds _ (diskDevice "ssd" "a")
      ⟨_, (@hands_iff plainPlatform _ _).mpr rfl, rfl⟩ rfl
    obtain ⟨fields, same, _, pool, _⟩ := owns
    cases same
    simp at pool
  · intro touches
    have finds := (@touchesOwn_iff plainPlatform _ _ _ _ _).mp touches
    have owns := @FindsOwn.own plainPlatform _ _ finds _ rootDisk
      ⟨_, (@hands_iff plainPlatform _ _).mpr rfl, rfl⟩ rfl
    obtain ⟨fields, same, type, _⟩ := owns
    cases same
    simp at type
  · apply (@writes_iff plainPlatform _ _ _ _ _ _).mpr
    exact ⟨.null, [], Or.inl ⟨rfl, rfl⟩, rfl, rfl⟩

end LxdApi

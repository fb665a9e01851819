import LxdApi.Payloads
import LxdApi.OperationLinks
import LxdApi.Permissions

set_option autoImplicit false

/- What becomes of the body of a request: which calls read one, what they hand on to LXD,
   and how what they have created is found again. -/
namespace LxdApi
open OrderedMap Json RecordFormat Interaction Program UriReference PathPatterns

/-- The body that a handler declares; a plain `dict` is handed on as it is. -/
inductive BodyModel where
  | nothing
  | dict
  | model (schema : Model)

section Bodies
variable [Platform] [Coercion]

def Call.bodyModel : Call → BodyModel
  | .createInstance .. => .model instanceCreate
  | .replaceInstance .. => .model instanceUpdate
  | .patchInstance .. => .model instancePatch
  | .setInstanceState .. => .model instanceStateAction
  | .execInstance .. => .model execRequest
  | .createSnapshot .. => .model snapshotCreate
  | .renameSnapshot .. => .dict
  | .createBackup .. => .model backupCreate
  | .createPool .. => .model storagePoolCreate
  | .updatePool .. => .model storagePoolUpdate
  | .patchPool .. => .model storagePoolPatch
  | .createVolume .. => .model storageVolumeCreate
  | .updateVolume .. => .model storageVolumeUpdate
  | .patchVolume .. => .dict
  | .createNetwork .. => .model networkCreate
  | .updateNetwork .. => .model networkUpdate
  | .patchNetwork .. => .model networkPatch
  | .createProject .. => .model projectCreate
  | .updateProject .. => .model projectUpdate
  | .patchProject .. => .model projectPatch
  | .createImage .. => .model imageCreate
  | .createAlias .. => .model imageAliasCreate
  | _ => .nothing

def Call.payload? : Call → Option Dict
  | .createInstance payload .. | .replaceInstance _ payload .. | .patchInstance _ payload ..
  | .setInstanceState _ payload .. | .execInstance _ payload .. | .createSnapshot _ payload ..
  | .renameSnapshot _ _ payload .. | .createBackup _ payload .. | .createPool payload ..
  | .updatePool _ payload .. | .patchPool _ payload .. | .createVolume _ payload ..
  | .updateVolume _ _ _ payload .. | .patchVolume _ _ _ payload .. | .createNetwork payload ..
  | .updateNetwork _ payload .. | .patchNetwork _ payload .. | .createProject payload
  | .updateProject _ payload | .patchProject _ payload | .createImage payload ..
  | .createAlias payload .. => some payload
  | _ => none

def Call.withPayload (call : Call) (payload : Dict) : Call :=
  match call with
  | .createInstance _ project => .createInstance payload project
  | .replaceInstance name _ project => .replaceInstance name payload project
  | .patchInstance name _ project => .patchInstance name payload project
  | .setInstanceState name _ project wait => .setInstanceState name payload project wait
  | .execInstance name _ project => .execInstance name payload project
  | .createSnapshot name _ project wait => .createSnapshot name payload project wait
  | .renameSnapshot name snap _ project => .renameSnapshot name snap payload project
  | .createBackup name _ project wait => .createBackup name payload project wait
  | .createPool _ project => .createPool payload project
  | .updatePool name _ project => .updatePool name payload project
  | .patchPool name _ project => .patchPool name payload project
  | .createVolume pool _ project => .createVolume pool payload project
  | .updateVolume pool type name _ project => .updateVolume pool type name payload project
  | .patchVolume pool type name _ project => .patchVolume pool type name payload project
  | .createNetwork _ project => .createNetwork payload project
  | .updateNetwork name _ project => .updateNetwork name payload project
  | .patchNetwork name _ project => .patchNetwork name payload project
  | .createProject _ => .createProject payload
  | .updateProject name _ => .updateProject name payload
  | .patchProject name _ => .patchProject name payload
  | .createImage _ project => .createImage payload project
  | .createAlias _ project => .createAlias payload project
  | other => other

def BodyModel.read (declared : BodyModel) (body : Json) : Reading String Dict :=
  match declared, body with
  | .nothing, _ => .ok []
  | .dict, .obj given => .ok given
  | .model schema, .obj given => (schema.read given).map dump
  | _, _ => .error [[]]

/-- The call that a request with this body makes, or the places in the request that are
    answered as faulty. -/
def Call.received (call : Call) (body : Json) : Reading String Call :=
  Reading.below (.key "body")
    ((call.bodyModel.read body).map fun payload => call.withPayload payload)

omit [Platform] [Coercion] in
theorem payload_withPayload (call : Call) (payload : Dict) :
    (call.withPayload payload).payload? = call.payload?.map fun _ => payload := by
  cases call <;> rfl

theorem payload_undeclared {call : Call} (nothing : call.bodyModel = .nothing) :
    call.payload? = none := by
  cases call <;> first | rfl | cases nothing

theorem received_eq_ok_iff (call entered : Call) (body : Json) :
    call.received body = .ok entered ↔
      ∃ payload, call.bodyModel.read body = .ok payload ∧ call.withPayload payload = entered := by
  simp only [Call.received, below_eq_ok_iff, map_eq_ok_iff]

end Bodies

section Forwarding
variable [Platform] (lxd : LXDClient)

def Forwards (payload? : Option Dict) (effect : Effect) : Prop :=
  ∀ req, effect = .lxd req → ∀ sent, req.jsonBody = .free sent →
    ∃ payload, payload? = some payload ∧ sent = .obj payload

omit [Platform] in
theorem forwards_none (payload? : Option Dict) {req : LXDRequest} (fixed : req.jsonBody = .none) :
    Forwards payload? (.lxd req) := by
  intro other same sent free
  cases same
  rw [fixed] at free
  cases free

omit [Platform] in
theorem forwards_fixed (payload? : Option Dict) {req : LXDRequest} {body : Json}
    (fixed : req.jsonBody = .fixed body) : Forwards payload? (.lxd req) := by
  intro other same sent free
  cases same
  rw [fixed] at free
  cases free

omit [Platform] in
theorem forwards_payload {req : LXDRequest} {payload : Dict}
    (given : req.jsonBody = .free (.obj payload)) : Forwards (some payload) (.lxd req) := by
  intro other same sent free
  cases same
  rw [given] at free
  cases free
  exact ⟨payload, rfl, rfl⟩

theorem handler_forwards (call : Call) : (call.program lxd).Uses (Forwards call.payload?) := by
  have quiet : ∀ text, Forwards call.payload? (.sendText text) := by
    intro text req same
    cases same
  have closes : ∀ code, Forwards call.payload? (.close code) := by
    intro code req same
    cases same
  have connects : ∀ url, Forwards call.payload? (.connect url) := by
    intro url req same
    cases same
  cases call
  case healthDeep => exact healthDeep_uses (forwards_none _ rfl)
  case operationsWs => exact relay_uses quiet closes (connects _) _
  case execWs =>
    simp only [Call.program, LxdApi.execWs]
    exact relaySession_uses quiet closes connects (forwards_fixed _ rfl)
  case consoleWs =>
    simp only [Call.program, LxdApi.consoleWs]
    exact relaySession_uses quiet closes connects (forwards_fixed _ rfl)
  case waitOperation => exact waitOperation_uses fun _ => forwards_none _ rfl
  all_goals
    first
      | exact single_uses (forwards_none _ rfl)
      | exact single_uses (forwards_payload rfl)
      | exact streaming_uses (forwards_none _ rfl)
      | exact patchDevices_uses (forwards_none _ rfl) fun _ => forwards_fixed _ rfl
      | exact mutatingOrWaiting_uses (forwards_payload rfl) fun _ => forwards_none _ rfl
      | exact mutatingOrWaiting_uses (forwards_fixed _ rfl) fun _ => forwards_none _ rfl

theorem issued_payload {call : Call} {req : LXDRequest} (issued : Issues lxd call req) {sent : Json}
    (free : req.jsonBody = .free sent) :
    ∃ payload, call.payload? = some payload ∧ sent = .obj payload := by
  obtain ⟨trace, outcome, wire, run, member⟩ := issued
  exact uses_runs (handler_forwards lxd call) run _ member req rfl sent free

end Forwarding

section Stability
variable [Platform] [Coercion]

theorem models_plain {call : Call} {schema : Model} (declared : call.bodyModel = .model schema)
    (other : ∀ pool payload project, call ≠ .createVolume pool payload project) : schema.Plain := by
  cases call
  case createVolume pool payload project => exact absurd rfl (other pool payload project)
  all_goals
    cases declared
    try simp [Schema.Plain, model, instanceCreate, instanceUpdate, instancePatch,
      instanceStateAction, execRequest, snapshotCreate, backupCreate, storagePoolCreate,
      storagePoolUpdate, storagePoolPatch, storageVolumeUpdate, networkCreate, networkUpdate,
      networkPatch, projectCreate, projectUpdate, projectPatch, imageCreate, imageAliasCreate,
      descriptionAndConfig, describing, configuring]

omit [Platform] [Coercion] in
theorem contentType_settles_iff (given : Dict) :
    contentType.Settles given ↔ get? given "content_type" ≠ some .null := by
  constructor
  · intro settles null
    have held : contentType.value given = .ok .null := by
      unfold Field.value
      rw [show get? given contentType.key = some .null from null]
      rfl
    obtain ⟨stand, fallback, nothing⟩ := settles _ held rfl
    cases fallback
    cases nothing
  · intro given' value held null
    unfold Field.value at held
    split at held
    · rename_i before found
      have read := (below_eq_ok_iff _ _ _).mp held
      simp only [contentType, defaulting, Reader.orNull] at read
      split at read
      · rename_i nothing
        cases before <;> first | exact absurd found given' | cases nothing
      · rw [text_solid _ _ read] at null
        cases null
    · cases held
      cases null

omit [Platform] [Coercion] in
theorem volume_settles_iff (given : Dict) :
    (∀ field ∈ storageVolumeCreate.fields, field.Settles given) ↔
      get? given "content_type" ≠ some .null := by
  rw [← contentType_settles_iff]
  constructor
  · intro settles
    exact settles contentType (by simp [storageVolumeCreate, model])
  · intro settles field listed
    simp only [storageVolumeCreate, model, List.mem_cons, List.not_mem_nil, or_false] at listed
    rcases listed with same | same | same | same | same | same <;> subst same
    case inr.inr.inl => exact settles
    all_goals
      refine Field.settles_of_plain _ ?_ given
      simp [describing, configuring]

def NullsContentType (call : Call) (body : Json) : Prop :=
  ∃ pool payload project given, call = .createVolume pool payload project ∧ body = .obj given ∧
    get? given "content_type" = some .null

theorem settles_iff {call : Call} {schema : Model} (declared : call.bodyModel = .model schema)
    (given : Dict) : (∀ field ∈ schema.fields, field.Settles given) ↔
      ¬ NullsContentType call (.obj given) := by
  by_cases volume : ∃ pool payload project, call = .createVolume pool payload project
  · obtain ⟨pool, payload, project, same⟩ := volume
    subst same
    cases declared
    rw [volume_settles_iff]
    constructor
    · intro other nulls
      obtain ⟨_, _, _, _, _, body, null⟩ := nulls
      cases body
      exact other null
    · intro other null
      exact other ⟨pool, payload, project, given, rfl, rfl, null⟩
  · have others : ∀ pool payload project, call ≠ .createVolume pool payload project :=
      fun pool payload project same => volume ⟨pool, payload, project, same⟩
    refine iff_of_true (Schema.settles_of_plain (models_plain declared others) given) ?_
    intro nulls
    obtain ⟨pool, payload, project, _, same, _⟩ := nulls
    exact others pool payload project same

/- What a call sends to LXD of its client's body would be accepted as the body of the same
   call, and come out as it is, except where a volume was created with a null for its
   content type. -/
theorem forwarded_again_iff (lxd : LXDClient) {call entered : Call} {body sent : Json}
    (received : call.received body = .ok entered) {req : LXDRequest}
    (issued : Issues lxd entered req) (free : req.jsonBody = .free sent) :
    call.received sent = .ok entered ↔ ¬ NullsContentType call body := by
  obtain ⟨payload, given, shape⟩ := (received_eq_ok_iff call entered body).mp received
  obtain ⟨own, held, same⟩ := issued_payload lxd issued free
  rw [← shape, payload_withPayload] at held
  obtain ⟨before, takes, equal⟩ := Option.map_eq_some_iff.mp held
  subst equal same shape
  have determined : ∀ other, call.withPayload other = call.withPayload payload →
      other = payload := by
    intro other agree
    have payloads := congrArg Call.payload? agree
    rw [payload_withPayload, payload_withPayload, takes] at payloads
    exact Option.some.inj payloads
  rw [received_eq_ok_iff]
  cases declared : call.bodyModel with
  | nothing =>
    rw [payload_undeclared declared] at takes
    cases takes
  | dict =>
    refine iff_of_true ⟨payload, rfl, rfl⟩ ?_
    intro nulls
    obtain ⟨pool, other, project, _, volume, _⟩ := nulls
    rw [volume] at declared
    cases declared
  | model schema =>
    rw [declared] at given
    cases body with
    | obj fields =>
      obtain ⟨record, found, dumped⟩ := (map_eq_ok_iff _ _ _).mp given
      subst dumped
      rw [← settles_iff declared fields, ← Schema.read_dump_iff found]
      constructor
      · intro h
        obtain ⟨other, reread, agree⟩ := h
        obtain ⟨again, read, shape⟩ := (map_eq_ok_iff _ _ _).mp reread
        exact ⟨again, read, shape.trans (determined other agree)⟩
      · intro h
        obtain ⟨again, read, shape⟩ := h
        exact ⟨_, (map_eq_ok_iff _ _ _).mpr ⟨again, read, shape⟩, rfl⟩
    | _ => cases given

end Stability

def volumeType (payload : Dict) : String :=
  match get? payload "type" with
  | some (.str type) => type
  | _ => ""

section Names
variable [Platform] [Coercion]

end Names

def leftToLxd : Dict := [("name", .str "data"), ("content_type", .null), ("size", .null)]

def volumePayload : Dict :=
  [("name", .str "data"), ("type", .str "custom"), ("description", .str ""), ("config", .obj [])]

theorem volume_received :
    @Call.received plainPlatform plainCoercion (.createVolume "pool1" [] none) (.obj leftToLxd) =
      .ok (.createVolume "pool1" volumePayload none) := rfl

theorem volume_issued :
    @Issues plainPlatform ⟨{}⟩ (.createVolume "pool1" volumePayload none)
      (LXDClient.sent ⟨{}⟩ .POST (.under .storagePools [.arg "pool1", .lit .volumes])
        (.free (.obj volumePayload)) (projectParams none)) :=
  @issues_single plainPlatform ⟨{}⟩ _ _ _ _ _ _ rfl

/-- What LXD is sent for it would be read as the creation of a file system. -/
theorem left_content_type_not_kept :
    @Call.received plainPlatform plainCoercion (.createVolume "pool1" [] none)
      (.obj volumePayload) ≠ .ok (.createVolume "pool1" volumePayload none) := by
  intro again
  exact (@forwarded_again_iff plainPlatform plainCoercion ⟨{}⟩ _ _ _ _ volume_received _
    volume_issued rfl).mp again ⟨"pool1", [], none, leftToLxd, rfl, rfl, rfl⟩

end LxdApi

import LxdApi.HandlerRuns

set_option autoImplicit false

/- Changes that LXD makes at once. It answers them with a sync envelope and starts no
   operation, while the handlers build the reference of one from whatever metadata
   came with it. -/
namespace LxdApi
open Interaction Program OrderedMap Json

/-- The handlers that end in `to_async_ref`. -/
def Call.endsInRef : Call → Bool
  | .createInstance .. | .replaceInstance .. | .patchInstance .. | .deleteInstance ..
  | .setInstanceState .. | .execInstance .. | .createSnapshot .. | .renameSnapshot ..
  | .deleteSnapshot .. | .restoreSnapshot .. | .createBackup .. | .deleteBackup ..
  | .createPool .. | .updatePool .. | .patchPool .. | .deletePool .. | .createVolume ..
  | .updateVolume .. | .patchVolume .. | .deleteVolume .. | .attachVolume ..
  | .detachVolume .. | .createNetwork .. | .updateNetwork .. | .patchNetwork ..
  | .deleteNetwork .. | .attachNic .. | .detachNic .. | .createProject ..
  | .updateProject .. | .patchProject .. | .deleteProject .. | .deleteImage ..
  | .createImage .. | .deleteAlias .. => true
  | _ => false

def Call.waits : Call → Bool
  | .setInstanceState _ _ _ wait | .createSnapshot _ _ _ wait | .restoreSnapshot _ _ _ wait
  | .createBackup _ _ _ wait => wait
  | _ => false

def change? : Event Effect Effect.Reply → Option HttpReply
  | ⟨.lxd req, .reply r⟩ => if req.method = .GET then none else some r
  | _ => none

def Changed (r : HttpReply) (trace : List (Event Effect Effect.Reply)) : Prop :=
  ∃ event ∈ trace, change? event = some r

def Answers (operations : String → Prop) (outcome : Except Raised Answer) : Prop :=
  ∃ answer, outcome = .ok answer ∧ ∀ ref, answer = .ref ref → operations ref.operationId

def AppliedAnswers (operations : String → Prop) (r : HttpReply) (p : Handler Answer) : Prop :=
  ∀ trace outcome, p.Runs trace outcome → Changed r trace → Answers operations outcome

theorem changed_singleton {r : HttpReply} {req : LXDRequest} {wire : Wire}
    (changed : Changed r [⟨.lxd req, wire⟩]) : wire = .reply r := by
  obtain ⟨event, member, same⟩ := changed
  rw [List.mem_singleton] at member
  subst event
  cases wire with
  | reply other =>
    simp only [change?] at same
    split at same
    · cases same
    · rw [Option.some.inj same]
  | httpError exc => cases same
  | invalidUrl => cases same

theorem changed_after_get {r : HttpReply} {req : LXDRequest} {wire : Wire}
    {tail : List (Event Effect Effect.Reply)} (lookup : req.method = .GET)
    (changed : Changed r (⟨.lxd req, wire⟩ :: tail)) : Changed r tail := by
  obtain ⟨event, member, same⟩ := changed
  rcases List.mem_cons.mp member with first | later
  · subst event
    cases wire with
    | reply other => simp [change?, lookup] at same
    | httpError exc => cases same
    | invalidUrl => cases same
  · exact ⟨event, later, same⟩

section Applied
variable [Platform]

structure Applied (r : HttpReply) (metadata : Json) : Prop where
  successful : r.statusCode < 400
  envelope : ∃ envelope, r.envelope = some envelope ∧ envelope.isSync = true ∧
    envelope.metadata = metadata

def NamesExisting (operations : String → Prop) (metadata : Json) : Prop :=
  ∃ id, Identifies id metadata ∧ operations id

variable {operations : String → Prop}

theorem received_applied {r : HttpReply} {metadata : Json} (applied : Applied r metadata)
    (lxd : LXDClient) : lxd.received (.reply r) = .ok metadata := by
  obtain ⟨envelope, parsed, isSync, same⟩ := applied.envelope
  have isType : envelope.type = .sync := by simpa [LXDResponse.isSync] using isSync
  have fine : envelope.isError = false := by simp [LXDResponse.isError, isType]
  have same' : payload envelope = metadata := by simp [payload, LXDResponse.isAsync, isType, same]
  simp only [LXDClient.received, normalize_of_accepted parsed fine, same', Except.mapError]

section Handlers
variable (lxd : LXDClient) {r : HttpReply} {metadata : Json}

theorem finished_ref (applied : Applied r metadata) :
    finished lxd .ref (.reply r) = (toAsyncRef metadata).map .ref := by
  simp only [finished, received_applied applied]
  rfl

theorem answers_ref_iff :
    Answers operations ((toAsyncRef metadata).map .ref) ↔ NamesExisting operations metadata := by
  constructor
  · intro h
    obtain ⟨answer, same, existing⟩ := h
    cases built : toAsyncRef metadata with
    | error exc =>
      rw [built] at same
      cases same
    | ok ref =>
      rw [built] at same
      cases same
      exact ⟨_, (identifies_iff _ _).mpr ⟨ref, built, rfl⟩, existing ref rfl⟩
  · intro h
    obtain ⟨id, identifies, existing⟩ := h
    obtain ⟨ref, built, same⟩ := (identifies_iff _ _).mp identifies
    rw [built]
    refine ⟨.ref ref, rfl, ?_⟩
    intro other isRef
    cases isRef
    rw [same]
    exact existing

theorem single_applied_iff (applied : Applied r metadata)
    {method : Method} (changes : method ≠ .GET) (path : LXDPath) (body : RequestBody)
    (params : Option Params) :
    AppliedAnswers operations r (single lxd method path body params .ref) ↔
      NamesExisting operations metadata := by
  rw [← answers_ref_iff, ← finished_ref lxd applied]
  constructor
  · intro answers
    refine answers _ _ ((single_runs_iff _ _ _ _ _ _ _ _).mpr ⟨.reply r, rfl, rfl⟩) ?_
    exact ⟨_, List.mem_singleton_self _, by simp [change?, LXDClient.sent, changes]⟩
  · intro answers trace outcome run changed
    obtain ⟨wire, shape, same⟩ := (single_runs_iff _ _ _ _ _ _ _ _).mp run
    rw [shape] at changed
    rw [same, changed_singleton changed]
    exact answers

def bareInstance : Wire :=
  .reply ⟨200, .json "" (.obj [("type", .str "sync"), ("metadata", .obj [])])⟩

theorem patchDevices_applied_iff (applied : Applied r metadata)
    (instance' : String) (project : Option String) (edit : DeviceEdit) :
    AppliedAnswers operations r (patchDevices lxd instance' project edit) ↔
      NamesExisting operations metadata := by
  have patches : ∀ devices, AppliedAnswers operations r
      (single lxd .PATCH (instancePath instance')
        (.fixed (.obj [("devices", .obj (edit.apply devices))])) (projectParams project) .ref) ↔
      NamesExisting operations metadata := by
    intro devices
    exact single_applied_iff lxd applied (by decide) _ _ _
  rw [patchDevices_eq]
  constructor
  · intro answers
    rw [← patches []]
    intro trace outcome run changed
    refine answers _ outcome ((runs_call_iff _ _ _ _).mpr ⟨bareInstance, trace, rfl, ?_⟩) ?_
    · have read : ((lxd.received bareInstance).mapError toHttp).bind devicesOf = .ok [] := rfl
      simp only [read, ← single_eq]
      exact run
    · obtain ⟨event, member, same⟩ := changed
      exact ⟨event, List.mem_cons_of_mem _ member, same⟩
  · intro named trace outcome run changed
    obtain ⟨wire, tail, shape, run⟩ := (runs_call_iff _ _ _ _).mp run
    rw [shape] at changed
    have later := changed_after_get rfl changed
    split at run
    · rw [((runs_raise_iff _ _ _).mp run).1] at later
      obtain ⟨_, member, _⟩ := later
      cases member
    · rename_i devices _
      rw [← single_eq] at run
      exact (patches devices).mpr named tail outcome run later

theorem waiting_applied_iff (unnamed : ¬ operations "") (applied : Applied r metadata)
    {method : Method} (changes : method ≠ .GET) (path : LXDPath) (body : RequestBody)
    (project : Option String) (wait : Bool) (caught : Raised → Raised) :
    AppliedAnswers operations r (mutatingOrWaiting lxd method path body project wait caught) ↔
      wait = false ∧ NamesExisting operations metadata := by
  cases wait with
  | false =>
    rw [mutatingOrWaiting_of_not_wait, mutating, single_applied_iff lxd applied changes]
    simp
  | true =>
    simp only [Bool.true_eq_false, false_and, iff_false]
    intro answers
    rw [mutatingOrWaiting_eq] at answers
    have changed : ∀ tail, Changed r
        (⟨.lxd (lxd.sent method path body (projectParams project)), .reply r⟩ :: tail) := by
      intro tail
      exact ⟨_, List.mem_cons_self, by simp [change?, LXDClient.sent, changes]⟩
    have read : ((lxd.received (.reply r)).mapError toHttp).bind toAsyncRef =
        toAsyncRef metadata := by
      rw [received_applied applied]
      rfl
    cases built : toAsyncRef metadata with
    | error exc =>
      have run := answers _ (.error exc) ((runs_call_iff _ _ _ _).mpr ⟨.reply r, [], rfl, by
        simp only [read, built]
        exact .raise exc⟩) (changed [])
      obtain ⟨answer, same, _⟩ := run
      cases same
    | ok ref =>
      by_cases empty : ref.operationId = ""
      · have run := answers _ (.ok (.ref ref)) ((runs_call_iff _ _ _ _).mpr ⟨.reply r, [], rfl, by
          simp only [read, built]
          rw [if_neg (by simp [empty])]
          exact .done (Answer.ref ref)⟩) (changed [])
        obtain ⟨answer, same, existing⟩ := run
        cases same
        have nameless := existing ref rfl
        rw [empty] at nameless
        exact unnamed nameless
      · have run := answers _ (.error (caught (.unhandled "InvalidURL")))
          ((runs_call_iff _ _ _ _).mpr ⟨.reply r, _, rfl, by
            simp only [read, built]
            rw [if_pos ⟨trivial, empty⟩]
            exact (runs_one_request _ _ _ _).mpr ⟨.invalidUrl, rfl, rfl⟩⟩) (changed _)
        obtain ⟨answer, same, _⟩ := run
        cases same

end Handlers

/- A change that LXD made at once is answered rightly, whatever the rest of the run
   brings, exactly when the call does not wait and the metadata of the reply happens
   to name an operation that exists. -/
theorem applied_change_answered_iff (lxd : LXDClient) (call : Call) (ends : call.endsInRef = true)
    (unnamed : ¬ operations "") {r : HttpReply} {metadata : Json} (applied : Applied r metadata) :
    AppliedAnswers operations r (call.program lxd) ↔
      call.waits = false ∧ NamesExisting operations metadata := by
  cases call <;> try (cases ends)
  case setInstanceState => exact waiting_applied_iff lxd unnamed applied (by decide) _ _ _ _ _
  case createSnapshot => exact waiting_applied_iff lxd unnamed applied (by decide) _ _ _ _ _
  case restoreSnapshot => exact waiting_applied_iff lxd unnamed applied (by decide) _ _ _ _ _
  case createBackup => exact waiting_applied_iff lxd unnamed applied (by decide) _ _ _ _ _
  all_goals
    refine Iff.trans ?_ (and_iff_right rfl).symm
    first
      | exact patchDevices_applied_iff lxd applied _ _ _
      | exact single_applied_iff lxd applied (by decide) _ _ _

end Applied

def deletedReply (metadata : Json) : HttpReply :=
  ⟨200, .json "" (.obj [("type", .str "sync"), ("metadata", metadata)])⟩

theorem deletedReply_applied (metadata : Json) :
    @Applied plainPlatform (deletedReply metadata) metadata :=
  @Applied.mk plainPlatform _ _ (by simp [deletedReply]) ⟨_, rfl, rfl, rfl⟩

theorem named_operation_answered :
    @AppliedAnswers (· = "op") (deletedReply (.str "op"))
      (@Call.program plainPlatform ⟨{}⟩ (.deleteProject "p")) :=
  (@applied_change_answered_iff plainPlatform (· = "op") ⟨{}⟩ (.deleteProject "p") rfl
    (by decide) _ _ (deletedReply_applied (.str "op"))).mpr ⟨rfl, "op", rfl, rfl⟩

/-- LXD deleted the project and says so with an empty object or with nothing; the
    references name the operations `""` and `None`, and no run is answered rightly. -/
theorem deleted_project_misreported :
    @run _ _ _ _ (answering fun _ => deletedReply (.obj []))
        (@Call.program plainPlatform ⟨{}⟩ (.deleteProject "p")) =
      .ok (.ref ⟨"", "/1.0/operations/", "async", "/api/v1/operations/",
        "/api/v1/operations//wait"⟩) ∧
    @run _ _ _ _ (answering fun _ => deletedReply .null)
        (@Call.program plainPlatform ⟨{}⟩ (.deleteProject "p")) =
      .ok (.ref ⟨"None", "/1.0/operations/None", "async", "/api/v1/operations/None",
        "/api/v1/operations/None/wait"⟩) ∧
    ∀ metadata ∈ [Json.obj [], Json.null],
      ¬ @AppliedAnswers (fun id => id ≠ "" ∧ id ≠ "None") (deletedReply metadata)
        (@Call.program plainPlatform ⟨{}⟩ (.deleteProject "p")) := by
  refine ⟨rfl, rfl, ?_⟩
  intro metadata member answers
  obtain ⟨id, identifies, named, other⟩ := (@single_applied_iff plainPlatform _ ⟨{}⟩ _ _
    (deletedReply_applied metadata) .DELETE (by decide) _ _ _).mp answers
  rcases List.mem_pair.mp member with empty | nothing
  · subst metadata
    have same := identifies.1
    cases same
    exact named rfl
  · subst metadata
    exact other identifies.symm

end LxdApi

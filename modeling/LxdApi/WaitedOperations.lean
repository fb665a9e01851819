import LxdApi.OperationReferences
import LxdApi.StartedOperations

set_option autoImplicit false

/- What a call with `wait=true` reports of the operation it waited for. The long poll
   knows two failing words; whatever else it is told counts as success. -/
namespace LxdApi
open Interaction Program OrderedMap Json

def replying (changed waited : HttpReply) : (e : Effect) → e.Reply :=
  answering fun req => if req.method = .GET then waited else changed

section Waiting
variable [Platform]

def Started (r : HttpReply) (id : String) : Prop :=
  ∃ envelope, r.envelope = some envelope ∧ Starts id envelope

def FinishedWell (r : HttpReply) (id : String) : Prop :=
  ∃ envelope fields, r.envelope = some envelope ∧ envelope.isError = false ∧
    envelope.metadata = .obj fields ∧ get? fields "id" = some (.str id) ∧
    get? fields "status" = some (.str "Success")

structure ReportsWait (changed waited : HttpReply) (outcome : Except Raised Answer) : Prop where
  success : (∃ id, outcome = .ok (.success id)) ↔
    ∃ id, Started changed id ∧ FinishedWell waited id
  failure : (∃ id, Started changed id) → (¬ ∃ id, Started changed id ∧ FinishedWell waited id) →
    ∃ exc, outcome = .error exc
  awaited : ∀ ref, outcome ≠ .ok (.ref ref)

def BadEnd (value : Json) : Prop :=
  ∃ fields, value = .obj fields ∧
    (get fields "status" = .str "Failure" ∨ get fields "status" = .str "Cancelled")

/- The replies on which the report is right: a change that is accepted and presents
   itself as an operation gives a non-empty id, and the wait for that id brings no
   accepted reply or a bad end, or the change has started that operation and the wait
   reply is its happy end. -/
def WaitedWell (changed waited : HttpReply) : Prop :=
  ∀ value id, Hands changed value → Identifies id value → id ≠ "" ∧
    ((∀ result, Hands waited result → BadEnd result) ∨
      Started changed id ∧ FinishedWell waited id)

theorem waited_of_badEnd (operationId : String) {value : Json} (bad : BadEnd value) :
    ∃ exc, LxdApi.waited operationId value = .error exc := by
  obtain ⟨fields, shape, status⟩ := bad
  rw [shape]
  rcases status with failure | cancelled
  · exact ⟨_, by simp only [LxdApi.waited, failure, failedStatus]; rfl⟩
  · exact ⟨_, by simp only [LxdApi.waited, cancelled, failedStatus]; rfl⟩

theorem waited_of_not_badEnd (operationId : String) {value : Json} (fine : ¬ BadEnd value) :
    ∃ result, LxdApi.waited operationId value = .ok result := by
  cases value
  case obj fields =>
    have unknown : failedStatus (get fields "status") = none := by
      unfold failedStatus
      split
      · rename_i failure
        exact absurd ⟨fields, rfl, Or.inl failure⟩ fine
      · rename_i cancelled
        exact absurd ⟨fields, rfl, Or.inr cancelled⟩ fine
      · rfl
    exact ⟨.obj fields, by simp only [LxdApi.waited, unknown]⟩
  all_goals exact ⟨.obj [], rfl⟩

theorem handed_of_finishedWell {r : HttpReply} {id : String} (finished : FinishedWell r id) :
    ∃ result, Hands r result ∧ ¬ BadEnd result := by
  obtain ⟨envelope, fields, parsed, fine, metadata, _, status⟩ := finished
  refine ⟨.obj fields, Or.inr ⟨envelope, parsed, fine, (payload_of_object metadata).symm⟩, ?_⟩
  intro bad
  obtain ⟨other, shape, words⟩ := bad
  cases shape
  rw [get_of_some status] at words
  simp at words

theorem presents_of_started {r : HttpReply} {id : String} (started : Started r id) :
    ∃ value, Hands r value ∧ (Identifies id value ∨ Identifies "" value) := by
  obtain ⟨envelope, parsed, starts⟩ := started
  have fine : envelope.isError = false := by simp [LXDResponse.isError, starts.isAsync]
  refine ⟨payload envelope, Or.inr ⟨envelope, parsed, fine, rfl⟩, ?_⟩
  rcases starts.metadata with absent | ⟨object, shape, isObject⟩
  · obtain ⟨url, operation, _⟩ := starts.operation
    right
    simp [payload, LXDResponse.isAsync, starts.isAsync, absent, operation, Identifies, Json.get]
  · left
    rw [payload_of_object shape]
    constructor
    · rw [isObject.named, Option.getD_some]
    · intro given
      cases found : get? object "operation" with
      | none => simp [Json.get, found] at given
      | some value =>
        obtain ⟨url, text, _⟩ := isObject.operation value found
        exact ⟨url, by rw [get_of_some found, text]⟩

theorem id_of_started {r : HttpReply} {id other : String} {value : Json}
    (started : Started r id) (hands : Hands r value) (identifies : Identifies other value)
    (some : other ≠ "") : other = id := by
  obtain ⟨handed, hands', presents⟩ := presents_of_started started
  rw [hands_unique hands' hands] at presents
  rcases presents with own | empty
  · exact identifies_unique identifies own
  · exact absurd (identifies_unique identifies empty) some

theorem reportsWait_error {changed waited : HttpReply}
    (unfinished : ¬ ∃ id, Started changed id ∧ FinishedWell waited id) (exc : Raised) :
    ReportsWait changed waited (.error exc) where
  success := by
    constructor
    · intro h
      obtain ⟨id, same⟩ := h
      cases same
    · intro finished
      exact absurd finished unfinished
  failure _ _ := ⟨exc, rfl⟩
  awaited ref same := by cases same

theorem reportsWait_success_iff (changed waited : HttpReply) (id : String) :
    ReportsWait changed waited (.ok (.success id)) ↔
      ∃ id, Started changed id ∧ FinishedWell waited id := by
  constructor
  · intro reports
    exact reports.success.mp ⟨id, rfl⟩
  · intro finished
    exact ⟨⟨fun _ => finished, fun _ => ⟨id, rfl⟩⟩, fun _ unfinished => absurd finished unfinished,
      fun ref same => by cases same⟩

section Handlers
variable (lxd : LXDClient) (changed waited : HttpReply)

theorem run_waiting {method : Method} (changes : method ≠ .GET)
    (path : LXDPath) (body : RequestBody) (project : Option String) (caught : Raised → Raised) :
    (mutatingOrWaiting lxd method path body project true caught).run (replying changed waited) =
      match normalize changed with
      | .error exc => .error (toHttp (.lxd exc))
      | .ok value =>
        match toAsyncRef value with
        | .error exc => .error exc
        | .ok ref =>
          if ref.operationId ≠ "" then
            ((lxd.awaited ref.operationId (.reply waited)).map fun _ =>
              .success ref.operationId).mapError caught
          else .ok (.ref ref) := by
  rw [replying, answering_eq_wired, mutatingOrWaiting_run]
  simp only [LXDClient.sent, LXDClient.waitRequest, changes, if_false, if_true, LXDClient.received]
  cases normalize changed with
  | error exc => rfl
  | ok value =>
    cases built : toAsyncRef value with
    | error exc => simp only [Except.mapError, Except.bind, built]
    | ok ref => simp only [Except.mapError, Except.bind, built]

theorem awaited_error (operationId : String)
    (bad : ∀ result, Hands waited result → BadEnd result) :
    ∃ exc, lxd.awaited operationId (.reply waited) = .error exc := by
  cases normal : normalize waited with
  | error exc =>
    exact ⟨.lxd exc, by
      simp only [LXDClient.awaited, LXDClient.received, normal, Except.mapError, Except.bind]⟩
  | ok result =>
    obtain ⟨exc, failed⟩ :=
      waited_of_badEnd operationId (bad result ((hands_iff _ _).mpr normal))
    exact ⟨.lxd exc, by
      simp only [LXDClient.awaited, LXDClient.received, normal, Except.mapError, Except.bind,
        failed]⟩

theorem awaited_ok (operationId : String) {result : Json} (hands : Hands waited result)
    (fine : ¬ BadEnd result) : ∃ value, lxd.awaited operationId (.reply waited) = .ok value := by
  obtain ⟨value, returned⟩ := waited_of_not_badEnd operationId fine
  have normal := (hands_iff _ _).mp hands
  exact ⟨value, by
    simp only [LXDClient.awaited, LXDClient.received, normal, Except.mapError, Except.bind, returned]⟩

theorem reports_of_nameless (nameless : ∀ value id, Hands changed value → ¬ Identifies id value)
    (exc : Raised) :
    ReportsWait changed waited (.error exc) ↔ WaitedWell changed waited := by
  refine iff_of_true (reportsWait_error ?_ exc) ?_
  · intro finished
    obtain ⟨id, started, _⟩ := finished
    obtain ⟨value, hands, own | empty⟩ := presents_of_started started
    · exact nameless value id hands own
    · exact nameless value "" hands empty
  · intro value id hands identifies
    exact absurd identifies (nameless value id hands)

theorem waitedWell_iff {changed waited : HttpReply} {value : Json} {id : String}
    (hands : Hands changed value) (identifies : Identifies id value) :
    WaitedWell changed waited ↔ id ≠ "" ∧
      ((∀ result, Hands waited result → BadEnd result) ∨
        Started changed id ∧ FinishedWell waited id) := by
  constructor
  · intro well
    exact well value id hands identifies
  · intro one other name hands' identifies'
    rw [hands_unique hands' hands] at identifies'
    rw [identifies_unique identifies' identifies]
    exact one

theorem awaited_reports_iff {value : Json} {id : String} (hands : Hands changed value)
    (identifies : Identifies id value) (some : id ≠ "") (caught : Raised → Raised) :
    ReportsWait changed waited
        (((lxd.awaited id (.reply waited)).map fun _ => .success id).mapError caught) ↔
      WaitedWell changed waited := by
  rw [waitedWell_iff hands identifies, and_iff_right some]
  by_cases bad : ∀ result, Hands waited result → BadEnd result
  · obtain ⟨exc, failed⟩ := awaited_error lxd waited id bad
    rw [failed]
    refine iff_of_true (reportsWait_error ?_ _) (Or.inl bad)
    intro finished
    obtain ⟨_, _, finishedWell⟩ := finished
    obtain ⟨result, hands', fine⟩ := handed_of_finishedWell finishedWell
    exact fine (bad result hands')
  · have good : ∃ result, Hands waited result ∧ ¬ BadEnd result := by
      simpa only [not_forall, exists_prop] using bad
    obtain ⟨result, hands', fine⟩ := good
    obtain ⟨returned, same⟩ := awaited_ok lxd waited id hands' fine
    rw [same, or_iff_right bad]
    refine (reportsWait_success_iff changed waited id).trans ?_
    constructor
    · intro finished
      obtain ⟨started, begun, finishedWell⟩ := finished
      rw [id_of_started begun hands identifies some]
      exact ⟨begun, finishedWell⟩
    · intro finished
      exact ⟨id, finished⟩

theorem waiting_reports_iff {method : Method} (changes : method ≠ .GET) (path : LXDPath)
    (body : RequestBody) (project : Option String) (caught : Raised → Raised) :
    ReportsWait changed waited
        ((mutatingOrWaiting lxd method path body project true caught).run
          (replying changed waited)) ↔ WaitedWell changed waited := by
  rw [run_waiting lxd changed waited changes]
  cases normal : normalize changed with
  | error exc =>
    apply reports_of_nameless
    intro value id hands
    rw [(hands_iff _ _).mp hands] at normal
    cases normal
  | ok value =>
    have hands := (hands_iff _ _).mpr normal
    dsimp only
    cases built : toAsyncRef value with
    | error exc =>
      apply reports_of_nameless
      intro other id hands' identifies
      rw [hands_unique hands' hands] at identifies
      obtain ⟨ref, same, _⟩ := (identifies_iff _ _).mp identifies
      rw [built] at same
      cases same
    | ok ref =>
      have identifies := (identifies_iff _ _).mpr ⟨ref, built, rfl⟩
      dsimp only
      by_cases empty : ref.operationId = ""
      · rw [if_neg (not_not_intro empty), waitedWell_iff hands identifies]
        refine iff_of_false ?_ fun well => well.1 empty
        intro reports
        exact reports.awaited ref rfl
      · rw [if_pos empty]
        exact awaited_reports_iff lxd changed waited hands identifies empty caught

end Handlers

/- The four calls report what became of their operation on exactly these pairs of
   replies. -/
theorem wait_reported_iff (lxd : LXDClient) (call : Call) (waits : call.waits = true)
    (changed waited : HttpReply) :
    ReportsWait changed waited ((call.program lxd).run (replying changed waited)) ↔
      WaitedWell changed waited := by
  cases call <;> try (cases waits)
  all_goals exact waiting_reports_iff lxd changed waited (by decide) _ _ _ _

end Waiting

def stateReply (metadata : Json) : HttpReply :=
  ⟨202, .json "" (.obj [("type", .str "async"), ("operation", .str "/1.0/operations/op"),
    ("metadata", metadata)])⟩

def operationObject : Json := .obj [("id", .str "op"), ("status", .str "Running")]

def waitReply (status : String) : HttpReply :=
  ⟨200, .json "" (.obj [("type", .str "sync"),
    ("metadata", .obj [("id", .str "op"), ("status", .str status)])])⟩

def stopInstance : Call := .setInstanceState "web1" [("action", .str "stop")] none true

theorem stateReply_started : @Started plainPlatform (stateReply operationObject) "op" := by
  refine ⟨_, rfl, rfl, ⟨_, rfl, 0, by decide⟩, Or.inr ⟨_, rfl, rfl, ?_⟩⟩
  intro value found
  simp at found

theorem waitReply_finished : @FinishedWell plainPlatform (waitReply "Success") "op" :=
  ⟨_, _, rfl, rfl, rfl, rfl, rfl⟩

theorem stopped_instance_reported :
    @ReportsWait plainPlatform (stateReply operationObject) (waitReply "Success")
      ((@Call.program plainPlatform ⟨{}⟩ stopInstance).run
        (replying (stateReply operationObject) (waitReply "Success"))) := by
  refine (@wait_reported_iff plainPlatform ⟨{}⟩ stopInstance rfl _ _).mpr ?_
  have hands : @Hands plainPlatform (stateReply operationObject) operationObject :=
    Or.inr ⟨_, rfl, rfl, rfl⟩
  refine (@waitedWell_iff plainPlatform _ _ _ "op" hands ⟨rfl, ?_⟩).mpr
    ⟨by decide, Or.inr ⟨stateReply_started, waitReply_finished⟩⟩
  intro given
  cases given

/-- An operation that is still running is reported as a success, and one that LXD
    started without describing it is not waited for. -/
theorem running_operation_misreported :
    (@Call.program plainPlatform ⟨{}⟩ stopInstance).run
        (replying (stateReply operationObject) (waitReply "Running")) = .ok (.success "op") ∧
    ¬ @ReportsWait plainPlatform (stateReply operationObject) (waitReply "Running")
      ((@Call.program plainPlatform ⟨{}⟩ stopInstance).run
        (replying (stateReply operationObject) (waitReply "Running"))) ∧
    (∃ ref, (@Call.program plainPlatform ⟨{}⟩ stopInstance).run
        (replying (stateReply .null) (waitReply "Success")) = .ok (.ref ref)) := by
  refine ⟨rfl, ?_, ⟨_, rfl⟩⟩
  intro reports
  obtain ⟨id, _, envelope, fields, parsed, _, metadata, _, status⟩ :=
    (@ReportsWait.success plainPlatform _ _ _ reports).mp ⟨"op", rfl⟩
  cases parsed
  cases metadata
  simp at status

end LxdApi

import LxdApi.HandlerRuns

set_option autoImplicit false

/- What becomes of a call that LXD has failed: the exception of `request`, and the
   answer of the handler that made the call. -/
namespace LxdApi
open Interaction Program OrderedMap Json

def reply? : Event Effect Effect.Reply → Option HttpReply
  | ⟨.lxd _, .reply r⟩ => some r
  | _ => none

def Received (r : HttpReply) (trace : List (Event Effect Effect.Reply)) : Prop :=
  ∃ event ∈ trace, reply? event = some r

theorem not_received {A : Type} {p : Handler A} (silent : p.Uses (Asks fun _ => False))
    {trace : List (Event Effect Effect.Reply)} {outcome : Except Raised A}
    (run : p.Runs trace outcome) (r : HttpReply) : ¬ Received r trace := by
  intro received
  obtain ⟨event, member, hasReply⟩ := received
  have allowed := uses_runs silent run event member
  unfold reply? at hasReply
  split at hasReply
  · exact allowed
  · cases hasReply

theorem one_request_of_received {A : Type} {req : LXDRequest} {outcomeOf : Wire → Except Raised A}
    {trace : List (Event Effect Effect.Reply)} {outcome : Except Raised A} {r : HttpReply}
    (run : (Program.call (.lxd req) fun wire => ofExcept (outcomeOf wire)).Runs trace outcome)
    (received : Received r trace) : outcome = outcomeOf (.reply r) := by
  obtain ⟨wire, shape, same⟩ := (runs_one_request _ _ _ _).mp run
  rw [shape] at received
  obtain ⟨event, member, hasReply⟩ := received
  rw [List.mem_singleton] at member
  subst event
  cases wire with
  | reply other =>
    rw [Option.some.inj hasReply] at same
    exact same
  | httpError exc => cases hasReply
  | invalidUrl => cases hasReply

theorem one_request_receives {A : Type} (req : LXDRequest) (outcomeOf : Wire → Except Raised A)
    (r : HttpReply) :
    ∃ trace, (Program.call (.lxd req) fun wire => ofExcept (outcomeOf wire)).Runs trace
      (outcomeOf (.reply r)) ∧ Received r trace :=
  ⟨_, (runs_one_request _ _ _ _).mpr ⟨.reply r, rfl, rfl⟩, _, List.mem_singleton_self _, rfl⟩

/-- An answer that says of itself that LXD failed, and the end of a WebSocket, which
    is no HTTP answer. -/
def reportsFailure : Except Raised Answer → Prop
  | .ok (.health status _ _) => status ≠ "healthy"
  | .ok .closed => True
  | _ => False

def Call.status (call : Call) : Except Raised Answer → Int
  | .ok _ => call.successStatus
  | .error exc => exc.statusCode

def Succeeds (call : Call) (outcome : Except Raised Answer) : Prop :=
  (200 ≤ call.status outcome ∧ call.status outcome < 300) ∧ ¬ reportsFailure outcome

/-- The handlers that look at the raw reply instead of what `request` makes of it. -/
def Call.raw : Call → Bool
  | .getInstanceLog .. | .exportBackup .. => true
  | _ => false

theorem accepted_iff_not_error (envelope : LXDResponse) :
    envelope.isSync = true ∨ envelope.isAsync = true ↔ envelope.isError = false := by
  simp only [LXDResponse.isSync, LXDResponse.isAsync, LXDResponse.isError]
  cases envelope.type <;> decide

def Fails : Except Raised Answer → Prop
  | .ok answer => reportsFailure (.ok answer)
  | .error exc => ¬ (200 ≤ exc.statusCode ∧ exc.statusCode < 300)

theorem not_succeeds_of_fails {call : Call} {outcome : Except Raised Answer}
    (fails : Fails outcome) : ¬ Succeeds call outcome := by
  intro succeeds
  cases outcome with
  | ok answer => exact succeeds.2 fails
  | error exc => exact fails succeeds.1

def Failing (p : Handler Answer) : Prop := ∀ trace outcome, p.Runs trace outcome → Fails outcome

def Refuses (r : HttpReply) (p : Handler Answer) : Prop :=
  ∀ trace outcome, p.Runs trace outcome → Received r trace → Fails outcome

theorem failing_ofExcept (outcome : Except Raised Answer) (fails : Fails outcome) :
    Failing (ofExcept outcome) := by
  intro trace result run
  rw [((runs_ofExcept_iff _ _ _).mp run).2]
  exact fails

theorem refuses_ofExcept (r : HttpReply) (outcome : Except Raised Answer) :
    Refuses r (ofExcept outcome) := by
  intro trace result run received
  rw [((runs_ofExcept_iff _ _ _).mp run).1] at received
  obtain ⟨event, member, _⟩ := received
  cases member

theorem refuses_lxd {r : HttpReply} {req : LXDRequest} {rest : Wire → Handler Answer}
    (here : Failing (rest (.reply r))) (later : ∀ wire, Refuses r (rest wire)) :
    Refuses r (.call (.lxd req) rest) := by
  intro trace outcome run received
  obtain ⟨wire, tail, shape, run⟩ := (runs_call_iff _ _ _ _).mp run
  rw [shape] at received
  obtain ⟨event, member, same⟩ := received
  rcases List.mem_cons.mp member with first | rest'
  · subst event
    cases wire with
    | reply other =>
      rw [Option.some.inj same] at run
      exact here tail outcome run
    | httpError exc => cases same
    | invalidUrl => cases same
  · exact later wire tail outcome run ⟨event, rest', same⟩

theorem operationErrorOnly_fails (exc : LXDError) :
    Fails (.error (operationErrorOnly (.lxd exc))) := by
  unfold operationErrorOnly
  dsimp only
  split <;> simp [Fails, Raised.statusCode]

theorem everyException_fails (exc : Raised) : Fails (.error (everyException exc)) := by
  simp [everyException, Fails, Raised.statusCode]

theorem sendAndClose_failing (text : String) : Failing (sendAndClose text) := by
  intro trace outcome run
  simp only [sendAndClose, runs_call_iff, runs_done_iff] at run
  obtain ⟨_, _, _, _, _, _, _, closed⟩ := run
  rw [closed]
  trivial

theorem refuses_of_failing {r : HttpReply} {p : Handler Answer} (failing : Failing p) :
    Refuses r p := fun trace outcome run _ => failing trace outcome run

theorem relay_failing (url : WsUrl) (report : String → String) : Failing (relay url report) := by
  intro trace outcome run
  obtain ⟨connected, tail, _, run⟩ := (runs_call_iff _ _ _ _).mp run
  cases connected with
  | ok _ =>
    rw [((runs_done_iff _ _ _).mp run).2]
    trivial
  | error exc => exact sendAndClose_failing _ tail outcome run

section Failures
variable [Platform]

/-- By its status or by its envelope, the reply says that the call has failed. -/
def LxdFailed (r : HttpReply) : Prop :=
  400 ≤ r.statusCode ∨ ∃ envelope, r.envelope = some envelope ∧ envelope.isError = true

/- Failures surface: `request` raises on a failed reply and returns on no other than
   an accepted one, and no handler that uses it answers a failed call with success. -/
structure FailureSurfaces (r : HttpReply) : Prop where
  raises : LxdFailed r → ∀ (lxd : LXDClient) method path body params trace outcome,
    (lxd.request method path body params).Runs trace outcome → Received r trace →
    ∃ exc, outcome = .error (.lxd exc)
  returns : ∀ (lxd : LXDClient) method path body params trace value,
    (lxd.request method path body params).Runs trace (.ok value) → Received r trace →
    r.statusCode < 400 ∧ (r.body = .empty ∨
      ∃ envelope, r.envelope = some envelope ∧ (envelope.isSync = true ∨ envelope.isAsync = true))
  handlers : LxdFailed r → ∀ (lxd : LXDClient) (call : Call) trace outcome, call.raw = false →
    (call.program lxd).Runs trace outcome → Received r trace → ¬ Succeeds call outcome

/- The replies for which they do: no failed status with an empty body or an accepted
   envelope, which `request` takes for success before it looks at the status, and no
   error envelope whose own code is one of success. -/
def Surfaced (r : HttpReply) : Prop :=
  ¬ (400 ≤ r.statusCode ∧ (r.body = .empty ∨
    ∃ envelope, r.envelope = some envelope ∧ envelope.isError = false)) ∧
  ¬ ∃ envelope, r.envelope = some envelope ∧ envelope.isError = true ∧
    200 ≤ effectiveCode envelope r.statusCode ∧ effectiveCode envelope r.statusCode < 300

theorem returns_of_accepted {r : HttpReply} (accepted : r.body = .empty ∨
    ∃ envelope, r.envelope = some envelope ∧ envelope.isError = false) :
    ∃ value, normalize r = .ok value := by
  rcases accepted with empty | ⟨envelope, parsed, fine⟩
  · exact ⟨.null, normalize_of_empty empty⟩
  · exact ⟨_, normalize_of_accepted parsed fine⟩

/-- A reply that surfaces and has failed raises an error that is not mapped to a status
    of success. -/
theorem error_of_surfaced {r : HttpReply} (surfaced : Surfaced r) (failed : LxdFailed r) :
    ∃ exc, normalize r = .error exc ∧
      ¬ (200 ≤ (lxdErrToHttp exc).statusCode ∧ (lxdErrToHttp exc).statusCode < 300) := by
  rcases normalize_cases r with ⟨empty, _⟩ | ⟨envelope, parsed, fine, _⟩ |
      ⟨envelope, parsed, isError, raised⟩ | ⟨some, unparsed, raised⟩
  · have status : 400 ≤ r.statusCode := by
      rcases failed with status | ⟨envelope, parsed, _⟩
      · exact status
      · simp [HttpReply.envelope, empty, Body.parsed] at parsed
    exact absurd ⟨status, Or.inl empty⟩ surfaced.1
  · have status : 400 ≤ r.statusCode := by
      rcases failed with status | ⟨other, same, isError⟩
      · exact status
      · rw [parsed] at same
        cases same
        rw [fine] at isError
        cases isError
    exact absurd ⟨status, Or.inr ⟨envelope, parsed, fine⟩⟩ surfaced.1
  · refine ⟨_, raised, ?_⟩
    rw [lxdErrToHttp_forStatus]
    intro success
    apply surfaced.2
    refine ⟨envelope, parsed, isError, ?_⟩
    split_ifs at success <;> omega
  · refine ⟨_, raised, ?_⟩
    have status : 400 ≤ r.statusCode := by
      rcases failed with status | ⟨envelope, parsed, _⟩
      · exact status
      · rw [unparsed] at parsed
        cases parsed
    simp only [lxdErrToHttp, nonJsonError, codeMap, Option.getD_none]
    split_ifs <;> omega

section Handlers
variable (lxd : LXDClient)

/-- The handlers on a reply that `request` refuses with an error of no success. -/
structure RefusedAs (r : HttpReply) (exc : LXDError) : Prop where
  raised : normalize r = .error exc
  status : ¬ (200 ≤ (lxdErrToHttp exc).statusCode ∧ (lxdErrToHttp exc).statusCode < 300)

variable {r : HttpReply} {exc : LXDError}

theorem received_refused (refused : RefusedAs r exc) :
    lxd.received (.reply r) = .error (.lxd exc) := by
  simp only [LXDClient.received, refused.raised, Except.mapError]

theorem single_refuses (refused : RefusedAs r exc) (method : Method) (path : LXDPath)
    (body : RequestBody) (params : Option Params) (finish : Finish) :
    Refuses r (single lxd method path body params finish) := by
  rw [single_eq]
  refine refuses_lxd (failing_ofExcept _ ?_) fun wire => refuses_ofExcept r _
  rw [finished, received_refused lxd refused]
  exact refused.status

theorem awaited_refused (refused : RefusedAs r exc) (operationId : String) :
    lxd.awaited operationId (.reply r) = .error (.lxd exc) := by
  rw [LXDClient.awaited, received_refused lxd refused]
  rfl

theorem mutatingOrWaiting_refuses (refused : RefusedAs r exc) (method : Method)
    (path : LXDPath) (body : RequestBody) (project : Option String) (wait : Bool)
    {caught : Raised → Raised} (fails : Fails (.error (caught (.lxd exc)))) :
    Refuses r (mutatingOrWaiting lxd method path body project wait caught) := by
  rw [mutatingOrWaiting_eq]
  refine refuses_lxd ?_ fun wire => ?_
  · rw [received_refused lxd refused]
    exact failing_ofExcept (.error (.http (lxdErrToHttp exc))) refused.status
  · split
    · exact refuses_ofExcept r (.error _)
    · split
      · refine refuses_lxd (failing_ofExcept _ ?_) fun wire => refuses_ofExcept r _
        rw [awaited_refused lxd refused]
        exact fails
      · exact refuses_ofExcept r (.ok _)

theorem waitOperation_refuses (refused : RefusedAs r exc) (operationId : String)
    (project : Option String) (timeout : WaitTimeout) :
    Refuses r (waitOperation lxd operationId project timeout) := by
  rw [waitOperation_eq]
  refine refuses_lxd (failing_ofExcept _ ?_) fun wire => refuses_ofExcept r _
  rw [awaited_refused lxd refused]
  simp only [Except.map, Except.mapError, operationErrorOnly]
  split
  · simp [toHttp, Fails, Raised.statusCode]
  · exact refused.status

theorem patchDevices_refuses (refused : RefusedAs r exc) (instance' : String)
    (project : Option String) (edit : DeviceEdit) :
    Refuses r (patchDevices lxd instance' project edit) := by
  rw [patchDevices_eq]
  refine refuses_lxd ?_ fun wire => ?_
  · rw [received_refused lxd refused]
    exact failing_ofExcept (.error (.http (lxdErrToHttp exc))) refused.status
  · split
    · exact refuses_ofExcept r (.error _)
    · rw [← single_eq]
      exact single_refuses lxd refused _ _ _ _ _

theorem healthDeep_refuses (refused : RefusedAs r exc) : Refuses r (healthDeep lxd) := by
  rw [healthDeep_eq]
  refine refuses_lxd ?_ fun wire => ?_
  · rw [received_refused lxd refused]
    dsimp only
    split
    · exact failing_ofExcept (.ok (.health _ _ _)) (by simp [Fails, reportsFailure])
    · exact failing_ofExcept (.ok (.health _ _ _)) (by simp [Fails, reportsFailure])
  · split
    · exact refuses_ofExcept r (.ok _)
    · split
      · exact refuses_ofExcept r (.ok _)
      · exact refuses_ofExcept r (.ok _)
    · exact refuses_ofExcept r (.error _)

theorem relaySession_refuses (refused : RefusedAs r exc) (path : LXDPath) (body : Json)
    (project : Option String) (failure : String) (secret : Dict → Json) :
    Refuses r (relaySession lxd path body project failure secret) := by
  rw [relaySession_eq]
  refine refuses_lxd ?_ fun wire => ?_
  · rw [received_refused lxd refused]
    exact sendAndClose_failing _
  · intro trace outcome run received
    exact absurd received (not_received (sessionAfter_asks failure secret _) run r)

theorem call_refuses (refused : RefusedAs r exc) (call : Call) (normal : call.raw = false) :
    Refuses r (call.program lxd) := by
  cases call
  case getInstanceLog => cases normal
  case exportBackup => cases normal
  case healthDeep => exact healthDeep_refuses lxd refused
  case operationsWs => exact refuses_of_failing (relay_failing _ _)
  case waitOperation => exact waitOperation_refuses lxd refused _ _ _
  case execWs =>
    simp only [Call.program, LxdApi.execWs]
    exact relaySession_refuses lxd refused _ _ _ _ _
  case consoleWs =>
    simp only [Call.program, LxdApi.consoleWs]
    exact relaySession_refuses lxd refused _ _ _ _ _
  case setInstanceState =>
    exact mutatingOrWaiting_refuses lxd refused _ _ _ _ _ (operationErrorOnly_fails exc)
  case createSnapshot =>
    exact mutatingOrWaiting_refuses lxd refused _ _ _ _ _ (everyException_fails _)
  case restoreSnapshot =>
    exact mutatingOrWaiting_refuses lxd refused _ _ _ _ _ (everyException_fails _)
  case createBackup =>
    exact mutatingOrWaiting_refuses lxd refused _ _ _ _ _ (everyException_fails _)
  all_goals first
    | exact single_refuses lxd refused _ _ _ _ _
    | exact patchDevices_refuses lxd refused _ _ _

end Handlers

theorem request_of_received {r : HttpReply} {lxd : LXDClient} {method : Method} {path : LXDPath}
    {body : RequestBody} {params : Option Params} {trace : List (Event Effect Effect.Reply)}
    {outcome : Except Raised Json}
    (run : (lxd.request method path body params).Runs trace outcome)
    (received : Received r trace) : outcome = (normalize r).mapError .lxd := by
  rw [request_eq] at run
  exact one_request_of_received run received

theorem request_can_receive (r : HttpReply) :
    ∃ trace, ((⟨{}⟩ : LXDClient).request .GET .root .none none).Runs trace
      ((normalize r).mapError .lxd) ∧ Received r trace :=
  ⟨_, (request_runs_iff _ _ _ _ _ _ _).mpr ⟨.reply r, rfl, rfl⟩, _, List.mem_singleton_self _, rfl⟩

theorem listing_can_receive {r : HttpReply} {exc : LXDError} (raised : normalize r = .error exc) :
    ∃ trace outcome, ((Call.listPools none {} true).program ⟨{}⟩).Runs trace outcome ∧
      Received r trace ∧ outcome = .error (.http (lxdErrToHttp exc)) := by
  refine ⟨_, _, (single_runs_iff _ _ _ _ _ _ _ _).mpr ⟨.reply r, rfl, rfl⟩,
    ⟨_, List.mem_singleton_self _, rfl⟩, ?_⟩
  simp only [finished, LXDClient.received, raised]
  rfl

/- The failures of LXD surface, in `request` and in every handler that uses it, for
   exactly the surfaced replies. -/
theorem failure_surfaces_iff (r : HttpReply) : FailureSurfaces r ↔ Surfaced r := by
  constructor
  · intro surfaces
    obtain ⟨trace, run, received⟩ := request_can_receive r
    constructor
    · intro swallowed
      obtain ⟨value, ok⟩ := returns_of_accepted swallowed.2
      obtain ⟨exc, raised⟩ := surfaces.raises (Or.inl swallowed.1) _ _ _ _ _ _ _ run received
      rw [ok] at raised
      cases raised
    · intro confused
      obtain ⟨envelope, parsed, isError, success⟩ := confused
      have raised := normalize_of_error parsed isError
      obtain ⟨trace, outcome, run, received, answered⟩ := listing_can_receive raised
      refine surfaces.handlers (Or.inr ⟨envelope, parsed, isError⟩) _ (.listPools none {} true)
        trace outcome rfl run received ⟨?_, ?_⟩
      · rw [answered]
        simp only [Call.status, Raised.statusCode, lxdErrToHttp_forStatus]
        split_ifs <;> omega
      · rw [answered]
        exact fun reports => reports
  · intro surfaced
    constructor
    · intro failed lxd method path body params trace outcome run received
      obtain ⟨exc, raised, _⟩ := error_of_surfaced surfaced failed
      rw [request_of_received run received, raised]
      exact ⟨exc, rfl⟩
    · intro lxd method path body params trace value run received
      have same := request_of_received run received
      have low : (r.body = .empty ∨ ∃ envelope, r.envelope = some envelope ∧
          envelope.isError = false) → r.statusCode < 400 := by
        intro accepted
        by_contra high
        exact surfaced.1 ⟨Nat.le_of_not_lt high, accepted⟩
      rcases normalize_cases r with ⟨empty, _⟩ | ⟨envelope, parsed, fine, _⟩ |
          ⟨_, _, _, raised⟩ | ⟨_, _, raised⟩
      · exact ⟨low (Or.inl empty), Or.inl empty⟩
      · exact ⟨low (Or.inr ⟨envelope, parsed, fine⟩),
          Or.inr ⟨envelope, parsed, (accepted_iff_not_error envelope).mpr fine⟩⟩
      · rw [raised] at same
        cases same
      · rw [raised] at same
        cases same
    · intro failed lxd call trace outcome normal run received
      obtain ⟨exc, raised, status⟩ := error_of_surfaced surfaced failed
      exact not_succeeds_of_fails
        (call_refuses lxd ⟨raised, status⟩ call normal trace outcome run received)

end Failures

/-- A failed status with an empty body is returned as `None`: a listing answers it with
    an empty page, and a deletion with the reference of an operation `None`. -/
theorem empty_failure_returned :
    ¬ @FailureSurfaces plainPlatform ⟨500, .empty⟩ ∧
    Program.run (answering fun _ => ⟨500, .empty⟩)
      (@Call.program plainPlatform ⟨{}⟩ (.listPools none {} true)) = .ok (.page ⟨[], 100, 0, 0⟩) ∧
    Program.run (answering fun _ => ⟨500, .empty⟩)
      (@Call.program plainPlatform ⟨{}⟩ (.deleteProject "p")) =
        .ok (.ref ⟨"None", "/1.0/operations/None", "async", "/api/v1/operations/None",
          "/api/v1/operations/None/wait"⟩) := by
  refine ⟨?_, rfl, ?_⟩
  · intro surfaces
    obtain ⟨trace, run, received⟩ := @request_can_receive plainPlatform ⟨500, .empty⟩
    have failed : @LxdFailed plainPlatform ⟨500, .empty⟩ := Or.inl (by decide)
    obtain ⟨exc, raised⟩ :=
      @FailureSurfaces.raises plainPlatform _ surfaces failed _ _ _ _ _ _ _ run received
    cases raised
  · rfl

end LxdApi

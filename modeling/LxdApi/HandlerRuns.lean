import LxdApi.Catalogue

set_option autoImplicit false

/- Each kind of handler as the requests it makes and what it does with their
   replies: later proofs use these equations and never unfold a handler. -/
namespace LxdApi
open Interaction Program OrderedMap Json

def LXDClient.sent (lxd : LXDClient) (method : Method) (path : LXDPath) (body : RequestBody)
    (params : Option Params) : LXDRequest :=
  ⟨method, path, body, params, lxd.settings.LXD_TIMEOUT⟩

def LXDClient.receivedRaw (lxd : LXDClient) (wire : Wire) : Except Raised HttpReply :=
  match wire with
  | .reply r => .ok r
  | .httpError exc => .error (.lxd (lxd.connectionError exc))
  | .invalidUrl => .error (.unhandled "InvalidURL")

theorem streaming_eq (lxd : LXDClient) (path : LXDPath) (params : Option Params)
    (mediaType disposition : String) :
    streaming lxd path params mediaType disposition =
      .call (.lxd (lxd.sent .GET path .none params)) fun wire =>
        ofExcept (((lxd.receivedRaw wire).mapError toHttp).bind fun response =>
          if latin1 disposition then .ok (.stream response mediaType disposition)
          else .error (.unhandled "UnicodeEncodeError")) := by
  simp only [streaming, orHttp, LXDClient.requestRaw, bind_eq, bind_call, handle_call]
  congr 1
  funext wire
  cases wire with
  | reply r =>
    simp only [LXDClient.receivedRaw, handle_done, bind_done, Except.mapError, Except.bind]
    split <;> rfl
  | httpError exc => rfl
  | invalidUrl => rfl

theorem runs_one_request {A : Type} (req : LXDRequest) (outcomeOf : Wire → Except Raised A)
    (trace : List (Event Effect Effect.Reply)) (outcome : Except Raised A) :
    (Program.call (.lxd req) fun wire => ofExcept (outcomeOf wire)).Runs trace outcome ↔
      ∃ wire : Wire, trace = [⟨.lxd req, wire⟩] ∧ outcome = outcomeOf wire := by
  simp only [runs_call_iff, runs_ofExcept_iff]
  constructor
  · intro h
    obtain ⟨wire, tail, shape, empty, same⟩ := h
    subst tail
    exact ⟨wire, shape, same⟩
  · intro h
    obtain ⟨wire, shape, same⟩ := h
    exact ⟨wire, [], shape, rfl, same⟩

/-- An environment in which LXD answers by a function of the request, and every
    WebSocket opens. -/
def answering (lxd : LXDRequest → HttpReply) : (e : Effect) → e.Reply
  | .lxd req => .reply (lxd req)
  | .connect _ => .ok ()
  | .accept => ()
  | .close _ => ()
  | .sendText _ => ()

def wired (lxd : LXDRequest → Wire) : (e : Effect) → e.Reply
  | .lxd req => lxd req
  | .connect _ => .ok ()
  | .accept => ()
  | .close _ => ()
  | .sendText _ => ()

theorem answering_eq_wired (lxd : LXDRequest → HttpReply) :
    answering lxd = wired fun req => .reply (lxd req) := by
  funext e
  cases e <;> rfl

section Requests
variable [Platform] (lxd : LXDClient)

/-- What `request` returns or raises for what the HTTP client gave back. -/
def LXDClient.received (wire : Wire) : Except Raised Json :=
  match wire with
  | .reply r => (normalize r).mapError .lxd
  | .httpError exc => .error (.lxd (lxd.connectionError exc))
  | .invalidUrl => .error (.unhandled "InvalidURL")

theorem request_eq (method : Method) (path : LXDPath) (body : RequestBody)
    (params : Option Params) :
    lxd.request method path body params =
      .call (.lxd (lxd.sent method path body params)) fun wire =>
        ofExcept (lxd.received wire) := by
  unfold LXDClient.request LXDClient.requestRaw
  simp only [bind_eq, bind_call]
  congr 1
  funext wire
  cases wire <;> rfl

theorem orHttp_request_eq (method : Method) (path : LXDPath) (body : RequestBody)
    (params : Option Params) :
    orHttp (lxd.request method path body params) =
      .call (.lxd (lxd.sent method path body params)) fun wire =>
        ofExcept ((lxd.received wire).mapError toHttp) := by
  simp only [orHttp, request_eq, handle_call, ofExcept_handle]

def finished (finish : Finish) (wire : Wire) : Except Raised Answer :=
  ((lxd.received wire).mapError toHttp).bind finish.answer

theorem single_eq (method : Method) (path : LXDPath) (body : RequestBody)
    (params : Option Params) (finish : Finish) :
    single lxd method path body params finish =
      .call (.lxd (lxd.sent method path body params)) fun wire =>
        ofExcept (finished lxd finish wire) := by
  simp only [single, orHttp_request_eq, bind_eq, bind_call, ofExcept_bind]
  congr 1
  funext wire
  unfold finished
  cases (lxd.received wire).mapError toHttp <;> rfl

theorem request_runs_iff (method : Method) (path : LXDPath) (body : RequestBody)
    (params : Option Params) (trace : List (Event Effect Effect.Reply))
    (outcome : Except Raised Json) :
    (lxd.request method path body params).Runs trace outcome ↔
      ∃ wire : Wire, trace = [⟨.lxd (lxd.sent method path body params), wire⟩] ∧
        outcome = lxd.received wire := by
  rw [request_eq]
  exact runs_one_request _ _ trace outcome

theorem single_runs_iff (method : Method) (path : LXDPath) (body : RequestBody)
    (params : Option Params) (finish : Finish) (trace : List (Event Effect Effect.Reply))
    (outcome : Except Raised Answer) :
    (single lxd method path body params finish).Runs trace outcome ↔
      ∃ wire : Wire, trace = [⟨.lxd (lxd.sent method path body params), wire⟩] ∧
        outcome = finished lxd finish wire := by
  rw [single_eq]
  exact runs_one_request _ _ trace outcome

def LXDClient.waitRequest (operationId : String) (timeout : Rat) (project : Option String) :
    LXDRequest :=
  lxd.sent .GET (waitPath operationId) .none (orNone (waitParams timeout project))

/-- What `wait_for_operation` returns or raises. -/
def LXDClient.awaited (operationId : String) (wire : Wire) : Except Raised Json :=
  (lxd.received wire).bind fun result => (waited operationId result).mapError .lxd

theorem waitForOperation_eq (operationId : String) (timeout : Rat) (project : Option String) :
    waitForOperation lxd operationId timeout project =
      .call (.lxd (lxd.waitRequest operationId timeout project)) fun wire =>
        ofExcept (lxd.awaited operationId wire) := by
  simp only [waitForOperation, LXDClient.get, request_eq, bind_eq, bind_call, ofExcept_bind]
  congr 1
  funext wire
  unfold LXDClient.awaited
  cases lxd.received wire <;> rfl

theorem mutatingOrWaiting_eq (method : Method) (path : LXDPath) (body : RequestBody)
    (project : Option String) (wait : Bool) (caught : Raised → Raised) :
    mutatingOrWaiting lxd method path body project wait caught =
      .call (.lxd (lxd.sent method path body (projectParams project))) fun wire =>
        match ((lxd.received wire).mapError toHttp).bind toAsyncRef with
        | .error exc => .raise exc
        | .ok ref =>
          if wait = true ∧ ref.operationId ≠ "" then
            .call (.lxd (lxd.waitRequest ref.operationId 0 project)) fun wire =>
              ofExcept (((lxd.awaited ref.operationId wire).map fun _ =>
                .success ref.operationId).mapError caught)
          else .done (.ref ref) := by
  simp only [mutatingOrWaiting, orHttp_request_eq, bind_eq, bind_call, ofExcept_bind, pure_eq,
    waitForOperation_eq, handle_call]
  congr 1
  funext wire
  cases (lxd.received wire).mapError toHttp with
  | error exc => rfl
  | ok result =>
    simp only [Except.bind]
    cases toAsyncRef result with
    | error exc => rfl
    | ok ref =>
      dsimp only
      split
      · congr 1
        funext wire
        cases lxd.awaited ref.operationId wire <;> rfl
      · rfl

theorem mutatingOrWaiting_run (answers : LXDRequest → Wire) (method : Method) (path : LXDPath)
    (body : RequestBody) (project : Option String) (caught : Raised → Raised) :
    (mutatingOrWaiting lxd method path body project true caught).run (wired answers) =
      match ((lxd.received (answers (lxd.sent method path body (projectParams project)))).mapError
          toHttp).bind toAsyncRef with
      | .error exc => .error exc
      | .ok ref =>
        if ref.operationId ≠ "" then
          ((lxd.awaited ref.operationId (answers (lxd.waitRequest ref.operationId 0 project))).map
            fun _ => .success ref.operationId).mapError caught
        else .ok (.ref ref) := by
  rw [mutatingOrWaiting_eq]
  simp only [Program.run, wired]
  split
  · rfl
  · rename_i ref built
    by_cases empty : ref.operationId = ""
    · simp [empty, Program.run]
    · simp only [ne_eq, empty, not_false_eq_true, and_self, if_true, Program.run, run_ofExcept]
      rfl

theorem mutatingOrWaiting_of_not_wait (method : Method) (path : LXDPath) (body : RequestBody)
    (project : Option String) (caught : Raised → Raised) :
    mutatingOrWaiting lxd method path body project false caught =
      mutating lxd method path body (projectParams project) := by
  rw [mutatingOrWaiting_eq, mutating, single_eq]
  congr 1
  funext wire
  unfold finished
  cases (lxd.received wire).mapError toHttp with
  | error exc => rfl
  | ok result =>
    simp only [Except.bind, Finish.answer]
    cases toAsyncRef result <;> rfl

theorem waitOperation_eq (operationId : String) (project : Option String)
    (timeout : WaitTimeout) :
    waitOperation lxd operationId project timeout =
      .call (.lxd (lxd.waitRequest operationId
          (if 0 < timeout.seconds then timeout.seconds else 0) project)) fun wire =>
        ofExcept (((lxd.awaited operationId wire).map .value).mapError fun exc =>
          toHttp (operationErrorOnly exc)) := by
  simp only [waitOperation, waitForOperation_eq, bind_eq, bind_call, handle_call]
  congr 1
  funext wire
  cases lxd.awaited operationId wire <;> rfl

theorem patchDevices_eq (instance' : String) (project : Option String) (edit : DeviceEdit) :
    patchDevices lxd instance' project edit =
      .call (.lxd (lxd.sent .GET (instancePath instance') .none (projectParams project)))
        fun wire =>
        match ((lxd.received wire).mapError toHttp).bind devicesOf with
        | .error exc => .raise exc
        | .ok devices =>
          .call (.lxd (lxd.sent .PATCH (instancePath instance')
              (.fixed (.obj [("devices", .obj (edit.apply devices))])) (projectParams project)))
            fun wire => ofExcept (finished lxd .ref wire) := by
  simp only [patchDevices, LXDClient.get, orHttp_request_eq, mutating, single_eq, bind_eq,
    bind_call, ofExcept_bind]
  congr 1
  funext wire
  cases (lxd.received wire).mapError toHttp with
  | error exc => rfl
  | ok inst =>
    simp only [Except.bind]
    cases devicesOf inst <;> rfl

theorem healthDeep_eq :
    healthDeep lxd =
      .call (.lxd (lxd.sent .GET .root .none none)) fun wire =>
        match lxd.received wire with
        | .ok _ => .done (.health "healthy" "reachable" none)
        | .error (.lxd exc) =>
            if exc.type = .LXDConnectionError then
              .done (.health "unhealthy" "unreachable" (some exc.message))
            else .done (.health "degraded" "reachable" (some exc.message))
        | .error other => .raise other := by
  simp only [healthDeep, LXDClient.get, request_eq, bind_eq, bind_call, handle_call, pure_eq]
  congr 1
  funext wire
  cases lxd.received wire with
  | ok value => rfl
  | error exc => cases exc <;> rfl

/-- What a session handler does with what `request` returned or raised. -/
def sessionAfter (failure : String) (secret : Dict → Json) :
    Except Raised Json → Handler Answer
  | .ok op =>
      proxyExecWs ((get? (opDict op) "id").getD (.str "")) (secret (secretsOf (opDict op)))
  | .error (.lxd exc) => sendAndClose (failure ++ exc.message)
  | .error other => .raise other

theorem relaySession_eq (path : LXDPath) (body : Json) (project : Option String)
    (failure : String) (secret : Dict → Json) :
    relaySession lxd path body project failure secret =
      .call (.lxd (lxd.sent .POST path (.fixed body) (truthyProject project))) fun wire =>
        sessionAfter failure secret (lxd.received wire) := by
  simp only [relaySession, LXDClient.post, request_eq, bind_eq, bind_call, handle_call, pure_eq]
  congr 1
  funext wire
  cases lxd.received wire with
  | ok op => rfl
  | error exc => cases exc <;> rfl

end Requests

def Asks (allowed : LXDRequest → Prop) : Effect → Prop
  | .lxd req => allowed req
  | _ => True

section Asking
variable {allowed : LXDRequest → Prop}

theorem streaming_asks_iff (lxd : LXDClient) (path : LXDPath) (params : Option Params)
    (mediaType disposition : String) :
    (streaming lxd path params mediaType disposition).Uses (Asks allowed) ↔
      allowed (lxd.sent .GET path .none params) := by
  rw [streaming_eq, uses_call_iff]
  simp [Asks]

theorem relay_asks (url : WsUrl) (report : String → String) :
    (relay url report).Uses (Asks allowed) := by
  refine ⟨trivial, ?_⟩
  intro connected
  cases connected with
  | ok _ => trivial
  | error exc => exact ⟨trivial, fun _ => ⟨trivial, fun _ => trivial⟩⟩

variable [Platform] (lxd : LXDClient)

theorem single_asks_iff (method : Method) (path : LXDPath) (body : RequestBody)
    (params : Option Params) (finish : Finish) :
    (single lxd method path body params finish).Uses (Asks allowed) ↔
      allowed (lxd.sent method path body params) := by
  rw [single_eq, uses_call_iff]
  simp [Asks]

theorem healthDeep_asks_iff :
    (healthDeep lxd).Uses (Asks allowed) ↔ allowed (lxd.sent .GET .root .none none) := by
  rw [healthDeep_eq, uses_call_iff]
  apply and_iff_left
  intro wire
  split
  · trivial
  · split <;> trivial
  · trivial

theorem waitOperation_asks_iff (operationId : String) (project : Option String)
    (timeout : WaitTimeout) :
    (waitOperation lxd operationId project timeout).Uses (Asks allowed) ↔
      allowed (lxd.waitRequest operationId
        (if 0 < timeout.seconds then timeout.seconds else 0) project) := by
  rw [waitOperation_eq, uses_call_iff]
  simp [Asks]

theorem mutatingOrWaiting_asks {method : Method} {path : LXDPath} {body : RequestBody}
    {project : Option String} {wait : Bool} {caught : Raised → Raised}
    (first : allowed (lxd.sent method path body (projectParams project)))
    (later : ∀ operationId, allowed (lxd.waitRequest operationId 0 project)) :
    (mutatingOrWaiting lxd method path body project wait caught).Uses (Asks allowed) := by
  rw [mutatingOrWaiting_eq]
  refine ⟨first, ?_⟩
  intro wire
  dsimp only
  split
  · trivial
  · split
    · exact ⟨later _, fun _ => uses_ofExcept _ _⟩
    · trivial

theorem patchDevices_asks {instance' : String} {project : Option String} {edit : DeviceEdit}
    (lookup : allowed (lxd.sent .GET (instancePath instance') .none (projectParams project)))
    (patch : ∀ devices, allowed (lxd.sent .PATCH (instancePath instance')
      (.fixed (.obj [("devices", .obj devices)])) (projectParams project))) :
    (patchDevices lxd instance' project edit).Uses (Asks allowed) := by
  rw [patchDevices_eq]
  refine ⟨lookup, ?_⟩
  intro wire
  dsimp only
  split
  · trivial
  · exact ⟨patch _, fun _ => uses_ofExcept _ _⟩

theorem sessionAfter_asks (failure : String) (secret : Dict → Json)
    (received : Except Raised Json) :
    (sessionAfter failure secret received).Uses (Asks allowed) := by
  unfold sessionAfter
  split
  · unfold proxyExecWs
    split
    · split
      · exact relay_asks _ _
      · trivial
    · exact ⟨trivial, fun _ => ⟨trivial, fun _ => trivial⟩⟩
  · exact ⟨trivial, fun _ => ⟨trivial, fun _ => trivial⟩⟩
  · trivial

theorem relaySession_asks {path : LXDPath} {body : Json} {project : Option String}
    {failure : String} {secret : Dict → Json}
    (first : allowed (lxd.sent .POST path (.fixed body) (truthyProject project))) :
    (relaySession lxd path body project failure secret).Uses (Asks allowed) := by
  rw [relaySession_eq]
  exact ⟨first, fun _ => sessionAfter_asks failure secret _⟩

end Asking
end LxdApi

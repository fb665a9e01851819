import LxdApi.WaitFailures

set_option autoImplicit false

/- How long a wait may take: LXD holds its answer back until the operation has ended or
   the time it was given is over, and the HTTP client gives up after the timeout of the
   request, which is the one of the settings for every request. -/
namespace LxdApi
open Interaction Program OrderedMap Json

def earlier (first second : Rat) : Rat := if first ≤ second then first else second

/-- An operation that ends some seconds after the wait for it begins, as LXD describes it
    before and after. -/
structure OperationRun where
  seconds : Rat
  running : Dict
  ended : Dict

def LXDRequest.waitTimeout? (req : LXDRequest) : Option Rat :=
  match req.params.bind fun params => get? params "timeout" with
  | some (.float seconds) => some seconds
  | _ => none

def operationReply (object : Dict) : HttpReply :=
  ⟨200, .json "" (.obj [("type", .str "sync"), ("metadata", .obj object)])⟩

namespace OperationRun

def answerTime (run : OperationRun) (timeout : Option Rat) : Rat :=
  match timeout with
  | some seconds => earlier run.seconds seconds
  | none => run.seconds

def answer (run : OperationRun) (timeout : Option Rat) : Dict :=
  match timeout with
  | some seconds => if run.seconds ≤ seconds then run.ended else run.running
  | none => run.ended

/-- What the HTTP client gives back for a wait: it fails when the answer takes longer than
    the timeout of the request. -/
def wire (run : OperationRun) (late : String) (req : LXDRequest) : Wire :=
  if req.timeout < run.answerTime req.waitTimeout? then .httpError late
  else .reply (operationReply (run.answer req.waitTimeout?))

end OperationRun

def reason [Platform] (id : String) (object : Dict) (lower : String) : String :=
  if (get object "err").truthy then pyStr (get object "err")
  else "operation " ++ id ++ " " ++ lower

def endedIn [Platform] (id : String) (object : Dict) (word lower : String) : String :=
  "LXD operation " ++ id ++ " ended in " ++ word ++ ": " ++ reason id object lower

/- The outcome that an operation has of its own, from what LXD says of it: an error that
   names it and tells its reason if it failed or was cancelled, and `good` otherwise. -/
structure OwnOutcome [Platform] (id : String) (object : Dict) (good : Answer)
    (outcome : Except Raised Answer) : Prop where
  failure : get object "status" = .str "Failure" →
    outcome = .error (.http ⟨500, endedIn id object "Failure" "failure"⟩)
  cancelled : get object "status" = .str "Cancelled" →
    outcome = .error (.http ⟨500, endedIn id object "Cancelled" "cancelled"⟩)
  otherwise : get object "status" ≠ .str "Failure" → get object "status" ≠ .str "Cancelled" →
    outcome = .ok good

def Call.goodEnd (call : Call) (id : String) (object : Dict) : Answer :=
  match call with
  | .waitOperation .. => .value (.obj object)
  | _ => .success id

/-- How long the caller is ready to wait; nothing stands for an unbounded wait. -/
def Call.patience : Call → Option Rat
  | .waitOperation _ _ timeout => if 0 < timeout.seconds then some timeout.seconds else none
  | _ => none

theorem waitTimeout_waitRequest (lxd : LXDClient) (id : String) (seconds : Rat)
    (project : Option String) :
    (lxd.waitRequest id seconds project).waitTimeout? =
      if 0 < seconds then some seconds else none := by
  unfold LXDClient.waitRequest LXDClient.sent LXDRequest.waitTimeout? waitParams orNone
  by_cases given : 0 < seconds
  · cases project with
    | none => simp [given]
    | some p => by_cases empty : p = "" <;> simp [given, empty]
  · cases project with
    | none => simp [given]
    | some p => by_cases empty : p = "" <;> simp [given, empty]

section Timeouts
variable [Platform] (lxd : LXDClient)

/-- The call ends with the outcome of the operation `id`, as LXD describes it when it has
    ended or the time is over, whatever the transport would say of a late answer. -/
def EndsWithOperation (call : Call) (changed : HttpReply) (id : String) (run : OperationRun) :
    Prop :=
  ∀ late, OwnOutcome id (run.answer call.patience) (call.goodEnd id (run.answer call.patience))
    ((call.program lxd).run (changedThen changed (run.wire late)))

theorem awaited_operationReply (id : String) (object : Dict) :
    lxd.awaited id (.reply (operationReply object)) =
      (waited id (.obj object)).mapError .lxd := by
  have parsed : (operationReply object).envelope =
      some ⟨.sync, none, none, none, .obj object, none, none⟩ := rfl
  have normal : normalize (operationReply object) = .ok (.obj object) :=
    normalize_of_accepted parsed rfl
  simp only [LXDClient.awaited, LXDClient.received, normal, Except.mapError, Except.bind]

theorem ownOutcome_waited (id : String) (object : Dict) (value : Json → Answer)
    {caught : Raised → Raised}
    (known : ∀ message, caught (.lxd ⟨.LXDOperationError, message, 0⟩) = .http ⟨500, message⟩) :
    OwnOutcome id object (value (.obj object))
      ((((waited id (.obj object)).mapError .lxd).map value).mapError caught) where
  failure failed := by
    simp only [waited, failed, failedStatus, Except.mapError, Except.map, operationFailure, known]
    rfl
  cancelled stopped := by
    simp only [waited, stopped, failedStatus, Except.mapError, Except.map, operationFailure,
      known]
    rfl
  otherwise fine going := by
    have unknown : failedStatus (get object "status") = none := by
      unfold failedStatus
      split
      · rename_i failed
        exact absurd failed fine
      · rename_i stopped
        exact absurd stopped going
      · rfl
    simp only [waited, unknown, Except.mapError, Except.map]

theorem not_ownOutcome {id : String} {object : Dict} {good : Answer} {raised : Raised}
    (unlike : ∀ word lower, raised ≠ .http ⟨500, endedIn id object word lower⟩) :
    ¬ OwnOutcome id object good (.error raised) := by
  intro own
  by_cases failed : get object "status" = .str "Failure"
  · exact unlike _ _ (Except.error.inj (own.failure failed))
  · by_cases stopped : get object "status" = .str "Cancelled"
    · exact unlike _ _ (Except.error.inj (own.cancelled stopped))
    · cases own.otherwise failed stopped

theorem ownOutcome_iff (id : String) (req : LXDRequest) (run : OperationRun)
    (value : Json → Answer) (caught : Raised → Raised)
    (known : ∀ message, caught (.lxd ⟨.LXDOperationError, message, 0⟩) = .http ⟨500, message⟩)
    (tells : ∀ late object word lower,
      caught (.lxd (lxd.connectionError late)) ≠ .http ⟨500, endedIn id object word lower⟩) :
    (∀ late, OwnOutcome id (run.answer req.waitTimeout?)
        (value (.obj (run.answer req.waitTimeout?)))
        (((lxd.awaited id (run.wire late req)).map value).mapError caught)) ↔
      run.answerTime req.waitTimeout? ≤ req.timeout := by
  constructor
  · intro own
    by_contra slow
    have outcome := own ""
    unfold OperationRun.wire at outcome
    rw [if_pos (Rat.not_le.mp slow)] at outcome
    exact not_ownOutcome (tells "" _) outcome
  · intro inTime late
    unfold OperationRun.wire
    rw [if_neg (Rat.not_lt.mpr inTime), awaited_operationReply]
    exact ownOutcome_waited id _ value known

theorem connectionError_ne_endedIn (late id word lower : String) (object : Dict) :
    (lxd.connectionError late).message ≠ endedIn id object word lower := by
  unfold endedIn
  generalize reason id object lower = tail
  intro same
  have letters := congrArg String.toList same
  simp [LXDClient.connectionError, String.toList_append] at letters

omit [Platform] in
theorem caught_known (call : Call) (message : String) :
    call.caught (.lxd ⟨.LXDOperationError, message, 0⟩) = .http ⟨500, message⟩ := by
  unfold Call.caught
  split <;> rfl

theorem caught_tells (call : Call) (late id : String) (object : Dict) (word lower : String) :
    call.caught (.lxd (lxd.connectionError late)) ≠
      .http ⟨500, endedIn id object word lower⟩ := by
  unfold Call.caught
  split
  · intro same
    simp only [everyException, Raised.text, Raised.http.injEq, HTTPException.mk.injEq] at same
    exact connectionError_ne_endedIn lxd late id word lower object same.2
  · intro same
    simp [operationErrorOnly, LXDClient.connectionError] at same

theorem waitOperation_tells (late id : String) (object : Dict) (word lower : String) :
    toHttp (operationErrorOnly (.lxd (lxd.connectionError late))) ≠
      .http ⟨500, endedIn id object word lower⟩ := by
  simp [operationErrorOnly, LXDClient.connectionError, toHttp, lxdErrToHttp, codeMap]

theorem waitOperation_ends_iff (id : String) (project : Option String) (timeout : WaitTimeout)
    (changed : HttpReply) (run : OperationRun) :
    EndsWithOperation lxd (.waitOperation id project timeout) changed id run ↔
      (if 0 < timeout.seconds then earlier run.seconds timeout.seconds else run.seconds) ≤
        lxd.settings.LXD_TIMEOUT := by
  have asked : (lxd.waitRequest id (if 0 < timeout.seconds then timeout.seconds else 0)
      project).waitTimeout? = (Call.waitOperation id project timeout).patience := by
    rw [waitTimeout_waitRequest]
    by_cases given : 0 < timeout.seconds <;> simp [given, Call.patience]
  simp only [EndsWithOperation, waitOperation_run, ← asked]
  refine (ownOutcome_iff lxd id _ run .value (fun exc => toHttp (operationErrorOnly exc))
    (fun _ => rfl) (waitOperation_tells lxd · id)).trans ?_
  rw [asked]
  by_cases given : 0 < timeout.seconds
  · simp only [given, if_true, Call.patience]
    rfl
  · simp only [given, if_false, Call.patience]
    rfl

theorem waiting_ends_iff {call : Call} (waits : call.waits = true) {changed : HttpReply}
    {id : String} (presents : Presents changed id) (run : OperationRun) :
    EndsWithOperation lxd call changed id run ↔ run.seconds ≤ lxd.settings.LXD_TIMEOUT := by
  obtain ⟨project, outcome⟩ := waits_run lxd presents waits
  have asked : (lxd.waitRequest id 0 project).waitTimeout? = call.patience := by
    have unbounded : (lxd.waitRequest id 0 project).waitTimeout? = none :=
      (waitTimeout_waitRequest lxd id 0 project).trans (if_neg (Rat.not_lt.mpr Rat.le_refl))
    rw [unbounded]
    cases call <;> first | rfl | cases waits
  have good : call.goodEnd id = fun _ => .success id := by
    cases call <;> first | rfl | cases waits
  simp only [EndsWithOperation, outcome, good, ← asked]
  refine (ownOutcome_iff lxd id _ run (fun _ => .success id) call.caught (caught_known call)
    (caught_tells lxd call · id)).trans ?_
  rw [waitTimeout_waitRequest]
  rfl

/- A wait ends with its operation exactly if LXD answers within the timeout of the
   settings: for the wait route when the operation ends or the time given is over, for
   the calls that wait when the operation ends. -/
theorem wait_ends_iff :
    (∀ id project timeout changed run,
      EndsWithOperation lxd (.waitOperation id project timeout) changed id run ↔
        (if 0 < timeout.seconds then earlier run.seconds timeout.seconds else run.seconds) ≤
          lxd.settings.LXD_TIMEOUT) ∧
    ∀ (call : Call), call.waits = true → ∀ changed id, Presents changed id → ∀ run,
      EndsWithOperation lxd call changed id run ↔ run.seconds ≤ lxd.settings.LXD_TIMEOUT :=
  ⟨waitOperation_ends_iff lxd,
    fun _ waits _ _ presents run => waiting_ends_iff lxd waits presents run⟩

end Timeouts

def succeedsAfter (seconds : Rat) : OperationRun :=
  ⟨seconds, [("id", .str "op"), ("status", .str "Running")],
    [("id", .str "op"), ("status", .str "Success")]⟩

/-- With the default timeout of thirty seconds, a wait of a minute for an operation of ten
    seconds ends with it, and so does the state change that waits for it. -/
theorem short_operation_awaited :
    @EndsWithOperation plainPlatform ⟨{}⟩ (.waitOperation "op" none ⟨60, by decide⟩)
      (stateReply operationObject) "op" (succeedsAfter 10) ∧
    @EndsWithOperation plainPlatform ⟨{}⟩ stopInstance (stateReply operationObject) "op"
      (succeedsAfter 10) :=
  ⟨((@wait_ends_iff plainPlatform ⟨{}⟩).1 "op" none ⟨60, by decide⟩ _ _).mpr (by decide),
    ((@wait_ends_iff plainPlatform ⟨{}⟩).2 stopInstance rfl _ "op"
      (@stateReply_presents plainPlatform) _).mpr (by decide)⟩

/-- When the operation takes forty seconds, the wait of a minute and the wait without
    bound are answered with 503, and the state change raises a connection error. -/
theorem slow_operation_lost :
    (∃ answer, (@Call.program plainPlatform ⟨{}⟩ (.waitOperation "op" none ⟨60, by decide⟩)).run
      (changedThen (stateReply operationObject) ((succeedsAfter 40).wire "ReadTimeout")) =
        .error (.http answer) ∧ answer.statusCode = 503) ∧
    (∃ answer, (@Call.program plainPlatform ⟨{}⟩ (.waitOperation "op" none {})).run
      (changedThen (stateReply operationObject) ((succeedsAfter 40).wire "ReadTimeout")) =
        .error (.http answer) ∧ answer.statusCode = 503) ∧
    (@Call.program plainPlatform ⟨{}⟩ stopInstance).run
      (changedThen (stateReply operationObject) ((succeedsAfter 40).wire "ReadTimeout")) =
        .error (.lxd (LXDClient.connectionError ⟨{}⟩ "ReadTimeout")) ∧
    ¬ @EndsWithOperation plainPlatform ⟨{}⟩ (.waitOperation "op" none ⟨60, by decide⟩)
      (stateReply operationObject) "op" (succeedsAfter 40) ∧
    ¬ @EndsWithOperation plainPlatform ⟨{}⟩ stopInstance (stateReply operationObject) "op"
      (succeedsAfter 40) := by
  refine ⟨⟨_, rfl, rfl⟩, ⟨_, rfl, rfl⟩, rfl, ?_, ?_⟩
  · rw [@waitOperation_ends_iff plainPlatform]
    decide
  · rw [@waiting_ends_iff plainPlatform ⟨{}⟩ stopInstance rfl _ "op"
      (@stateReply_presents plainPlatform)]
    decide

end LxdApi

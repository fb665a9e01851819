import LxdApi.WaitedOperations
import LxdApi.ErrorAnswers

set_option autoImplicit false

/- What becomes of a wait that fails: the five handlers that call `wait_for_operation`
   catch different exceptions around it, and none of them gives it a timeout of its own. -/
namespace LxdApi
open Interaction Program OrderedMap Json

/-- LXD answers the change with a reply; the HTTP client gives anything back for the wait. -/
def changedThen (changed : HttpReply) (waited : LXDRequest → Wire) : (e : Effect) → e.Reply :=
  wired fun req => if req.method = .GET then waited req else .reply changed

def waitStatus (exc : LXDError) : Int :=
  if exc.type = .LXDOperationError then 500 else (lxdErrToHttp exc).statusCode

def Call.catchesEverything : Call → Bool
  | createSnapshot .. | restoreSnapshot .. | createBackup .. => true
  | _ => false

def Call.caught (call : Call) : Raised → Raised :=
  if call.catchesEverything then everyException else operationErrorOnly

theorem waitOperation_status (exc : LXDError) :
    ∃ other, toHttp (operationErrorOnly (.lxd exc)) = .http other ∧
      other.statusCode = waitStatus exc := by
  unfold operationErrorOnly waitStatus
  dsimp only
  split
  · exact ⟨_, rfl, rfl⟩
  · exact ⟨_, rfl, rfl⟩

theorem caught_status_iff (call : Call) (exc : LXDError) :
    (∃ answer, call.caught (.lxd exc) = .http answer ∧ answer.statusCode = waitStatus exc) ↔
      exc.type = .LXDOperationError ∨
        call.catchesEverything = true ∧ (lxdErrToHttp exc).statusCode = 500 := by
  unfold Call.caught waitStatus
  cases call.catchesEverything with
  | true =>
    by_cases failed : exc.type = .LXDOperationError
    · simp [everyException, failed]
    · simp [everyException, failed, eq_comm]
  | false =>
    by_cases failed : exc.type = .LXDOperationError
    · simp [operationErrorOnly, failed]
    · simp [operationErrorOnly, failed]

theorem lxdErrorForStatus_type (message : String) (code : Int) :
    (lxdErrorForStatus message code).type ≠ .LXDOperationError := by
  unfold lxdErrorForStatus
  split_ifs <;> simp

section Failing
variable [Platform] (lxd : LXDClient)

/-- The reply presents itself as operation `id`, which a handler can wait for. -/
structure Presents (changed : HttpReply) (id : String) : Prop where
  named : id ≠ ""
  handed : ∃ value, Hands changed value ∧ Identifies id value

theorem waits_run {changed : HttpReply} {id : String} (presents : Presents changed id)
    {call : Call} (waits : call.waits = true) :
    ∃ project, ∀ waited, (call.program lxd).run (changedThen changed waited) =
      ((lxd.awaited id (waited (lxd.waitRequest id 0 project))).map
        fun _ => .success id).mapError call.caught := by
  obtain ⟨value, hands, identifies⟩ := presents.handed
  obtain ⟨ref, built, same⟩ := (identifies_iff id value).mp identifies
  have normal := (hands_iff _ _).mp hands
  have general : ∀ (method : Method) (path : LXDPath) (body : RequestBody)
      (project : Option String) (caught : Raised → Raised), method ≠ .GET → ∀ waited,
      (mutatingOrWaiting lxd method path body project true caught).run
          (changedThen changed waited) =
        ((lxd.awaited id (waited (lxd.waitRequest id 0 project))).map
          fun _ => .success id).mapError caught := by
    intro method path body project caught changes waited
    rw [changedThen, mutatingOrWaiting_run]
    simp only [LXDClient.sent, LXDClient.waitRequest, changes, if_false, if_true,
      LXDClient.received, normal, Except.mapError, Except.bind, built, same, presents.named,
      ne_eq, not_false_eq_true]
  cases call <;> try (cases waits)
  all_goals exact ⟨_, general _ _ _ _ _ (by decide)⟩

theorem waitOperation_run (id : String) (project : Option String) (timeout : WaitTimeout)
    (changed : HttpReply) (waited : LXDRequest → Wire) :
    ((Call.waitOperation id project timeout).program lxd).run (changedThen changed waited) =
      ((lxd.awaited id (waited (lxd.waitRequest id
        (if 0 < timeout.seconds then timeout.seconds else 0) project))).map .value).mapError
          fun exc => toHttp (operationErrorOnly exc) := by
  have program : (Call.waitOperation id project timeout).program lxd =
      LxdApi.waitOperation lxd id project timeout := rfl
  rw [program, waitOperation_eq]
  simp only [Program.run, changedThen, wired, LXDClient.waitRequest, LXDClient.sent, if_true,
    run_ofExcept]

/- The handler answers every failure of the wait with the status that
   `GET /operations/{id}/wait` gives it, which is 500 for an operation that failed and that
   of the error otherwise. -/
def FailsAlike (call : Call) (waited : Wire) : Prop :=
  ∀ changed id, Presents changed id → ∀ exc, lxd.awaited id waited = .error (.lxd exc) →
    ∃ answer, (call.program lxd).run (changedThen changed fun _ => waited) =
        .error (.http answer) ∧
      ∀ project timeout, ∃ other,
        ((Call.waitOperation id project timeout).program lxd).run
            (changedThen changed fun _ => waited) = .error (.http other) ∧
          answer.statusCode = other.statusCode ∧ other.statusCode = waitStatus exc

/- What the wait may be given back for this: a reply that is accepted, or, where every
   exception is caught, a refused reply whose code or status is 500 or 0; and a URL that
   the HTTP client refuses, which is no failure of LXD. -/
def AlikeOn (call : Call) : Wire → Prop
  | .reply r =>
      (r.body = .empty ∨ ∃ envelope, r.envelope = some envelope ∧ envelope.isError = false) ∨
      call.catchesEverything = true ∧
        (∀ envelope, r.envelope = some envelope → envelope.isError = true →
          effectiveCode envelope r.statusCode = 500 ∨ effectiveCode envelope r.statusCode = 0) ∧
        (r.body ≠ .empty → r.envelope = none → r.statusCode = 500 ∨ r.statusCode = 0)
  | .httpError _ => False
  | .invalidUrl => True

theorem failsAlike_iff {call : Call} (waits : call.waits = true) (waited : Wire) :
    FailsAlike lxd call waited ↔ ∀ changed id, Presents changed id → ∀ exc,
      lxd.awaited id waited = .error (.lxd exc) →
        exc.type = .LXDOperationError ∨
          call.catchesEverything = true ∧ (lxdErrToHttp exc).statusCode = 500 := by
  constructor
  · intro alike changed id presents exc failed
    obtain ⟨answer, answered, others⟩ := alike changed id presents exc failed
    obtain ⟨project, run⟩ := waits_run lxd presents waits
    rw [run, failed] at answered
    obtain ⟨other, _, same, status⟩ := others none {}
    apply (caught_status_iff call exc).mp
    exact ⟨answer, by simpa [Except.map, Except.mapError] using answered, same.trans status⟩
  · intro known changed id presents exc failed
    obtain ⟨answer, caught, status⟩ :=
      (caught_status_iff call exc).mpr (known changed id presents exc failed)
    obtain ⟨project, run⟩ := waits_run lxd presents waits
    refine ⟨answer, ?_, ?_⟩
    · rw [run, failed]
      simp only [Except.map, Except.mapError, caught]
    · intro project timeout
      obtain ⟨other, mapped, status'⟩ := waitOperation_status exc
      refine ⟨other, ?_, status.trans status'.symm, status'⟩
      rw [waitOperation_run, failed]
      simp only [Except.map, Except.mapError, mapped]

theorem refused_type {r : HttpReply} {exc : LXDError} (refused : normalize r = .error exc) :
    exc.type ≠ .LXDOperationError := by
  rcases refused_cases refused with ⟨envelope, _, _, same⟩ | ⟨_, _, same⟩
  · rw [same]
    exact lxdErrorForStatus_type _ _
  · rw [same]
    simp [nonJsonError]

theorem refused_status_iff {r : HttpReply} {exc : LXDError} (refused : normalize r = .error exc) :
    (lxdErrToHttp exc).statusCode = 500 ↔
      (∀ envelope, r.envelope = some envelope → envelope.isError = true →
        effectiveCode envelope r.statusCode = 500 ∨ effectiveCode envelope r.statusCode = 0) ∧
      (r.body ≠ .empty → r.envelope = none → r.statusCode = 500 ∨ r.statusCode = 0) := by
  rcases refused_cases refused with ⟨envelope, parsed, isError, same⟩ | ⟨some, unparsed, same⟩
  · rw [same, lxdErrToHttp_forStatus]
    constructor
    · intro status
      constructor
      · intro other parsed' _
        rw [parsed] at parsed'
        cases parsed'
        split_ifs at status <;> omega
      · intro _ unparsed
        rw [parsed] at unparsed
        cases unparsed
    · intro codes
      have code := codes.1 envelope parsed isError
      split_ifs <;> omega
  · rw [same]
    simp only [lxdErrToHttp, nonJsonError, codeMap, Option.getD_none]
    constructor
    · intro status
      constructor
      · intro envelope parsed
        rw [unparsed] at parsed
        cases parsed
      · intro _ _
        split_ifs at status <;> omega
    · intro codes
      have code := codes.2 some unparsed
      split_ifs <;> omega

theorem waited_error_type {id : String} {value : Json} {exc : LXDError}
    (failed : waited id value = .error exc) : exc.type = .LXDOperationError := by
  unfold waited at failed
  split at failed
  · split at failed
    · cases failed
      rfl
    · cases failed
  · cases failed

theorem awaited_accepted {r : HttpReply} {value : Json} {id : String} {exc : LXDError}
    (normal : normalize r = .ok value)
    (failed : lxd.awaited id (.reply r) = .error (.lxd exc)) : exc.type = .LXDOperationError := by
  simp only [LXDClient.awaited, LXDClient.received, normal, Except.mapError, Except.bind] at failed
  cases ended : waited id value with
  | ok result =>
    rw [ended] at failed
    cases failed
  | error other =>
    rw [ended] at failed
    cases failed
    exact waited_error_type ended

theorem stateReply_presents : Presents (stateReply operationObject) "op" where
  named := by decide
  handed := by
    refine ⟨operationObject, (hands_iff _ _).mpr rfl, rfl, ?_⟩
    intro given
    cases given

theorem alikeOn_of_failsAlike {call : Call} (waits : call.waits = true) {waited : Wire}
    (alike : FailsAlike lxd call waited) : AlikeOn call waited := by
  have known := (failsAlike_iff lxd waits waited).mp alike
  have knownHere := known _ _ stateReply_presents
  cases waited with
  | invalidUrl => trivial
  | httpError text =>
    rcases knownHere _ rfl with operation | ⟨_, status⟩
    · cases operation
    · cases status
  | reply r =>
    cases normal : normalize r with
    | ok value =>
      left
      rcases (hands_iff _ _).mpr normal with ⟨empty, _⟩ | ⟨envelope, parsed, fine, _⟩
      · exact Or.inl empty
      · exact Or.inr ⟨envelope, parsed, fine⟩
    | error exc =>
      have failed : lxd.awaited "op" (.reply r) = .error (.lxd exc) := by
        simp only [LXDClient.awaited, LXDClient.received, normal, Except.mapError, Except.bind]
      rcases knownHere exc failed with operation | ⟨catches, status⟩
      · exact absurd operation (refused_type normal)
      · exact Or.inr ⟨catches, (refused_status_iff normal).mp status⟩

theorem failsAlike_of_alikeOn {call : Call} (waits : call.waits = true) {waited : Wire}
    (alike : AlikeOn call waited) : FailsAlike lxd call waited := by
  rw [failsAlike_iff lxd waits]
  intro changed id presents exc failed
  cases waited with
  | invalidUrl => cases failed
  | httpError text => exact alike.elim
  | reply r =>
    cases normal : normalize r with
    | ok value => exact Or.inl (awaited_accepted lxd normal failed)
    | error exc' =>
      simp only [LXDClient.awaited, LXDClient.received, normal, Except.mapError,
        Except.bind] at failed
      cases failed
      rcases alike with accepted | ⟨catches, codes⟩
      · obtain ⟨value, ok⟩ := returns_of_accepted accepted
        rw [normal] at ok
        cases ok
      · exact Or.inr ⟨catches, (refused_status_iff normal).mpr codes⟩

/- The four calls answer the failures of their wait with the status that
   `GET /operations/{id}/wait` gives them for exactly these replies to the wait. -/
theorem wait_failures_alike_iff (call : Call) (waits : call.waits = true) (waited : Wire) :
    FailsAlike lxd call waited ↔ AlikeOn call waited :=
  ⟨alikeOn_of_failsAlike lxd waits, failsAlike_of_alikeOn lxd waits⟩

end Failing

theorem failed_backup_alike :
    @FailsAlike plainPlatform ⟨{}⟩ (.createBackup "web1" [] none true)
      (.reply (waitReply "Failure")) :=
  (@wait_failures_alike_iff plainPlatform ⟨{}⟩ (.createBackup "web1" [] none true) rfl _).mpr
    (Or.inl (Or.inr ⟨_, rfl, rfl⟩))

/-- When the connection is lost during the wait, the state change lets the error of LXD
    escape, and the backup is answered with 500 where the wait route says 503. -/
theorem lost_connection_answered_differently :
    (∃ exc, (@Call.program plainPlatform ⟨{}⟩ stopInstance).run
      (changedThen (stateReply operationObject) fun _ => .httpError "ReadTimeout") =
        .error (.lxd exc)) ∧
    (∃ answer, (@Call.program plainPlatform ⟨{}⟩ (.createBackup "web1" [] none true)).run
      (changedThen (stateReply operationObject) fun _ => .httpError "ReadTimeout") =
        .error (.http answer) ∧ answer.statusCode = 500) ∧
    (∃ answer, (@Call.program plainPlatform ⟨{}⟩ (.waitOperation "op" none {})).run
      (changedThen (stateReply operationObject) fun _ => .httpError "ReadTimeout") =
        .error (.http answer) ∧ answer.statusCode = 503) ∧
    ¬ @FailsAlike plainPlatform ⟨{}⟩ stopInstance (.httpError "ReadTimeout") := by
  refine ⟨⟨_, rfl⟩, ⟨_, rfl, rfl⟩, ⟨_, rfl, rfl⟩, ?_⟩
  intro alike
  exact @alikeOn_of_failsAlike plainPlatform ⟨{}⟩ stopInstance rfl _ alike

end LxdApi

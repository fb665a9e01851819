import LxdApi.Library.Pool
import LxdApi.StartedOperations
import LxdApi.SessionSecrets

set_option autoImplicit false

/- How often a handler stops for LXD or for a socket before it ends. -/
namespace LxdApi
open Interaction Program OrderedMap Json

def Call.roundTrips : Call → Nat
  | .execWs .. | .consoleWs .. => 4
  | .operationsWs .. => 3
  | .attachVolume .. | .detachVolume .. | .attachNic .. | .detachNic .. => 2
  | other => if other.waits then 2 else 1

theorem costs_one_request {A : Type} (req : LXDRequest) (outcomeOf : Wire → Except Raised A) :
    (Program.call (.lxd req) fun wire => ofExcept (outcomeOf wire) : Handler A).Costs 1 := by
  apply costs_call Wire.invalidUrl
  · intro wire
    exact within_of_ended (ended_ofExcept _) 0
  · exact costs_of_ended (ended_ofExcept _)

theorem streaming_costs (lxd : LXDClient) (path : LXDPath) (params : Option Params)
    (mediaType disposition : String) :
    (streaming lxd path params mediaType disposition).Costs 1 := by
  rw [streaming_eq]
  exact costs_one_request _ _

theorem sendAndClose_costs (text : String) : (sendAndClose text).Costs 2 :=
  costs_call () (fun _ => fun _ => trivial)
    (costs_call () (fun _ => trivial) (costs_of_ended trivial))

theorem relay_costs (url : WsUrl) (report : String → String) : (relay url report).Costs 3 := by
  apply costs_call (Except.error "")
  · intro connected
    cases connected with
    | ok _ => trivial
    | error exc => exact (sendAndClose_costs _).within
  · exact sendAndClose_costs _

section Costs
variable [Platform] (lxd : LXDClient)

theorem single_costs (method : Method) (path : LXDPath) (body : RequestBody)
    (params : Option Params) (finish : Finish) :
    (single lxd method path body params finish).Costs 1 := by
  rw [single_eq]
  exact costs_one_request _ _

theorem healthDeep_costs : (healthDeep lxd).Costs 1 := by
  rw [healthDeep_eq]
  apply costs_call Wire.invalidUrl
  · intro wire
    refine within_of_ended ?_ 0
    split
    · trivial
    · split <;> trivial
    · trivial
  · exact costs_of_ended trivial

theorem waitOperation_costs (operationId : String) (project : Option String)
    (timeout : WaitTimeout) : (waitOperation lxd operationId project timeout).Costs 1 := by
  rw [waitOperation_eq]
  exact costs_one_request _ _

theorem waiting_costs (method : Method) (path : LXDPath) (body : RequestBody)
    (project : Option String) (caught : Raised → Raised) :
    (mutatingOrWaiting lxd method path body project true caught).Costs 2 := by
  rw [mutatingOrWaiting_eq]
  apply costs_call (Wire.reply (deletedReply (.str "op")))
  · intro wire
    split
    · trivial
    · split
      · exact (costs_one_request _ _).within
      · trivial
  · exact costs_one_request _ _

theorem mutatingOrWaiting_costs (method : Method) (path : LXDPath) (body : RequestBody)
    (project : Option String) (wait : Bool) (caught : Raised → Raised) :
    (mutatingOrWaiting lxd method path body project wait caught).Costs (if wait then 2 else 1) := by
  cases wait with
  | false =>
    rw [mutatingOrWaiting_of_not_wait]
    exact single_costs lxd _ _ _ _ _
  | true => exact waiting_costs lxd _ _ _ _ _

theorem patchDevices_costs (instance' : String) (project : Option String) (edit : DeviceEdit) :
    (patchDevices lxd instance' project edit).Costs 2 := by
  rw [patchDevices_eq]
  apply costs_call bareInstance
  · intro wire
    split
    · trivial
    · exact (costs_one_request _ _).within
  · exact costs_one_request _ _

theorem sessionAfter_within (failure : String) (secret : Dict → Json)
    (received : Except Raised Json) : (sessionAfter failure secret received).Within 3 := by
  unfold sessionAfter
  split
  · unfold proxyExecWs
    split
    · split
      · exact (relay_costs _ _).within
      · trivial
    · exact (sendAndClose_costs _).within_of_le (by decide)
  · exact (sendAndClose_costs _).within_of_le (by decide)
  · trivial

def openedSession : HttpReply :=
  sessionStarted [("metadata", .obj [("0", .str "data"), ("1", .str "data")])]

theorem session_costs {call : Call} {look : Dict → Json}
    (session : call.sessionSecret? = some look)
    (found : look [("0", .str "data"), ("1", .str "data")] = .str "data") :
    (call.program lxd).Costs 4 := by
  obtain ⟨req, failure, program⟩ := session_program lxd session
  rw [program]
  apply costs_call (Wire.reply openedSession)
  · intro wire
    exact sessionAfter_within failure look _
  · have relays : sessionAfter failure look (lxd.received (.reply openedSession)) =
        proxyExecWs (.str "op") (look [("0", .str "data"), ("1", .str "data")]) := rfl
    rw [relays, found, proxyExecWs_text (by decide)]
    exact relay_costs _ _

theorem handler_costs (call : Call) : (call.program lxd).Costs call.roundTrips := by
  cases call
  case execWs => exact session_costs lxd rfl rfl
  case consoleWs => exact session_costs lxd rfl rfl
  case operationsWs => exact relay_costs _ _
  case healthDeep => exact healthDeep_costs lxd
  case waitOperation => exact waitOperation_costs lxd _ _ _
  case setInstanceState => exact mutatingOrWaiting_costs lxd _ _ _ _ _ _
  case createSnapshot => exact mutatingOrWaiting_costs lxd _ _ _ _ _ _
  case restoreSnapshot => exact mutatingOrWaiting_costs lxd _ _ _ _ _ _
  case createBackup => exact mutatingOrWaiting_costs lxd _ _ _ _ _ _
  all_goals
    first
      | exact single_costs lxd _ _ _ _ _
      | exact streaming_costs lxd _ _ _ _
      | exact patchDevices_costs lxd _ _ _

/-- Every handler ends, or leaves an open relay, within its round trips, whatever it is
    answered, and some answers leave it no fewer. -/
theorem handler_ends_within_iff (call : Call) (n : Nat) :
    (call.program lxd).Within n ↔ call.roundTrips ≤ n :=
  handler_costs lxd call n

end Costs
end LxdApi

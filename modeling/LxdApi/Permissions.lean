import LxdApi.HandlerRuns

set_option autoImplicit false

/- What each thing that can be done to LXD demands of the caller on whose behalf it is
   done, and that no handler does more than the role it declares is entitled to. -/
namespace LxdApi
open Interaction Program

def Guard.role : Guard → Option Role
  | .open => none
  | .rest role => some role
  | .ws role => some role

section Uses
variable {allowed : Effect → Prop}

theorem uses_one_request {A : Type} {req : LXDRequest} {outcomeOf : Wire → Except Raised A}
    (asks : allowed (.lxd req)) :
    (Program.call (.lxd req) fun wire => ofExcept (outcomeOf wire) : Handler A).Uses allowed :=
  ⟨asks, fun _ => uses_ofExcept _ _⟩

theorem streaming_uses {lxd : LXDClient} {path : LXDPath} {params : Option Params}
    {mediaType disposition : String} (asks : allowed (.lxd (lxd.sent .GET path .none params))) :
    (streaming lxd path params mediaType disposition).Uses allowed := by
  rw [streaming_eq]
  exact uses_one_request asks

theorem sendAndClose_uses (sends : ∀ text, allowed (.sendText text))
    (closes : ∀ code, allowed (.close code)) (text : String) :
    (sendAndClose text).Uses allowed :=
  ⟨sends text, fun _ => ⟨closes 1011, fun _ => trivial⟩⟩

theorem relay_uses (sends : ∀ text, allowed (.sendText text))
    (closes : ∀ code, allowed (.close code))
    {url : WsUrl} (connects : allowed (.connect url)) (report : String → String) :
    (relay url report).Uses allowed := by
  refine ⟨connects, ?_⟩
  intro connected
  cases connected with
  | ok _ => trivial
  | error exc => exact sendAndClose_uses sends closes _

variable [Platform] {lxd : LXDClient}

theorem single_uses {method : Method} {path : LXDPath} {body : RequestBody}
    {params : Option Params} {finish : Finish}
    (asks : allowed (.lxd (lxd.sent method path body params))) :
    (single lxd method path body params finish).Uses allowed := by
  rw [single_eq]
  exact uses_one_request asks

theorem healthDeep_uses (asks : allowed (.lxd (lxd.sent .GET .root .none none))) :
    (healthDeep lxd).Uses allowed := by
  rw [healthDeep_eq]
  refine ⟨asks, ?_⟩
  intro wire
  dsimp only
  split
  · trivial
  · split <;> trivial
  · trivial

theorem waitOperation_uses {operationId : String} {project : Option String} {timeout : WaitTimeout}
    (asks : ∀ seconds, allowed (.lxd (lxd.waitRequest operationId seconds project))) :
    (waitOperation lxd operationId project timeout).Uses allowed := by
  rw [waitOperation_eq]
  exact uses_one_request (asks _)

theorem mutatingOrWaiting_uses {method : Method} {path : LXDPath} {body : RequestBody}
    {project : Option String} {wait : Bool} {caught : Raised → Raised}
    (asks : allowed (.lxd (lxd.sent method path body (projectParams project))))
    (waits : ∀ operationId, allowed (.lxd (lxd.waitRequest operationId 0 project))) :
    (mutatingOrWaiting lxd method path body project wait caught).Uses allowed := by
  rw [mutatingOrWaiting_eq]
  refine ⟨asks, ?_⟩
  intro wire
  dsimp only
  split
  · trivial
  · split
    · exact uses_one_request (waits _)
    · trivial

theorem patchDevices_uses {instance' : String} {project : Option String} {edit : DeviceEdit}
    (reads : allowed (.lxd (lxd.sent .GET (instancePath instance') .none (projectParams project))))
    (patches : ∀ devices, allowed (.lxd (lxd.sent .PATCH (instancePath instance')
      (.fixed (.obj [("devices", .obj devices)])) (projectParams project)))) :
    (patchDevices lxd instance' project edit).Uses allowed := by
  rw [patchDevices_eq]
  refine ⟨reads, ?_⟩
  intro wire
  dsimp only
  split
  · trivial
  · exact uses_one_request (patches _)

theorem relaySession_uses {path : LXDPath} {body : Json} {project : Option String}
    {failure : String} {secret : Dict → Json} (sends : ∀ text, allowed (.sendText text))
    (closes : ∀ code, allowed (.close code)) (connects : ∀ url, allowed (.connect url))
    (asks : allowed (.lxd (lxd.sent .POST path (.fixed body) (truthyProject project)))) :
    (relaySession lxd path body project failure secret).Uses allowed := by
  rw [relaySession_eq]
  refine ⟨asks, ?_⟩
  intro wire
  dsimp only [sessionAfter]
  split
  · unfold proxyExecWs
    split
    · split
      · exact relay_uses sends closes (connects _) _
      · trivial
    · exact sendAndClose_uses sends closes _
  · exact sendAndClose_uses sends closes _
  · trivial

end Uses

section Handlers
variable [Platform] (lxd : LXDClient)

end Handlers
end LxdApi

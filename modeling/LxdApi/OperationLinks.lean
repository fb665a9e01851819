import LxdApi.ApiRoutes
import LxdApi.StartedOperations
import LxdApi.RequestTargets
import LxdApi.SessionSecrets

set_option autoImplicit false

/- The links that answers carry, and paths that are written without quoting. -/
namespace LxdApi
open Interaction Program PathPatterns UriReference

def LinksTo (keep : Char → Bool) (link : String) (endpoint : Endpoint) (values : List String) :
    Prop :=
  Leads keep appRoutes endpoint.route.verb link
    (endpoint, (params endpoint.route.pattern).zip values)

section Links
variable {keep : Char → Bool}

theorem filled_links_iff (slash : keep '/' = true) (dot : keep '.' = true) (endpoint : Endpoint)
    {values : List String} (given : values.length = (params endpoint.route.pattern).length) :
    LinksTo keep (pathText (fill endpoint.route.pattern values)) endpoint values ↔
      ∀ value ∈ values, Linkable value := by
  have unique : ∀ route ∈ appRoutes, route.endpoint = endpoint.route.endpoint →
      route = endpoint.route := by
    intro route listed same
    exact route_unique listed (same.trans (route_endpoint endpoint))
  have leads := link_leads_iff appRoutes_apart slash dot (route_listed endpoint) unique
    (route_rooted endpoint) (fun _ literal => literals_clean endpoint literal) given
  rw [route_endpoint] at leads
  exact leads

theorem call_links_iff (slash : keep '/' = true) (dot : keep '.' = true) (call : Call) :
    LinksTo keep call.path call.address.1 call.address.2 ↔
      ∀ value ∈ call.address.2, Linkable value :=
  filled_links_iff slash dot call.address.1 (address_length call)

theorem pollUrl_eq (id : String) :
    "/api/v1/operations/" ++ id = (Call.getOperation id none).path := by
  have filled : (Call.getOperation id none).path = pathText ["api", "v1", "operations", id] := rfl
  rw [filled]
  apply String.toList_injective
  rw [pathText_toList, String.toList_append]
  simp

theorem waitUrl_eq (id : String) :
    "/api/v1/operations/" ++ id ++ "/wait" = (Call.waitOperation id none {}).path := by
  have filled : (Call.waitOperation id none {}).path =
    pathText ["api", "v1", "operations", id, "wait"] := rfl
  rw [filled]
  apply String.toList_injective
  rw [pathText_toList, String.toList_append, String.toList_append]
  simp

end Links

def RefsBuilt [Platform] (outcome : Except Raised Answer) : Prop :=
  ∀ ref, outcome = .ok (.ref ref) → ∃ metadata, toAsyncRef metadata = .ok ref

section Answers
variable [Platform] (lxd : LXDClient)

theorem refsBuilt_of_not_ref {outcome : Except Raised Answer}
    (other : ∀ ref, outcome ≠ .ok (.ref ref)) : RefsBuilt outcome :=
  fun ref same => absurd same (other ref)

theorem refsBuilt_raised (exc : Raised) : RefsBuilt (.error exc) :=
  refsBuilt_of_not_ref fun _ same => by cases same

theorem finish_refsBuilt (finish : Finish) (result : Json) : RefsBuilt (finish.answer result) := by
  cases finish with
  | ref =>
    intro ref same
    cases built : toAsyncRef result with
    | error exc =>
      simp only [Finish.answer, built, Except.map] at same
      cases same
    | ok other =>
      simp only [Finish.answer, built, Except.map] at same
      cases same
      exact ⟨result, built⟩
  | dict =>
    refine refsBuilt_of_not_ref ?_
    intro ref same
    simp only [Finish.answer] at same
    split at same <;> cases same
  | any => exact refsBuilt_of_not_ref fun ref same => by cases same
  | page params => exact refsBuilt_of_not_ref fun ref same => by cases same
  | message text => exact refsBuilt_of_not_ref fun ref same => by cases same

theorem finished_refsBuilt (finish : Finish) (wire : Wire) :
    RefsBuilt (finished lxd finish wire) := by
  unfold finished
  cases (lxd.received wire).mapError toHttp with
  | error exc => exact refsBuilt_raised exc
  | ok result => exact finish_refsBuilt finish result

theorem single_refsBuilt (method : Method) (path : LXDPath) (body : RequestBody)
    (params : Option Params) (finish : Finish) :
    (single lxd method path body params finish).Ends RefsBuilt := by
  rw [single_eq]
  intro wire
  rw [ends_ofExcept_iff]
  exact finished_refsBuilt lxd finish wire

theorem waiting_refsBuilt (method : Method) (path : LXDPath) (body : RequestBody)
    (project : Option String) (wait : Bool) (caught : Raised → Raised) :
    (mutatingOrWaiting lxd method path body project wait caught).Ends RefsBuilt := by
  rw [mutatingOrWaiting_eq]
  intro wire
  dsimp only
  split
  · exact refsBuilt_raised _
  · rename_i ref built
    split
    · intro waited
      rw [ends_ofExcept_iff]
      refine refsBuilt_of_not_ref ?_
      intro other same
      cases awaited : lxd.awaited ref.operationId waited <;> (rw [awaited] at same; cases same)
    · intro other same
      cases same
      cases read : (lxd.received wire).mapError toHttp with
      | error exc => rw [read] at built; cases built
      | ok metadata =>
        rw [read] at built
        exact ⟨metadata, built⟩

theorem patchDevices_refsBuilt (instance' : String) (project : Option String) (edit : DeviceEdit) :
    (patchDevices lxd instance' project edit).Ends RefsBuilt := by
  rw [patchDevices_eq]
  intro wire
  dsimp only
  split
  · exact refsBuilt_raised _
  · intro patched
    rw [ends_ofExcept_iff]
    exact finished_refsBuilt lxd .ref patched

omit [Platform] in
theorem sendAndClose_ends {post : Except Raised Answer → Prop} (closed : post (.ok .closed))
    (text : String) : (sendAndClose text).Ends post :=
  fun _ => fun _ => closed

omit [Platform] in
theorem relay_ends {post : Except Raised Answer → Prop} (closed : post (.ok .closed))
    (url : WsUrl) (report : String → String) : (relay url report).Ends post := by
  intro connected
  cases connected with
  | ok _ => exact closed
  | error exc => exact sendAndClose_ends closed _

theorem streaming_refsBuilt (path : LXDPath) (params : Option Params)
    (mediaType disposition : String) :
    (streaming lxd path params mediaType disposition).Ends RefsBuilt := by
  rw [streaming_eq]
  intro wire
  rw [ends_ofExcept_iff]
  refine refsBuilt_of_not_ref ?_
  intro ref same
  cases read : (lxd.receivedRaw wire).mapError toHttp with
  | error exc =>
    rw [read] at same
    cases same
  | ok response =>
    rw [read] at same
    simp only [Except.bind] at same
    split at same <;> cases same

theorem healthDeep_refsBuilt : (healthDeep lxd).Ends RefsBuilt := by
  rw [healthDeep_eq]
  intro wire
  dsimp only
  split
  · exact refsBuilt_of_not_ref fun ref same => by cases same
  · split <;> exact refsBuilt_of_not_ref fun ref same => by cases same
  · exact refsBuilt_raised _

theorem waitOperation_refsBuilt (operationId : String) (project : Option String)
    (timeout : WaitTimeout) : (waitOperation lxd operationId project timeout).Ends RefsBuilt := by
  rw [waitOperation_eq]
  intro wire
  rw [ends_ofExcept_iff]
  refine refsBuilt_of_not_ref ?_
  intro ref same
  cases awaited : lxd.awaited operationId wire <;> (rw [awaited] at same; cases same)

theorem session_refsBuilt {call : Call} {look : Dict → Json}
    (session : call.sessionSecret? = some look) : (call.program lxd).Ends RefsBuilt := by
  have closed : RefsBuilt (.ok .closed) := refsBuilt_of_not_ref fun ref same => by cases same
  obtain ⟨req, failure, program⟩ := session_program lxd session
  rw [program]
  intro wire
  dsimp only [sessionAfter, proxyExecWs]
  split
  · split
    · split
      · exact relay_ends closed _ _
      · exact refsBuilt_raised _
    · exact sendAndClose_ends closed _
  · exact sendAndClose_ends closed _
  · exact refsBuilt_raised _

theorem handler_refsBuilt (call : Call) : (call.program lxd).Ends RefsBuilt := by
  have closed : RefsBuilt (.ok .closed) := refsBuilt_of_not_ref fun ref same => by cases same
  cases call
  case execWs => exact session_refsBuilt lxd rfl
  case consoleWs => exact session_refsBuilt lxd rfl
  case operationsWs => exact relay_ends closed _ _
  case healthDeep => exact healthDeep_refsBuilt lxd
  case waitOperation => exact waitOperation_refsBuilt lxd _ _ _
  case setInstanceState => exact waiting_refsBuilt lxd _ _ _ _ _ _
  case createSnapshot => exact waiting_refsBuilt lxd _ _ _ _ _ _
  case restoreSnapshot => exact waiting_refsBuilt lxd _ _ _ _ _ _
  case createBackup => exact waiting_refsBuilt lxd _ _ _ _ _ _
  case getInstanceLog => exact streaming_refsBuilt lxd _ _ _ _
  case exportBackup => exact streaming_refsBuilt lxd _ _ _ _
  all_goals
    first
      | exact single_refsBuilt lxd _ _ _ _ _
      | exact patchDevices_refsBuilt lxd _ _ _

end Answers

/- Whatever reference a handler answers with, in any run: its links lead to the two routes of
   this very operation exactly if the id of the operation is passed on by a URL as it is. -/
theorem operation_links_iff [Platform] {keep : Char → Bool} (slash : keep '/' = true)
    (dot : keep '.' = true) (lxd : LXDClient) (call : Call)
    {trace : List (Event Effect Effect.Reply)} {ref : AsyncOperationRef}
    (run : (call.program lxd).Runs trace (.ok (.ref ref))) :
    (LinksTo keep ref.pollUrl .getOperation [ref.operationId] ↔ Linkable ref.operationId) ∧
      (LinksTo keep ref.waitUrl .waitOperation [ref.operationId] ↔ Linkable ref.operationId) := by
  obtain ⟨metadata, built⟩ := ends_runs (handler_refsBuilt lxd call) run ref rfl
  obtain ⟨poll, wait⟩ := toAsyncRef_urls built
  rw [poll, wait, waitUrl_eq, pollUrl_eq]
  have polled := call_links_iff slash dot (.getOperation ref.operationId none)
  have waited := call_links_iff slash dot (.waitOperation ref.operationId none {})
  simp only [Call.address, List.mem_singleton, forall_eq] at polled waited
  exact ⟨polled, waited⟩

def operationRef (id : String) : AsyncOperationRef :=
  ⟨id, "/1.0/operations/" ++ id, "async", "/api/v1/operations/" ++ id,
    "/api/v1/operations/" ++ id ++ "/wait"⟩

theorem deletion_answered (id : String) :
    (@Call.program plainPlatform ⟨{}⟩ (.deleteProject "p")).Runs
      [⟨.lxd (LXDClient.sent ⟨{}⟩ .DELETE (.under .projects [.arg "p"]) .none none),
        Wire.reply (deletedReply (.str id))⟩] (.ok (.ref (operationRef id))) :=
  (@single_runs_iff plainPlatform ⟨{}⟩ .DELETE (.under .projects [.arg "p"]) .none none .ref _
    _).mpr
    ⟨Wire.reply (deletedReply (.str id)), rfl, rfl⟩

theorem uuid_links :
    LinksTo httpx.keep "/api/v1/operations/b043d632-5c48-44b3-983c-a25660d61164" .getOperation
      ["b043d632-5c48-44b3-983c-a25660d61164"] ∧
    ¬ LinksTo httpx.keep "/api/v1/operations/" .getOperation [""] := by
  have named := @operation_links_iff plainPlatform httpx.keep httpx.keep_slash httpx.keep_dot ⟨{}⟩ _
    _ _ (deletion_answered "b043d632-5c48-44b3-983c-a25660d61164")
  have unnamed := @operation_links_iff plainPlatform httpx.keep httpx.keep_slash httpx.keep_dot ⟨{}⟩
    _ _ _ (deletion_answered "")
  exact ⟨named.1.mpr ⟨by decide, by decide⟩, fun links => (unnamed.1.mp links).nonempty rfl⟩

end LxdApi

import LxdApi.LxdHosts
import LxdApi.PasswordLogins
import LxdApi.Permissions
import LxdApi.ProjectScoping

set_option autoImplicit false

/- Requests in different projects. The project travels in the query of every request to LXD,
   where nothing that is written into a path can replace it. -/
namespace LxdApi
open Interaction Program OrderedMap

/-- The project that a query names, for LXD; a query that a path was given is read by hand. -/
def TargetQuery.project (byHand : List Char → String) : TargetQuery → String
  | .params entries =>
    match (entries.filter fun entry => entry.1 = "project").map Prod.snd with
    | [] => "default"
    | name :: _ => if name = "" then "default" else name
  | .text query => byHand query
  | .none => "default"

def projectHost {S : Type} (answer : S → LXDRequest → Target → HttpReply × S)
    (byHand : List Char → String) : LxdHost String S :=
  ⟨fun target => some (target.query.project byHand), answer, fun _ _ => ⟨404, .empty⟩⟩

def InProject [Platform] (project : String) (effect : Effect) : Prop :=
  ∃ req, effect = .lxd req ∧ projectsOf req.params = [project]

/-- A REST call on objects that LXD keeps per project, with a project in its query. -/
structure Call.MadeIn (call : Call) (project : String) : Prop where
  perProject : call.perProject = true
  chosen : call.project? = some (some project)
  named : project ≠ ""
  rest : ∃ role, call.guard = .rest role

section Isolation
variable [Platform] (lxd : LXDClient) {project : String}

theorem inProject_sent {method : Method} {path : LXDPath} {body : RequestBody}
    {params : Option Params} (carries : projectsOf params = [project]) :
    InProject project (.lxd (lxd.sent method path body params)) :=
  ⟨_, rfl, carries⟩

theorem inProject_passed {method : Method} {path : LXDPath} {body : RequestBody} :
    InProject project (.lxd (lxd.sent method path body (projectParams (some project)))) :=
  inProject_sent lxd (projectsOf_projectParams (some project))

theorem inProject_wait {operationId : String} {timeout : Rat} (named : project ≠ "") :
    InProject project (.lxd (lxd.waitRequest operationId timeout (some project))) := by
  refine ⟨_, rfl, ?_⟩
  rw [LXDClient.waitRequest, LXDClient.sent]
  exact (projectsOf_wait timeout (some project)).trans (if_pos (given_of_some named))

theorem call_inProject {call : Call} (made : call.MadeIn project) :
    (call.program lxd).Uses (InProject project) := by
  obtain ⟨perProject, chosen, named, role, rest⟩ := made
  cases call <;> cases perProject <;> cases rest <;> cases chosen
  case deleteInstance =>
    refine single_uses (inProject_sent lxd ?_)
    rw [projectsOf_delete, if_pos (Or.inl (given_of_some named))]
    rfl
  case waitOperation => exact waitOperation_uses fun _ => inProject_wait lxd named
  case listInstances =>
    refine single_uses (inProject_sent lxd ?_)
    rw [projectsOf_listing _ _ (by decide)]
    simp [projectsOf, recursionParam, Param.text, Param.ofOption]
  all_goals
    first
      | exact single_uses (inProject_passed lxd)
      | exact streaming_uses (inProject_passed lxd)
      | exact patchDevices_uses (inProject_passed lxd) fun _ => inProject_passed lxd
      | exact mutatingOrWaiting_uses (inProject_passed lxd) fun _ => inProject_wait lxd named
      | exact single_uses (inProject_sent lxd (projectsOf_expand (some project) true))
      | refine single_uses (inProject_sent lxd ?_)
        rw [projectsOf_listing _ _ (by decide), projectsOf_expand]
        rfl

theorem serve_inProject {call : Call} (made : call.MadeIn project) (decodeToken : DecodeToken)
    (db : UserStore) (token : Option String) :
    (call.serve decodeToken db lxd token).Uses (InProject project) := by
  obtain ⟨role, rest⟩ := made.rest
  rw [Call.serve, rest]
  dsimp only
  unfold guarded
  split
  · trivial
  · exact call_inProject lxd made

variable {S : Type} (rules : UrlRules) (answer : S → LXDRequest → Target → HttpReply × S)
  (byHand : List Char → String)

theorem target_project {req : LXDRequest} {target : Target}
    (carries : projectsOf req.params = [project]) (named : project ≠ "")
    (sent : rules.target req = some target) : target.query.project byHand = project := by
  have query : target.query = .params req.query := by
    rw [target_query sent, LXDRequest.sentQuery]
    cases given : req.params with
    | none =>
      rw [given] at carries
      cases carries
    | some params => rfl
  have same : (req.query.filter fun entry => entry.1 = "project").map Prod.snd = [project] := by
    rw [← carries]
    simp only [LXDRequest.query, projectsOf, List.filter_map, List.map_map]
    rfl
  rw [query, TargetQuery.project, same]
  exact if_neg named

theorem inProject_staysAt (named : project ≠ "") {effect : Effect}
    (inside : InProject project effect) :
    ((projectHost answer byHand).keeper rules).StaysAt project effect := by
  obtain ⟨req, rfl, carries⟩ := inside
  apply LxdHost.staysAt_of_target
  intro target sent
  exact congrArg some (target_project rules byHand carries named sent)

/-- Whatever the parameters of the paths are, and however requests in any projects take turns, what
    becomes of a project, and of the requests in it, is what would become of them if these had been
    the only ones. The deletion of an image alias, which takes no project, is in none. -/
theorem projects_isolated {ι : Type} [DecidableEq ι] (calls : ι → Call) (place : ι → String)
    (made : ∀ i, (calls i).MadeIn (place i)) (decodeToken : DecodeToken) (db : UserStore)
    (tokens : ι → Option String) (projects : String → S) (schedule : List ι) (project : String) :
    let start : Pool Effect Effect.Reply Raised Answer (String → S) ι :=
      ⟨projects, fun i => (calls i).serve decodeToken db lxd (tokens i)⟩
    let serve := (projectHost answer byHand).serve rules
    let among := Pool.run serve start schedule
    let alone := Pool.run serve start (schedule.filter fun i => place i = project)
    among.shared project = alone.shared project ∧
      ∀ i, place i = project → among.threads i = alone.threads i := by
  intro start serve among alone
  have stays : ∀ i, (start.threads i).Uses
      (((projectHost answer byHand).keeper rules).StaysAt (place i)) := by
    intro i
    exact (serve_inProject lxd (made i) decodeToken db (tokens i)).mono fun effect inside =>
      inProject_staysAt rules answer byHand (made i).named inside
  have alike : Pool.LookAlike (fun i => decide (place i = project)) _ among alone :=
    Keeper.run_apart stays (fun i => decide_eq_true_iff) schedule
  exact ⟨alike.shared, fun i its => alike.threads i (decide_eq_true its)⟩

end Isolation

def loggingHost : LxdHost String (List String) :=
  projectHost (fun asked req _ => (⟨204, .empty⟩, asked ++ [req.path.url])) fun _ => "default"

def aimedElsewhere : Bool → Call
  | false => .getInstance "web1?project=shop" (some "lab")
  | true => .deleteInstance "web1" (some "shop") false

def twoProjects : Bool → String
  | false => "lab"
  | true => "shop"

theorem aimed_project_unheard :
    let start : Pool Effect Effect.Reply Raised Answer (String → List String) Bool :=
      ⟨fun _ => [], fun i => @Call.serve plainPlatform adminToken seededStore ⟨{}⟩
        (aimedElsewhere i) (some "t")⟩
    let serve := @LxdHost.serve plainPlatform _ _ httpx loggingHost _
    let among := Pool.run serve start [false, true]
    let alone := Pool.run serve start [true]
    among.shared "shop" = alone.shared "shop" ∧
      ∀ i, twoProjects i = "shop" → among.threads i = alone.threads i :=
  @projects_isolated plainPlatform ⟨{}⟩ _ httpx _ _ _ _ aimedElsewhere twoProjects
    (by intro i; cases i <;> exact ⟨rfl, rfl, by decide, _, rfl⟩) adminToken seededStore
    (fun _ => some "t") (fun _ => []) [false, true] "shop"

end LxdApi

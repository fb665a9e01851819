import LxdApi.RequestTargets
import LxdApi.WsUrls

set_option autoImplicit false

/- The project of the client and the `project` key of the requests to LXD. A
   project is selected by `?project=` or by the `X-LXD-Project` header; an empty
   value selects none, as `_build_params` reads it. -/
namespace LxdApi
open Interaction Program OrderedMap Json UriReference

def Given (value : Option String) : Prop := ∃ p, value = some p ∧ p ≠ ""

instance (value : Option String) : Decidable (Given value) :=
  match value with
  | none => isFalse (by simp [Given])
  | some p => decidable_of_iff (p ≠ "") (by simp [Given])

def selectedProject (query header : Option String) : Option String :=
  if Given query then query else if Given header then header else none

theorem buildParams_eq (recursion : Option Int) (filterExpr project : Option String) :
    LXDClient.buildParams recursion filterExpr project [] =
      update (update (recursion.elim [] fun n => [("recursion", .int n)])
        (givenParam "filter" filterExpr)) (givenParam "project" project) := by
  unfold LXDClient.buildParams givenParam
  cases recursion <;> cases filterExpr <;> cases project
  all_goals simp only [update_nil, Option.elim_none, Option.elim_some, set_nil]
  all_goals split_ifs <;> rfl

def encoded (text : String) : List UInt8 := octets text.toList

/-- The values under `project` in a query, in octets as they are decoded. -/
def TargetQuery.projects : TargetQuery → List (List UInt8)
  | .params entries =>
      (entries.filter fun entry => entry.1 = "project").map fun entry => encoded entry.2
  | .text query =>
      ((parameters query).filter fun field => field.1 = encoded "project").map Prod.snd
  | .none => []

/-- A base URL that ends before the path. -/
structure BareBase (settings : LxdSettings) : Prop where
  query : '?' ∉ wsBase settings
  fragment : '#' ∉ wsBase settings

section Scoping
variable [Platform]

/-- The query that `_build_params` builds for a project. -/
def builtQuery (project : Option String) : TargetQuery :=
  .params ((LXDClient.buildParams none none project []).map fun entry => (entry.1, entry.2.text))

/- What reaches LXD has the projects in its query that `_build_params` would put there:
   the selected one, or none. Of a subscription this is asked where its path keeps to the
   segments of its template, as it does for the ids that LXD gives its operations. -/
def Scoped (project : Option String) (e : Effect) : Prop :=
  match e with
  | .lxd req => req.sentQuery.projects = (builtQuery project).projects
  | .connect url => ∀ settings, BareBase settings → url.path.Sound →
      (ownQuery (url.text settings)).projects = (builtQuery project).projects
  | _ => True

end Scoping

def LXDPath.Writes (path : LXDPath) (project : Option String) : Prop :=
  (ownQuery path.url.toList).projects = project.toList.map encoded

def Call.perProject : Call → Bool
  | .listPools .. | .createPool .. | .getPool .. | .updatePool .. | .patchPool ..
  | .deletePool .. | .listProjects .. | .createProject .. | .getProject ..
  | .updateProject .. | .patchProject .. | .deleteProject .. | .healthDeep
  | .serverInfo .. | .hostResources .. | .poolResources .. => false
  | _ => true

/- The value of `?project=` that a handler is given; one handler takes none. -/
def Call.project? : Call → Option (Option String)
  | .listInstances _ project _ _ _ | .createInstance _ project | .getInstance _ project
  | .replaceInstance _ _ project | .patchInstance _ _ project | .deleteInstance _ project _
  | .getInstanceState _ project | .setInstanceState _ _ project _
  | .listInstanceLogs _ project | .getInstanceLog _ _ project | .execInstance _ _ project
  | .execWs _ _ project | .consoleWs _ _ project | .listSnapshots _ project _
  | .createSnapshot _ _ project _ | .getSnapshot _ _ project | .renameSnapshot _ _ _ project
  | .deleteSnapshot _ _ project | .restoreSnapshot _ _ project _ | .listBackups _ project _
  | .createBackup _ _ project _ | .getBackup _ _ project | .deleteBackup _ _ project
  | .exportBackup _ _ project | .listPools project _ _ | .createPool _ project
  | .getPool _ project | .updatePool _ _ project | .patchPool _ _ project
  | .deletePool _ project | .listVolumes _ project _ _ _ | .createVolume _ _ project
  | .getVolume _ _ _ project | .updateVolume _ _ _ _ project | .patchVolume _ _ _ _ project
  | .deleteVolume _ _ _ project | .attachVolume _ _ _ project | .detachVolume _ _ _ project
  | .listNetworks project _ _ | .createNetwork _ project | .getNetwork _ project
  | .updateNetwork _ _ project | .patchNetwork _ _ project | .deleteNetwork _ project
  | .getNetworkState _ project | .attachNic _ _ _ _ project | .detachNic _ _ _ project
  | .listImages project _ _ _ | .getImage _ project | .deleteImage _ project
  | .createImage _ project | .createAlias _ project | .listOperations project _
  | .getOperation _ project | .cancelOperation _ project | .waitOperation _ project _
  | .operationsWs project | .serverInfo project | .hostResources project
  | .poolResources _ project => some project
  | .listProjects .. | .createProject .. | .getProject .. | .updateProject ..
  | .patchProject .. | .deleteProject .. | .deleteAlias .. | .healthDeep => none

/- When a handler scopes its requests as the client asked. Most pass the query
   value on whether it is given or not, and none looks at the header. A request
   without params is sent with whatever query its path was given. -/
def Call.ScopedWhen (call : Call) (query header : Option String) : Prop :=
  match call with
  | .deleteInstance name _ force => Given query ∨
      (force = false ∧ (instancePath name).Writes (selectedProject query header))
  | .waitOperation operationId _ timeout => Given query ∨
      if 0 < timeout.seconds then ¬ Given header
      else (waitPath operationId).Writes (selectedProject query header)
  | .deleteAlias name =>
      (LXDPath.under .images [.lit .aliases, .arg name]).Writes (selectedProject query header)
  | .execWs name .. => (¬ Given query ∧ ¬ Given header) ∧
      (LXDPath.under .instances [.arg name, .lit .exec]).Writes none
  | .consoleWs name .. => (¬ Given query ∧ ¬ Given header) ∧
      (LXDPath.under .instances [.arg name, .lit .console]).Writes none
  | .operationsWs .. => ¬ Given query ∧ ¬ Given header
  | _ => Given query

theorem given_of_some {p : String} (some : p ≠ "") : Given (.some p) := ⟨p, rfl, some⟩

theorem blank_of_not_given {value : Option String} (blank : ¬ Given value) :
    value = none ∨ value = some "" := by
  cases value with
  | none => exact Or.inl rfl
  | some p =>
    by_cases empty : p = ""
    · exact Or.inr (by rw [empty])
    · exact absurd (given_of_some empty) blank

theorem selected_query {query header : Option String} (given : Given query) :
    selectedProject query header = query := if_pos given

theorem selected_header {query header : Option String} (blank : ¬ Given query)
    (given : Given header) : selectedProject query header = header := by
  unfold selectedProject
  rw [if_neg blank, if_pos given]

theorem selected_none {query header : Option String} (blank : ¬ Given query)
    (none : ¬ Given header) : selectedProject query header = .none := by
  unfold selectedProject
  rw [if_neg blank, if_neg none]

theorem none_selected_iff (query header : Option String) :
    selectedProject query header = none ↔ ¬ Given query ∧ ¬ Given header := by
  constructor
  · intro none
    have blank : ¬ Given query := by
      intro given
      rw [selected_query given] at none
      obtain ⟨p, same, _⟩ := given
      rw [same] at none
      cases none
    constructor
    · exact blank
    · intro given
      rw [selected_header blank given] at none
      obtain ⟨p, same, _⟩ := given
      rw [same] at none
      cases none
  · intro blank
    exact selected_none blank.1 blank.2

theorem unscoped_iff (query header : Option String) :
    [] = (selectedProject query header).toList ↔ ¬ Given query ∧ ¬ Given header := by
  rw [← none_selected_iff]
  cases selectedProject query header <;> simp

theorem selected_again (query header : Option String) :
    selectedProject (selectedProject query header) none = selectedProject query header := by
  have empty : ¬ Given none := by simp [Given]
  by_cases given : Given query
  · rw [selected_query given, selected_query given]
  · by_cases other : Given header
    · rw [selected_header given other, selected_query other]
    · rw [selected_none given other, selected_none empty empty]

theorem encoded_injective : Function.Injective encoded :=
  fun _ _ same => String.toList_injective (octets_injective same)

section Scoping
variable [Platform]

def projectsOf (params : Option Params) : List String :=
  ((params.getD []).filter fun entry => entry.1 = "project").map fun entry => entry.2.text

theorem params_projects (params : Params) :
    (TargetQuery.params (params.map fun entry => (entry.1, entry.2.text))).projects =
      (projectsOf (some params)).map encoded := by
  simp only [TargetQuery.projects, projectsOf, Option.getD_some, List.filter_map, List.map_map]
  rfl

theorem passed_iff (query header : Option String) :
    [(Param.ofOption query).text] = (selectedProject query header).toList ↔ Given query := by
  constructor
  · intro same
    by_cases given : Given query
    · exact given
    · have text : (Param.ofOption query).text = "" := by
        rcases blank_of_not_given given with none | empty
        · rw [none]; rfl
        · rw [empty]; rfl
      rw [text] at same
      by_cases header' : Given header
      · obtain ⟨p, is, some⟩ := header'
        rw [selected_header given ⟨p, is, some⟩, is] at same
        exact absurd (List.singleton_inj.mp same).symm some
      · rw [selected_none given header'] at same
        cases same
  · intro given
    rw [selected_query given]
    obtain ⟨p, same, _⟩ := given
    rw [same]
    rfl

theorem projectsOf_projectParams (query : Option String) :
    projectsOf (projectParams query) = [(Param.ofOption query).text] := by
  simp [projectsOf, projectParams, orNone]

theorem projectsOf_wait (timeout : Rat) (query : Option String) :
    projectsOf (orNone (waitParams timeout query)) =
      if Given query then query.toList else [] := by
  have bounded : projectsOf (orNone (if 0 < timeout then [("timeout", .float timeout)] else [])) =
      [] := by
    split <;> simp [projectsOf, orNone]
  cases query with
  | none => simpa [waitParams, Given] using bounded
  | some p =>
    by_cases empty : p = ""
    · simpa [waitParams, Given, empty] using bounded
    · by_cases positive : 0 < timeout <;>
        simp [projectsOf, waitParams, orNone, Given, empty, positive, Param.text]

theorem projectsOf_delete (query : Option String) (force : Bool) :
    projectsOf (deleteParams query force) =
      if Given query ∨ force = true then [(Param.ofOption query).text] else [] := by
  have same : (∃ p ∈ query, p ≠ "") ↔ Given query := by
    simp [Given]
  unfold deleteParams
  simp only [same]
  split <;> simp [projectsOf]

theorem projectsOf_set (front : Params) {key : String} (value : Param)
    (other : key ≠ "project") :
    projectsOf (some (set front key value)) = projectsOf (some front) := by
  simp only [projectsOf, Option.getD_some, filter_set_of_ne _ _ other]

theorem projectsOf_listing (front : Params) {key : String} (value : Option String)
    (other : key ≠ "project") :
    projectsOf (some (update front (givenParam key value))) = projectsOf (some front) := by
  unfold givenParam
  split
  · split
    · rfl
    · exact projectsOf_set front _ other
  · rfl

theorem projectsOf_expand (query : Option String) (expand : Bool) :
    projectsOf (some [recursionParam expand, ("project", .ofOption query)]) =
      [(Param.ofOption query).text] := by
  simp [projectsOf, recursionParam]

theorem projectsOf_buildParams (recursion : Option Int) (filterExpr project : Option String) :
    projectsOf (some (LXDClient.buildParams recursion filterExpr project [])) =
      (selectedProject project none).toList := by
  have bare : projectsOf (some (update (recursion.elim [] fun n => [("recursion", .int n)])
      (givenParam "filter" filterExpr))) = [] := by
    rw [projectsOf_listing _ _ (by decide)]
    cases recursion <;> simp [projectsOf]
  rw [buildParams_eq]
  generalize update _ (givenParam "filter" filterExpr) = front at bare ⊢
  cases project with
  | none => simpa [givenParam, selectedProject, Given] using bare
  | some p =>
    by_cases empty : p = ""
    · simpa [givenParam, selectedProject, Given, empty] using bare
    · have absent : front.filter (fun entry => entry.1 = "project") = [] := by
        simpa [projectsOf] using bare
      simp [projectsOf, givenParam, selectedProject, Given, empty, update_cons,
        filter_set_of_absent _ _ absent, Param.text]

theorem built_projects (query header : Option String) :
    (builtQuery (selectedProject query header)).projects =
      (selectedProject query header).toList.map encoded := by
  rw [builtQuery, params_projects, projectsOf_buildParams, selected_again]

/-- Params decide alone what projects a request has; without any, its path does. -/
theorem scoped_sent_iff (lxd : LXDClient) (method : Method) (path : LXDPath)
    (body : RequestBody) (params : Option Params) (query header : Option String) :
    Scoped (selectedProject query header) (.lxd (lxd.sent method path body params)) ↔
      match params with
      | some _ => projectsOf params = (selectedProject query header).toList
      | none => path.Writes (selectedProject query header) := by
  rw [Scoped, built_projects]
  cases params with
  | none => exact Iff.rfl
  | some params =>
    have sent : (lxd.sent method path body (some params)).sentQuery.projects =
        (projectsOf (some params)).map encoded := params_projects params
    rw [sent]
    exact (List.map_injective_iff.mpr encoded_injective).eq_iff

theorem scoped_params_iff (lxd : LXDClient) (method : Method) (path : LXDPath)
    (body : RequestBody) (params : Params) (query header : Option String) :
    Scoped (selectedProject query header) (.lxd (lxd.sent method path body (some params))) ↔
      projectsOf (some params) = (selectedProject query header).toList :=
  scoped_sent_iff lxd method path body (some params) query header

theorem scoped_passed_iff (lxd : LXDClient) (method : Method) (path : LXDPath)
    (body : RequestBody) {params : Option Params} {query : Option String} (header : Option String)
    (passes : projectsOf params = [(Param.ofOption query).text]) :
    Scoped (selectedProject query header) (.lxd (lxd.sent method path body params)) ↔
      Given query := by
  cases params with
  | none => cases passes
  | some params => rw [scoped_params_iff, passes, passed_iff]

omit [Platform] in
theorem writes_of_plain {path : LXDPath} (plain : '?' ∉ path.url.toList)
    (project : Option String) : path.Writes project ↔ project = none := by
  rw [LXDPath.Writes, ownQuery, query_absent plain]
  cases project <;> simp [TargetQuery.projects]

def Call.barePath? : Call → Option LXDPath
  | .deleteInstance name .. => some (instancePath name)
  | .waitOperation operationId .. => some (waitPath operationId)
  | .deleteAlias name => some (.under .images [.lit .aliases, .arg name])
  | .execWs name .. => some (.under .instances [.arg name, .lit .exec])
  | .consoleWs name .. => some (.under .instances [.arg name, .lit .console])
  | _ => none

omit [Platform] in
/-- As long as nobody writes a `?` into these paths, the selection decides alone. -/
theorem scopedWhen_of_plain {call : Call} (query header : Option String)
    (plain : ∀ path, call.barePath? = some path → '?' ∉ path.url.toList) :
    call.ScopedWhen query header ↔
      match call with
      | .deleteInstance _ _ force => Given query ∨ (force = false ∧ ¬ Given header)
      | .waitOperation .. => Given query ∨ ¬ Given header
      | .deleteAlias .. | .execWs .. | .consoleWs .. | .operationsWs .. =>
          ¬ Given query ∧ ¬ Given header
      | _ => Given query := by
  cases call
  case deleteInstance name project force =>
    rw [Call.ScopedWhen, writes_of_plain (plain _ rfl), none_selected_iff]
    tauto
  case waitOperation operationId project timeout =>
    rw [Call.ScopedWhen, writes_of_plain (plain _ rfl), none_selected_iff]
    split <;> tauto
  case deleteAlias name =>
    exact (writes_of_plain (plain _ rfl) _).trans (none_selected_iff query header)
  case execWs => exact and_iff_left ((writes_of_plain (plain _ rfl) none).mpr rfl)
  case consoleWs => exact and_iff_left ((writes_of_plain (plain _ rfl) none).mpr rfl)
  all_goals exact Iff.rfl

section Handlers
variable (lxd : LXDClient) {query header : Option String}

theorem single_scoped_iff (method : Method) (path : LXDPath) (body : RequestBody)
    (params : Option Params) (finish : Finish) (project : Option String) :
    (single lxd method path body params finish).Uses (Scoped project) ↔
      Scoped project (.lxd (lxd.sent method path body params)) := by
  rw [single_eq, uses_call_iff]
  simp

theorem single_passes {method : Method} {path : LXDPath} {body : RequestBody}
    {params : Option Params} {finish : Finish}
    (passes : projectsOf params = [(Param.ofOption query).text]) :
    (single lxd method path body params finish).Uses
      (Scoped (selectedProject query header)) ↔ Given query := by
  rw [single_scoped_iff, scoped_passed_iff lxd _ _ _ _ passes]

theorem streaming_passes {path : LXDPath} {mediaType disposition : String} :
    (streaming lxd path (projectParams query) mediaType disposition).Uses
      (Scoped (selectedProject query header)) ↔ Given query := by
  rw [streaming_eq, uses_call_iff,
    scoped_passed_iff lxd _ _ _ _ (projectsOf_projectParams query)]
  simp

theorem waitRequest_scoped (operationId : String) (timeout : Rat) (given : Given query) :
    Scoped (selectedProject query header) (.lxd (lxd.waitRequest operationId timeout query)) := by
  have carries := projectsOf_wait timeout query
  rw [if_pos given] at carries
  rw [LXDClient.waitRequest, scoped_sent_iff]
  split
  · rw [carries, selected_query given]
  · rename_i missing
    obtain ⟨p, same, _⟩ := given
    rw [missing, same] at carries
    cases carries

theorem waitRequest_scoped_iff (operationId : String) (timeout : Rat) :
    Scoped (selectedProject query header) (.lxd (lxd.waitRequest operationId timeout query)) ↔
      Given query ∨ if 0 < timeout then ¬ Given header
        else (waitPath operationId).Writes (selectedProject query header) := by
  by_cases given : Given query
  · exact iff_of_true (waitRequest_scoped lxd operationId timeout given) (Or.inl given)
  · have carries := projectsOf_wait timeout query
    have bare : waitParams timeout query = if 0 < timeout then [("timeout", .float timeout)]
        else [] := by
      rcases blank_of_not_given given with none | empty
      · rw [none, waitParams]
      · rw [empty, waitParams, if_pos rfl]
    rw [if_neg given] at carries
    rw [or_iff_right given, LXDClient.waitRequest, scoped_sent_iff, carries, bare]
    split_ifs
    · simp only [orNone, List.isEmpty_cons, Bool.false_eq_true, if_false]
      rw [unscoped_iff]
      exact and_iff_right given
    · rfl

theorem mutatingOrWaiting_passes {method : Method} {path : LXDPath} {body : RequestBody}
    {wait : Bool} {caught : Raised → Raised} :
    (mutatingOrWaiting lxd method path body query wait caught).Uses
      (Scoped (selectedProject query header)) ↔ Given query := by
  rw [mutatingOrWaiting_eq, uses_call_iff,
    scoped_passed_iff lxd _ _ _ _ (projectsOf_projectParams query)]
  constructor
  · exact fun both => both.1
  · intro given
    constructor
    · exact given
    · intro wire
      split
      · trivial
      · split
        · exact ⟨waitRequest_scoped lxd _ _ given, fun _ => by simp⟩
        · trivial

theorem waitOperation_scoped_iff (operationId : String) (timeout : WaitTimeout) :
    (waitOperation lxd operationId query timeout).Uses
      (Scoped (selectedProject query header)) ↔ Given query ∨
        if 0 < timeout.seconds then ¬ Given header
        else (waitPath operationId).Writes (selectedProject query header) := by
  rw [waitOperation_eq, uses_call_iff, waitRequest_scoped_iff]
  by_cases bounded : 0 < timeout.seconds <;> simp [bounded]

theorem patchDevices_passes (instance' : String) (edit : DeviceEdit) :
    (patchDevices lxd instance' query edit).Uses
      (Scoped (selectedProject query header)) ↔ Given query := by
  rw [patchDevices_eq, uses_call_iff,
    scoped_passed_iff lxd _ _ _ _ (projectsOf_projectParams query)]
  constructor
  · exact fun both => both.1
  · intro given
    constructor
    · exact given
    · intro wire
      split
      · trivial
      · rw [uses_call_iff, scoped_passed_iff lxd _ _ _ _ (projectsOf_projectParams query)]
        simp [given]

theorem deleteInstance_scoped_iff (name : String) (force : Bool) :
    (deleteInstance lxd name query force).Uses (Scoped (selectedProject query header)) ↔
      Given query ∨
        (force = false ∧ (instancePath name).Writes (selectedProject query header)) := by
  unfold deleteInstance mutating
  by_cases sent : Given query ∨ force = true
  · rw [single_passes lxd ((projectsOf_delete query force).trans (if_pos sent))]
    rcases sent with given | forced
    · simp [given]
    · simp [forced]
  · have bare : deleteParams query force = none := by
      rw [deleteParams, if_neg]
      simpa [Given] using sent
    rw [not_or, Bool.not_eq_true] at sent
    rw [single_scoped_iff, bare, scoped_sent_iff, or_iff_right sent.1, and_iff_right sent.2]
    rfl

theorem sendAndClose_scoped (text : String) (project : Option String) :
    (sendAndClose text).Uses (Scoped project) :=
  ⟨trivial, fun _ => ⟨trivial, fun _ => trivial⟩⟩

omit [Platform] in
theorem secret_not_project (secret : Option String) :
    ((secretParameters secret).elim [] fun fields =>
      fields.filter fun field => field.1 = encoded "project") = [] := by
  have other : ¬ octets "secret".toList = encoded "project" := by decide
  unfold secretParameters
  split
  · split
    · rfl
    · simp only [Option.elim_some, List.filter_cons, other, decide_false, Bool.false_eq_true,
        if_false, List.filter_nil]
  · rfl

omit [Platform] in
theorem session_bare {url : WsUrl} (suffix : url.suffix = "") (settings : LxdSettings)
    (plain : BareBase settings) (sound : url.path.Sound) :
    (ownQuery (url.text settings)).projects = [] := by
  have query : '?' ∉ wsBase settings ++ url.path.url.toList := by
    simp [plain.query, sound_absent sound (by decide) fun _ clean => clean.query]
  have fragment : '#' ∉ wsBase settings ++ url.path.url.toList := by
    simp [plain.fragment, sound_absent sound (by decide) fun _ clean => clean.fragment]
  have text : url.text settings = wsBase settings ++ url.path.url.toList ++
      secretQuery url.secret := by
    rw [WsUrl.text, wsUrl_path, suffix]
    exact List.append_nil _
  have fields := (parts_secretQuery query fragment url.secret).2
  rw [text, ownQuery]
  have none := secret_not_project url.secret
  rw [← fields] at none
  split
  · rename_i own found
    rw [found, Option.map_some, Option.elim_some] at none
    rw [TargetQuery.projects, none, List.map_nil]
  · rfl

omit [Platform] in
theorem events_bare (settings : LxdSettings) (plain : BareBase settings) :
    (ownQuery (eventWsUrl settings)).projects = [] := by
  have query : '?' ∉ eventWsUrl settings := by
    rw [eventWsUrl_text, List.mem_append, not_or]
    exact ⟨plain.query, by decide⟩
  rw [ownQuery, query_absent query]
  rfl

theorem connect_scoped_iff {url : WsUrl} (sound : url.path.Sound)
    (bare : ∀ settings, BareBase settings → (ownQuery (url.text settings)).projects = []) :
    Scoped (selectedProject query header) (.connect url) ↔ ¬ Given query ∧ ¬ Given header := by
  have empty : [] = (selectedProject query header).toList.map encoded ↔
      ¬ Given query ∧ ¬ Given header := by
    rw [← unscoped_iff]
    cases selectedProject query header <;> simp
  rw [← empty, Scoped, built_projects]
  constructor
  · intro carried
    have unix : BareBase {} := ⟨by decide, by decide⟩
    rw [← bare _ unix, carried _ unix sound]
  · intro unselected settings plain _
    rw [bare settings plain, unselected]

theorem relay_scoped_iff {url : WsUrl} (report : String → String) (sound : url.path.Sound)
    (bare : ∀ settings, BareBase settings → (ownQuery (url.text settings)).projects = []) :
    (relay url report).Uses (Scoped (selectedProject query header)) ↔
      ¬ Given query ∧ ¬ Given header := by
  rw [relay, uses_call_iff, connect_scoped_iff sound bare]
  apply and_iff_left
  intro connected
  cases connected with
  | ok _ => trivial
  | error exc => exact sendAndClose_scoped _ _

def websocketPath (operationId : String) : LXDPath :=
  .under .operations [.arg operationId, .lit .websocket]

theorem session_relay_scoped (operationId secret : String) (report : String → String)
    (blank : ¬ Given query ∧ ¬ Given header) :
    (relay ⟨websocketPath operationId, some secret, ""⟩ report).Uses
      (Scoped (selectedProject query header)) := by
  by_cases sound : (websocketPath operationId).Sound
  · exact (relay_scoped_iff report sound fun settings plain =>
      session_bare rfl settings plain sound).mpr blank
  · rw [relay, uses_call_iff]
    constructor
    · intro settings _ clean
      exact absurd clean sound
    · intro connected
      cases connected with
      | ok _ => trivial
      | error exc => exact sendAndClose_scoped _ _

theorem sessionAfter_scoped (failure : String) (secret : Dict → Json)
    (received : Except Raised Json) (blank : ¬ Given query ∧ ¬ Given header) :
    (sessionAfter failure secret received).Uses (Scoped (selectedProject query header)) := by
  unfold sessionAfter
  split
  · unfold proxyExecWs
    split
    · split
      · exact session_relay_scoped _ _ _ blank
      · trivial
    · exact sendAndClose_scoped _ _
  · exact sendAndClose_scoped _ _
  · trivial

/- A session is scoped only where no project is selected: its request carries the
   project, the subscription that follows does not. -/
theorem relaySession_scoped_iff (path : LXDPath) (body : Json) (failure : String)
    (secret : Dict → Json)
    (opens : ∃ wire op id text, lxd.received wire = .ok op ∧ text ≠ "" ∧
      get? (opDict op) "id" = some (.str id) ∧ (websocketPath id).Sound ∧
      secret (secretsOf (opDict op)) = .str text) :
    (relaySession lxd path body query failure secret).Uses
      (Scoped (selectedProject query header)) ↔
        (¬ Given query ∧ ¬ Given header) ∧ path.Writes none := by
  have sent : ¬ Given query → truthyProject query = none := by
    intro blank
    rcases blank_of_not_given blank with none | empty
    · rw [none, truthyProject]
    · rw [empty, truthyProject, if_pos rfl]
  rw [relaySession_eq, uses_call_iff, scoped_sent_iff]
  constructor
  · intro both
    obtain ⟨wire, op, id, text, received, some, named, sound, isSecret⟩ := opens
    have relayed := both.2 wire
    simp only [received, sessionAfter, proxyExecWs, named, Option.getD_some, isSecret, truthy_str,
      some, ne_eq, not_false_eq_true, if_true] at relayed
    have blank := (relay_scoped_iff _ sound fun settings plain =>
      session_bare rfl settings plain sound).mp relayed
    have written := both.1
    rw [sent blank.1] at written
    rw [← selected_none blank.1 blank.2]
    exact ⟨blank, written⟩
  · intro both
    obtain ⟨blank, written⟩ := both
    constructor
    · rw [sent blank.1, selected_none blank.1 blank.2]
      exact written
    · intro wire
      exact sessionAfter_scoped _ _ _ blank

def sessionReply : Wire :=
  .reply ⟨202, .json "" (.obj [("type", .str "async"),
    ("metadata", .obj [("id", .str "op"), ("metadata", .obj [("metadata",
      .obj [("0", .str "secret"), ("1", .str "secret")])])])])⟩

end Handlers

/- Over every handler on objects of a project, every project the client may select
   and every reply of LXD: the requests carry the selected project and no other
   exactly under the condition of the handler. -/
theorem requests_scoped_iff (lxd : LXDClient) (call : Call) (perProject : call.perProject = true)
    {query : Option String} (given : ∀ project, call.project? = some project → project = query)
    (header : Option String) :
    (call.program lxd).Uses (Scoped (selectedProject query header)) ↔
      call.ScopedWhen query header := by
  cases call <;> try (cases perProject)
  all_goals try (obtain rfl := given _ rfl)
  case deleteInstance => exact deleteInstance_scoped_iff lxd _ _
  case waitOperation => exact waitOperation_scoped_iff lxd _ _
  case deleteAlias =>
    exact (single_scoped_iff lxd _ _ _ _ _ _).trans (scoped_sent_iff lxd _ _ _ _ _ _)
  case execWs =>
    simp only [Call.program, LxdApi.execWs, Call.ScopedWhen]
    apply relaySession_scoped_iff lxd
    exact ⟨sessionReply, _, "op", "secret", rfl, by decide, rfl, ⟨by decide, by decide⟩, rfl⟩
  case consoleWs =>
    simp only [Call.program, LxdApi.consoleWs, Call.ScopedWhen]
    apply relaySession_scoped_iff lxd
    exact ⟨sessionReply, _, "op", "secret", rfl, by decide, rfl, ⟨by decide, by decide⟩, rfl⟩
  case operationsWs => exact relay_scoped_iff _ ⟨by decide, by decide⟩ events_bare
  case listInstances =>
    apply single_passes lxd
    rw [projectsOf_listing _ _ (by decide)]
    simp [projectsOf, recursionParam]
  case listVolumes =>
    apply single_passes lxd
    rw [projectsOf_listing _ _ (by decide), projectsOf_expand]
  case listImages =>
    apply single_passes lxd
    rw [projectsOf_listing _ _ (by decide), projectsOf_expand]
  all_goals first
    | exact single_passes lxd (projectsOf_projectParams _)
    | exact single_passes lxd (projectsOf_expand _ true)
    | exact single_passes lxd (projectsOf_expand _ _)
    | exact mutatingOrWaiting_passes lxd
    | exact patchDevices_passes lxd _ _
    | exact streaming_passes lxd

end Scoping

theorem lookup_scoped :
    (@Call.program plainPlatform ⟨{}⟩ (.getInstance "web1" (some "p"))).Uses
      (@Scoped plainPlatform (selectedProject (some "p") (some "q"))) :=
  (@requests_scoped_iff plainPlatform ⟨{}⟩ (.getInstance "web1" (some "p")) rfl (some "p")
    (fun _ same => (Option.some.inj same).symm) (some "q")).mpr (given_of_some (by decide))

/-- Without a project a lookup sends an empty one. The deletion of an alias sends none where
    one is selected, and so acts on the default project, and sends the one that is written
    behind the name of the alias where none is selected. -/
theorem lookup_and_alias_unscoped :
    ¬ (@Call.program plainPlatform ⟨{}⟩ (.getInstance "web1" none)).Uses
      (@Scoped plainPlatform (selectedProject none none)) ∧
    ¬ (@Call.program plainPlatform ⟨{}⟩ (.deleteAlias "jammy")).Uses
      (@Scoped plainPlatform (selectedProject (some "p") none)) ∧
    ¬ (@Call.program plainPlatform ⟨{}⟩ (.deleteAlias "jammy?project=q")).Uses
      (@Scoped plainPlatform (selectedProject none none)) := by
  refine ⟨?_, ?_, ?_⟩
  · intro holds
    have sent : [[]] = (@builtQuery plainPlatform (selectedProject none none)).projects := holds.1
    exact absurd sent (by decide)
  · intro holds
    have dropped : [] = (@builtQuery plainPlatform (selectedProject (some "p") none)).projects :=
      holds.1
    exact absurd dropped (by decide)
  · intro holds
    have written : [encoded "q"] =
        (@builtQuery plainPlatform (selectedProject none none)).projects := holds.1
    exact absurd written (by decide)

end LxdApi

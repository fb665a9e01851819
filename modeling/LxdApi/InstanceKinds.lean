import LxdApi.Library.Pool
import LxdApi.HandlerRuns
import LxdApi.InstanceSchemas
import LxdApi.PagedReads

set_option autoImplicit false

/- Whether an instance comes back from a list as the kind it was created as. LXD is a
   store of named instances: it takes the kind from the key `type` of the body, and
   filters a list by the key `instance-type` of the query. -/
namespace LxdApi
open Interaction Program OrderedMap Json

structure LxdInstance where
  name : String
  kind : InstanceType
  deriving DecidableEq

def bodyKind (body : Dict) : Option InstanceType :=
  match get? body "type" with
  | none => some .container
  | some (.str text) => InstanceType.ofValue text
  | some _ => none

abbrev InstanceStore := List LxdInstance

namespace InstanceStore

def errorReply (code : Nat) (error : String) : HttpReply :=
  ⟨code, .json "" (.obj [("type", .str "error"), ("error", .str error), ("error_code", .int code)])⟩

def started : HttpReply :=
  ⟨202, .json "" (.obj [("type", .str "async"), ("operation", .str "/1.0/operations/op"),
    ("metadata", .obj [("id", .str "op")])])⟩

def create (store : InstanceStore) (body : Dict) : HttpReply × InstanceStore :=
  match get? body "name", bodyKind body with
  | some (.str name), some kind =>
    if name ∈ store.map LxdInstance.name then (errorReply 409 "Instance already exists", store)
    else (started, store ++ [⟨name, kind⟩])
  | _, _ => (errorReply 400 "Invalid instance", store)

def item (inst : LxdInstance) : Json :=
  .obj [("name", .str inst.name), ("type", .str inst.kind.value)]

def url (inst : LxdInstance) : Json := .str ("/1.0/instances/" ++ inst.name)

def chosen (store : InstanceStore) (query : List (String × String)) : InstanceStore :=
  match query.lookup "instance-type" with
  | none => store
  | some text => store.filter fun inst => inst.kind.value = text

def list (store : InstanceStore) (query : List (String × String)) : HttpReply :=
  let shown := if query.lookup "recursion" = some "1" then item else url
  ⟨200, .json "" (.obj [("type", .str "sync"),
    ("metadata", .arr ((chosen store query).map shown))])⟩

def answer [Platform] (store : InstanceStore) (req : LXDRequest) : HttpReply × InstanceStore :=
  if req.path = .under .instances [] then
    match req.method, req.jsonBody with
    | .POST, .free (.obj body) => store.create body
    | .GET, _ => (store.list req.query, store)
    | _, _ => (errorReply 405 "Method not allowed", store)
  else (errorReply 404 "Not found", store)

def serve [Platform] (store : InstanceStore) : (e : Effect) → e.Reply × InstanceStore
  | .lxd req => (.reply (store.answer req).1, (store.answer req).2)
  | .connect _ => (.ok (), store)
  | .accept => ((), store)
  | .close _ => ((), store)
  | .sendText _ => ((), store)

end InstanceStore

section Kinds
variable [Platform] (lxd : LXDClient) (project : Option String)

def afterCreates (payloads : List InstanceCreate) (store : InstanceStore) : InstanceStore :=
  payloads.foldl (fun store payload =>
    ((createInstance lxd payload.modelDump project).runFrom InstanceStore.serve store).2) store

def listPage (store : InstanceStore) (kind : Option InstanceType) (params : PageParams) :
    Option Page :=
  match ((listInstances lxd (kind.map InstanceType.value) project params).runFrom
    InstanceStore.serve store).1 with
  | .ok (.page page) => some page
  | _ => none

omit [Platform] in
/-- The kind that LXD will read: the declared field `instance_type` is not looked at. -/
def sentKind (payload : InstanceCreate) : Option InstanceType :=
  bodyKind (withoutNone payload.extra)

omit [Platform] in
def made (payloads : List InstanceCreate) : List InstanceCreate :=
  payloads.filter fun payload => (sentKind payload).isSome

def itemName : Json → Json
  | .obj fields => get fields "name"
  | other => other

theorem afterCreate (payload : InstanceCreate) (store : InstanceStore) :
    ((createInstance lxd payload.modelDump project).runFrom InstanceStore.serve store).2 =
      (store.create payload.modelDump).2 := by
  rw [createInstance, mutating, single_eq]
  simp only [runFrom, InstanceStore.serve, InstanceStore.answer, LXDClient.sent, if_true,
    runFrom_ofExcept]

omit [Platform] in
theorem bodyKind_modelDump (payload : InstanceCreate) :
    bodyKind payload.modelDump = sentKind payload := by
  unfold sentKind bodyKind
  rw [modelDump_undeclared payload (by decide)]

omit [Platform] in
theorem create_made {payload : InstanceCreate} {kind : InstanceType} {store : InstanceStore}
    (known : sentKind payload = some kind)
    (fresh : payload.name ∉ store.map LxdInstance.name) :
    (store.create payload.modelDump).2 = store ++ [⟨payload.name, kind⟩] := by
  simp only [InstanceStore.create, modelDump_name, bodyKind_modelDump, known, if_neg fresh]

omit [Platform] in
theorem create_refused {payload : InstanceCreate} (store : InstanceStore)
    (unknown : sentKind payload = none) :
    (store.create payload.modelDump).2 = store := by
  simp only [InstanceStore.create, modelDump_name, bodyKind_modelDump, unknown]

omit [Platform] in
def instanceOf (payload : InstanceCreate) : Option LxdInstance :=
  (sentKind payload).map fun kind => ⟨payload.name, kind⟩

/-- Creates of distinct names add an instance for each payload that LXD accepts. -/
theorem afterCreates_eq (payloads : List InstanceCreate) (store : InstanceStore)
    (distinct : (store.map LxdInstance.name ++ payloads.map InstanceCreate.name).Nodup) :
    afterCreates lxd project payloads store = store ++ payloads.filterMap instanceOf := by
  induction payloads generalizing store with
  | nil => simp [afterCreates]
  | cons payload rest ih =>
    simp only [afterCreates, List.foldl_cons, afterCreate] at ih ⊢
    rw [List.map_cons] at distinct
    have fresh : payload.name ∉ store.map LxdInstance.name := by
      intro member
      exact (List.nodup_append.mp distinct).2.2 _ member _ List.mem_cons_self rfl
    cases known : sentKind payload with
    | none =>
      have without : (store.map LxdInstance.name ++ rest.map InstanceCreate.name).Nodup :=
        distinct.sublist (List.Sublist.append_left (List.sublist_cons_self _ _) _)
      rw [create_refused store known, ih store without,
        List.filterMap_cons_none (by simp [instanceOf, known])]
    | some kind =>
      let inst : LxdInstance := ⟨payload.name, kind⟩
      have appended : ((store ++ [inst]).map LxdInstance.name ++
          rest.map InstanceCreate.name).Nodup := by
        simpa using distinct
      have first : instanceOf payload = some inst := by simp [instanceOf, known, inst]
      rw [create_made known fresh, ih (store ++ [inst]) appended,
        List.filterMap_cons_some first, List.append_assoc]
      rfl

theorem afterCreates_names {payloads : List InstanceCreate}
    (distinct : (payloads.map InstanceCreate.name).Nodup) :
    (afterCreates lxd project payloads []).map LxdInstance.name =
      (made payloads).map InstanceCreate.name := by
  rw [afterCreates_eq lxd project payloads [] (by simpa using distinct), List.nil_append]
  clear distinct
  induction payloads with
  | nil => rfl
  | cons payload rest ih =>
    cases known : sentKind payload with
    | none => simpa [made, instanceOf, known] using ih
    | some kind => simpa [made, instanceOf, known] using ih

def listRequest (kind : Option InstanceType) : LXDRequest :=
  lxd.sent .GET (.under .instances []) .none
    (some (update [recursionParam true, ("filter", .ofOption none), ("project", .ofOption project)]
      (givenParam "type" (kind.map InstanceType.value))))

theorem listRequest_query (kind : Option InstanceType) :
    (listRequest lxd project kind).query =
      [("recursion", "1"), ("filter", ""), ("project", (Param.ofOption project).text)] ++
        (kind.map fun kind => ("type", kind.value)).toList := by
  cases kind with
  | none => rfl
  | some kind => cases kind <;> rfl

theorem list_query (store : InstanceStore) (kind : Option InstanceType) :
    store.list (listRequest lxd project kind).query =
      ⟨200, .json "" (.obj [("type", .str "sync"),
        ("metadata", .arr (store.map InstanceStore.item))])⟩ := by
  have unfiltered : store.chosen (listRequest lxd project kind).query = store := by
    rw [listRequest_query]
    cases kind <;> rfl
  have recursive : (listRequest lxd project kind).query.lookup "recursion" = some "1" := by
    rw [listRequest_query]
    rfl
  simp only [InstanceStore.list, unfiltered, recursive, if_true]

theorem listPage_eq (store : InstanceStore) (kind : Option InstanceType) (params : PageParams) :
    listPage lxd project store kind params =
      some (paginate (store.map InstanceStore.item) params) := by
  have reply := list_query lxd project store kind
  have parsed : HttpReply.envelope ⟨200, .json "" (.obj [("type", .str "sync"),
      ("metadata", .arr (store.map InstanceStore.item))])⟩ =
        some ⟨.sync, none, none, none, .arr (store.map InstanceStore.item), none, none⟩ := rfl
  have handed := normalize_of_accepted parsed rfl
  have program : listInstances lxd (kind.map InstanceType.value) project params =
      .call (.lxd (listRequest lxd project kind)) fun wire =>
        ofExcept (finished lxd (.page params) wire) := single_eq lxd _ _ _ _ _
  unfold listPage
  rw [program]
  simp only [runFrom, InstanceStore.serve, runFrom_ofExcept]
  have answered : (store.answer (listRequest lxd project kind)).1 =
      store.list (listRequest lxd project kind).query := rfl
  rw [answered, reply]
  simp only [finished, LXDClient.received, handed]
  rfl

theorem reads_list_iff (store : InstanceStore) (kind : Option InstanceType) {params : PageParams}
    (start : params.offset = 0) (read : List Json) :
    Reads (listPage lxd project store kind) params read ↔ read = store.map InstanceStore.item :=
  reads_iff (listPage_eq lxd project store kind) start read

def ListsAsked (store : InstanceStore) (payloads : List InstanceCreate) (params : PageParams)
    (kind : InstanceType) : Prop :=
  ∃ read, Reads (listPage lxd project store (some kind)) params read ∧
    (read.map itemName).Perm
      (((made payloads).filter fun payload => payload.instanceType = kind).map fun payload =>
        Json.str payload.name)

def ListsPartition (store : InstanceStore) (params : PageParams) : Prop :=
  ∃ containers machines all,
    Reads (listPage lxd project store (some .container)) params containers ∧
    Reads (listPage lxd project store (some .virtualMachine)) params machines ∧
    Reads (listPage lxd project store none) params all ∧ (containers ++ machines).Perm all

structure KindsSurvive (store : InstanceStore) (payloads : List InstanceCreate)
    (params : PageParams) : Prop where
  asked : ∀ kind, ListsAsked lxd project store payloads params kind
  partitioned : ListsPartition lxd project store params

theorem listsAsked_iff {payloads : List InstanceCreate}
    (distinct : (payloads.map InstanceCreate.name).Nodup) {params : PageParams}
    (start : params.offset = 0) (kind : InstanceType) :
    ListsAsked lxd project (afterCreates lxd project payloads []) payloads params kind ↔
      ∀ payload ∈ made payloads, payload.instanceType = kind := by
  have names := afterCreates_names lxd project distinct
  have shown : ((afterCreates lxd project payloads []).map InstanceStore.item).map itemName =
      (made payloads).map fun payload => Json.str payload.name := by
    have readable : itemName ∘ InstanceStore.item = Json.str ∘ LxdInstance.name := by
      funext inst
      simp [itemName, InstanceStore.item, Json.get]
    rw [List.map_map, readable, ← List.map_map, names, List.map_map]
    rfl
  unfold ListsAsked
  simp only [reads_list_iff lxd project _ _ start, exists_eq_left, shown]
  constructor
  · intro perm payload member
    have lengths := perm.length_eq
    simp only [List.length_map] at lengths
    have all := List.length_filter_eq_length_iff.mp lengths.symm payload member
    exact of_decide_eq_true all
  · intro all
    have same : ((made payloads).filter fun payload => payload.instanceType = kind) =
        made payloads :=
      List.filter_eq_self.mpr fun payload member => decide_eq_true (all payload member)
    rw [same]

theorem listsPartition_iff {payloads : List InstanceCreate}
    (distinct : (payloads.map InstanceCreate.name).Nodup) {params : PageParams}
    (start : params.offset = 0) :
    ListsPartition lxd project (afterCreates lxd project payloads []) params ↔
      made payloads = [] := by
  have lengths := congrArg List.length (afterCreates_names lxd project distinct)
  simp only [List.length_map] at lengths
  unfold ListsPartition
  simp only [reads_list_iff lxd project _ _ start]
  constructor
  · intro partition
    obtain ⟨containers, machines, all, first, second, third, perm⟩ := partition
    have total := perm.length_eq
    rw [first, second, third] at total
    simp only [List.length_append, List.length_map] at total
    exact List.length_eq_zero_iff.mp (by omega)
  · intro none
    rw [none, List.length_nil, List.length_eq_zero_iff] at lengths
    exact ⟨[], [], [], by simp [lengths], by simp [lengths], by simp [lengths], List.Perm.refl _⟩

theorem stored_iff {payloads : List InstanceCreate}
    (distinct : (payloads.map InstanceCreate.name).Nodup) {payload : InstanceCreate}
    (member : payload ∈ payloads) :
    ⟨payload.name, payload.instanceType⟩ ∈ afterCreates lxd project payloads [] ↔
      sentKind payload = some payload.instanceType := by
  rw [afterCreates_eq lxd project payloads [] (by simpa using distinct), List.nil_append,
    List.mem_filterMap]
  constructor
  · intro stored
    obtain ⟨other, inside, made⟩ := stored
    obtain ⟨kind, sent, shape⟩ := Option.map_eq_some_iff.mp made
    obtain ⟨named, asked⟩ := LxdInstance.mk.inj shape
    have same : other = payload := List.inj_on_of_nodup_map distinct inside member named
    rw [← same] at asked ⊢
    rw [← asked]
    exact sent
  · intro sent
    exact ⟨payload, member, by rw [instanceOf, sent]; rfl⟩

/- After any creates of distinct names and for pages of any size: LXD stores the kind
   asked for exactly where the undeclared `type` says it, the list for a kind is right
   exactly if all instances were asked for as that kind, and all lists are right only if
   there is no instance. -/
theorem kinds_survive_iff (payloads : List InstanceCreate)
    (distinct : (payloads.map InstanceCreate.name).Nodup) (limit : Nat) (atLeastOne : 1 ≤ limit)
    (atMost : limit ≤ 1000) :
    (∀ payload ∈ payloads,
      ⟨payload.name, payload.instanceType⟩ ∈ afterCreates lxd project payloads [] ↔
        sentKind payload = some payload.instanceType) ∧
    (∀ kind,
      ListsAsked lxd project (afterCreates lxd project payloads []) payloads
          ⟨limit, 0, atLeastOne, atMost⟩ kind ↔
        ∀ payload ∈ made payloads, payload.instanceType = kind) ∧
    (KindsSurvive lxd project (afterCreates lxd project payloads []) payloads
        ⟨limit, 0, atLeastOne, atMost⟩ ↔
      made payloads = []) := by
  refine ⟨fun payload member => stored_iff lxd project distinct member,
    listsAsked_iff lxd project distinct rfl, ?_⟩
  constructor
  · intro survive
    exact (listsPartition_iff lxd project distinct rfl).mp survive.partitioned
  · intro none
    refine ⟨?_, (listsPartition_iff lxd project distinct rfl).mpr none⟩
    intro kind
    refine (listsAsked_iff lxd project distinct rfl kind).mpr ?_
    rw [none]
    intro payload member
    cases member

end Kinds

def ubuntu : InstanceSource := { imageAlias := some "ubuntu:22.04" }

def machineRequest : InstanceCreate :=
  { name := "vm1", instanceType := .virtualMachine, source := ubuntu, nameLength := by decide,
    namePattern := List.all_eq_true.mp (by decide), undeclared := by simp }

def containerRequest : InstanceCreate :=
  { name := "web1", source := ubuntu, nameLength := by decide,
    namePattern := List.all_eq_true.mp (by decide), undeclared := by simp }

def namedContainers : List InstanceCreate :=
  [containerRequest, { containerRequest with
    name := "db-1", nameLength := by decide, namePattern := List.all_eq_true.mp (by decide) }]

/-- With containers alone, read page by page, the list of containers is right. -/
theorem containers_listed :
    @ListsAsked plainPlatform ⟨{}⟩ none
      (@afterCreates plainPlatform ⟨{}⟩ none namedContainers []) namedContainers
      { limit := 1 } .container :=
  ((@kinds_survive_iff plainPlatform ⟨{}⟩ none namedContainers (by decide) 1 (by decide)
    (by decide)).2.1 .container).mpr (by decide)

/-- A virtual machine is stored as a container, and the list of the containers shows it. -/
theorem machine_becomes_container :
    @afterCreates plainPlatform ⟨{}⟩ none [machineRequest, containerRequest] [] =
      [⟨"vm1", .container⟩, ⟨"web1", .container⟩] ∧
    ¬ @KindsSurvive plainPlatform ⟨{}⟩ none
      (@afterCreates plainPlatform ⟨{}⟩ none [machineRequest, containerRequest] [])
      [machineRequest, containerRequest] { limit := 2 } := by
  refine ⟨rfl, ?_⟩
  intro survive
  have listed := @KindsSurvive.asked plainPlatform _ _ _ _ _ survive .container
  have asked := (@listsAsked_iff plainPlatform ⟨{}⟩ none [machineRequest, containerRequest]
    (by decide) { limit := 2 } rfl .container).mp listed
  have member : machineRequest ∈ made [machineRequest, containerRequest] :=
    List.mem_filter.mpr ⟨List.mem_cons_self, rfl⟩
  exact absurd (asked machineRequest member) (by decide)

end LxdApi

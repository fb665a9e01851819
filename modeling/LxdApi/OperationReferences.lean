import LxdApi.LxdOperations

set_option autoImplicit false

/- Which operation a reference names. LXD describes an operation twice in an
   async envelope, by the URL in `operation` and by the object in `metadata`. -/
namespace LxdApi
open OrderedMap Json

def IsUrlOf (id url : String) : Prop :=
  ∃ n : Nat, url.toList =
    "/1.0/operations".toList ++ '/' :: (id.toList ++ List.replicate n '/')

/-- The reference leads to the operation `id`: by its id, by LXD's URL as it is given, by
    both URLs of this API, and by the id read back from LXD's URL. -/
structure Names (id url : String) (ref : AsyncOperationRef) : Prop where
  operationId : ref.operationId = id
  operationUrl : ref.operationUrl = url
  isUrl : IsUrlOf id url
  pollUrl : ref.pollUrl = "/api/v1/operations/" ++ id
  waitUrl : ref.waitUrl = "/api/v1/operations/" ++ id ++ "/wait"
  fromUrl : operationIdFromUrl (some ref.operationUrl) = some ref.operationId

/- An operation object: it carries its id, and where it also carries a URL, the
   URL is its own. -/
structure OperationObject (id : String) (object : Dict) : Prop where
  named : get? object "id" = some (.str id)
  operation : ∀ value, get? object "operation" = some value →
    ∃ url, value = .str url ∧ IsUrlOf id url

def objectUrl (id : String) (object : Dict) : String :=
  match get? object "operation" with
  | some (.str url) => url
  | _ => "/1.0/operations/" ++ id

def LXDResponse.operationUrl (id : String) (envelope : LXDResponse) : String :=
  match envelope.metadata with
  | .obj object => objectUrl id object
  | _ => "/1.0/operations/" ++ id

structure Starts (id : String) (envelope : LXDResponse) : Prop where
  isAsync : envelope.type = .async
  operation : ∃ url, envelope.operation = some url ∧ IsUrlOf id url
  metadata : envelope.metadata = .null ∨
    ∃ object, envelope.metadata = .obj object ∧ OperationObject id object

theorem rstripSlash_replicate (s : List Char) (n : Nat) :
    rstripSlash (s ++ List.replicate n '/') = rstripSlash s := by
  induction n with
  | zero => simp
  | succ n ih =>
    rw [List.replicate_succ', ← List.append_assoc]
    unfold rstripSlash at ih ⊢
    rw [List.reverse_append]
    exact ih

theorem rstripSlash_of_last {front s : List Char} (some : s ≠ []) (free : '/' ∉ s) :
    rstripSlash (front ++ '/' :: s) = front ++ '/' :: s := by
  cases s using List.reverseRecOn with
  | nil => exact absurd rfl some
  | append_singleton s c =>
    have last : c ≠ '/' := by
      intro same
      apply free
      simp [same]
    have shape : front ++ '/' :: (s ++ [c]) = (front ++ '/' :: s) ++ [c] := by simp
    rw [shape]
    simp [rstripSlash, last]

theorem last_segment (front s : List Char) (free : '/' ∉ s) :
    ((front ++ '/' :: s).splitOn '/').getLastD [] = s := by
  rw [List.splitOn_append_cons_self, List.splitOn_eq_singleton free]
  simp

theorem operationIdFromUrl_of_isUrlOf {id url : String} (some : id ≠ "")
    (free : '/' ∉ id.toList) (isUrl : IsUrlOf id url) :
    operationIdFromUrl (.some url) = .some id := by
  obtain ⟨n, shape⟩ := isUrl
  have nonempty : url ≠ "" := by
    intro empty
    rw [empty] at shape
    simp at shape
  have idList : id.toList ≠ [] := by
    intro empty
    exact some (String.toList_injective (by simpa using empty))
  have segments : (rstripSlash url.toList).splitOn '/' =
      ("/1.0/operations".toList ++ '/' :: id.toList).splitOn '/' := by
    have strip : rstripSlash url.toList = "/1.0/operations".toList ++ '/' :: id.toList := by
      rw [shape, ← List.cons_append, ← List.append_assoc, rstripSlash_replicate,
        rstripSlash_of_last idList free]
    rw [strip]
  unfold operationIdFromUrl
  simp only [nonempty, if_false]
  rw [segments, last_segment _ _ free, String.ofList_toList]

theorem isUrlOf_canonical (id : String) : IsUrlOf id ("/1.0/operations/" ++ id) := by
  refine ⟨0, ?_⟩
  simp [String.toList_append]

theorem toAsyncRef_of_object [Platform] {id : String} {object : Dict} (some : id ≠ "")
    (free : '/' ∉ id.toList) (isObject : OperationObject id object) :
    ∃ ref, toAsyncRef (.obj object) = .ok ref ∧ Names id (objectUrl id object) ref := by
  have build : ∀ url, IsUrlOf id url →
      ∃ ref, buildRef (.str id) (.str url) = .ok ref ∧ Names id url ref := by
    intro url isUrl
    exact ⟨_, buildRef_str id url, rfl, rfl, isUrl, rfl, rfl,
      operationIdFromUrl_of_isUrlOf some free isUrl⟩
  simp only [toAsyncRef, isObject.named, Option.getD_some, pyStr_str]
  cases found : get? object "operation" with
  | none =>
    simp only [Json.get, found, Option.getD_none, truthy_null, Bool.false_eq_true, if_false,
      objectUrl]
    exact build _ (isUrlOf_canonical id)
  | some value =>
    obtain ⟨url, text, isUrl⟩ := isObject.operation value found
    have given : url ≠ "" := by
      intro empty
      obtain ⟨n, shape⟩ := isUrl
      rw [empty] at shape
      simp at shape
    have whole : objectUrl id object = url := by simp only [objectUrl, found, text]
    rw [whole, get_of_some found, text, if_pos ((truthy_str url).mpr given)]
    exact build url isUrl

theorem id_of_names [Platform] {id url : String} {fields : Dict} {ref : AsyncOperationRef}
    (some : id ≠ "") (built : toAsyncRef (.obj fields) = .ok ref) (names : Names id url ref) :
    get? fields "id" = .some (.str id) := by
  obtain ⟨found, _, sameId, _, shape⟩ := (buildRef_ok_iff _ _ ref).mp built
  have same : found = id := by
    have := names.operationId
    rwa [shape] at this
  rw [same] at sameId
  cases key : get? fields "id" with
  | none =>
    rw [key] at sameId
    have empty : "" = id := by simpa using sameId
    exact absurd empty.symm some
  | some value =>
    rw [key, Option.getD_some] at sameId
    rw [sameId]

theorem payload_without_metadata {envelope : LXDResponse} (isAsync : envelope.type = .async)
    (absent : envelope.metadata = .null) : ∃ fields, payload envelope = .obj fields ∧
      get? fields "id" = none := by
  refine ⟨_, by simp [payload, LXDResponse.isAsync, isAsync, absent]; rfl, ?_⟩
  simp

theorem payload_of_object {envelope : LXDResponse} {object : Dict}
    (present : envelope.metadata = .obj object) : payload envelope = .obj object := by
  unfold payload
  split <;> simp [present]

/- The reply of a started operation, seen through `request`, gives a reference to
   that operation exactly when it carries the operation object; the whole
   envelope, given directly, exactly when it repeats the id on its own level. -/
theorem reference_names_started_operation_iff [Platform] {id : String} (some : id ≠ "")
    (free : '/' ∉ id.toList) {r : HttpReply} {fields : Dict} {envelope : LXDResponse}
    (body : r.body.parsed = .some (.obj fields))
    (valid : LXDResponse.modelValidate (.obj fields) = .some envelope)
    (starts : Starts id envelope) :
    ((∃ value ref, normalize r = .ok value ∧ toAsyncRef value = .ok ref ∧
        Names id (envelope.operationUrl id) ref) ↔ envelope.metadata ≠ .null) ∧
    ((∃ ref url, envelope.operation = .some url ∧ toAsyncRef (.obj fields) = .ok ref ∧
        Names id url ref) ↔ get? fields "id" = .some (.str id)) := by
  have parsed : r.envelope = .some envelope := by simp [HttpReply.envelope, body, valid]
  have accepted : normalize r = .ok (payload envelope) :=
    normalize_of_accepted parsed (by simp [LXDResponse.isError, starts.isAsync])
  obtain ⟨url, hasUrl, isUrl⟩ := starts.operation
  refine ⟨⟨?_, ?_⟩, ⟨?_, ?_⟩⟩
  · intro named absent
    obtain ⟨value, ref, got, built, names⟩ := named
    obtain ⟨object, shape, missing⟩ := payload_without_metadata starts.isAsync absent
    rw [accepted, shape] at got
    cases got
    have present := id_of_names some built names
    rw [missing] at present
    cases present
  · intro present
    rcases starts.metadata with absent | ⟨object, shape, isObject⟩
    · exact absurd absent present
    · obtain ⟨ref, built, names⟩ := toAsyncRef_of_object some free isObject
      have given : envelope.operationUrl id = objectUrl id object := by
        simp only [LXDResponse.operationUrl, shape]
      rw [given]
      exact ⟨_, ref, accepted, by rw [payload_of_object shape]; exact built, names⟩
  · intro named
    obtain ⟨ref, _, _, built, names⟩ := named
    exact id_of_names some built names
  · intro present
    have read := ((LXDResponse.modelValidate_eq_some_iff fields envelope).mp valid).2.2.2.1
    rw [hasUrl] at read
    have operation := LXDResponse.optionalStr_eq_some read
    have isObject : OperationObject id fields := ⟨present, fun value found => by
      rw [operation] at found
      cases found
      exact ⟨url, rfl, isUrl⟩⟩
    obtain ⟨ref, built, names⟩ := toAsyncRef_of_object some free isObject
    have given : objectUrl id fields = url := by simp only [objectUrl, operation]
    rw [given] at names
    exact ⟨ref, url, hasUrl, built, names⟩

def createReply : Dict :=
  [("type", .str "async"), ("status", .str "Operation created"), ("status_code", .int 202),
    ("operation", .str "/1.0/operations/create-op-1"),
    ("metadata", .obj [("id", .str "create-op-1"), ("class", .str "task"),
      ("status", .str "Running"), ("status_code", .int 103)])]

def createEnvelope : LXDResponse :=
  ⟨.async, some "Operation created", some 202, some "/1.0/operations/create-op-1",
    .obj [("id", .str "create-op-1"), ("class", .str "task"), ("status", .str "Running"),
      ("status_code", .int 103)], none, none⟩

theorem createEnvelope_starts : Starts "create-op-1" createEnvelope := by
  refine ⟨rfl, ⟨_, rfl, 0, by decide⟩, Or.inr ⟨_, rfl, rfl, ?_⟩⟩
  intro value found
  simp at found

/-- The created operation is named through `request`, and not by the whole
    envelope that carries it. -/
theorem create_reply_reference :
    (∃ value ref, @normalize plainPlatform ⟨202, .json "" (.obj createReply)⟩ = .ok value ∧
      @toAsyncRef plainPlatform value = .ok ref ∧
        Names "create-op-1" "/1.0/operations/create-op-1" ref) ∧
    ¬ ∃ ref url, createEnvelope.operation = some url ∧
      @toAsyncRef plainPlatform (.obj createReply) = .ok ref ∧ Names "create-op-1" url ref := by
  have both := @reference_names_started_operation_iff plainPlatform "create-op-1" (by decide)
    (by decide) ⟨202, .json "" (.obj createReply)⟩ createReply createEnvelope rfl rfl
    createEnvelope_starts
  constructor
  · exact both.1.mpr (by simp [createEnvelope])
  · rw [both.2]
    simp [createReply]

/-- Neither the whole envelope nor the payload of an envelope without metadata
    names the started operation: both references carry the empty id. -/
theorem started_operation_unnamed :
    (∃ ref, @toAsyncRef plainPlatform (.obj createReply) = .ok ref ∧ ref.operationId = "" ∧
      ∀ url, ¬ Names "create-op-1" url ref) ∧
    (∃ ref, @toAsyncRef plainPlatform (payload ⟨.async, some "Operation created", some 202,
        some "/1.0/operations/create-op-1", .null, none, none⟩) = .ok ref ∧
      ref.operationId = "" ∧ ∀ url, ¬ Names "create-op-1" url ref) := by
  have unnamed : ∀ ref : AsyncOperationRef, ref.operationId = "" →
      ∀ url, ¬ Names "create-op-1" url ref := by
    intro ref empty url names
    have same := names.operationId
    rw [empty] at same
    exact absurd same (by decide)
  constructor
  · exact ⟨_, rfl, rfl, unnamed _ rfl⟩
  · exact ⟨_, rfl, rfl, unnamed _ rfl⟩

end LxdApi

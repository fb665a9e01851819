import LxdApi.HandlerRuns
import LxdApi.Library.UriReference

set_option autoImplicit false

/- Where the requests of the handlers go. A path parameter is written into the URL as
   it is, and the URL is then read again by the HTTP client. -/
namespace LxdApi
open Interaction Program UriReference

/- What an HTTP client decides beyond the reading of a URI reference: the URLs it
   refuses, and the characters of a path it sends as they are. -/
structure UrlRules where
  accepts : String → Bool
  keep : Char → Bool
  keep_slash : keep '/' = true
  keep_dot : keep '.' = true

inductive TargetQuery where
  | none
  | params (entries : List (String × String))
  | text (query : List Char)

/-- A URL as it is sent: the segments of its path below the root, its query, and the
    fragment, which stays behind. -/
structure Target where
  segments : List (List Char)
  query : TargetQuery
  fragment : Option (List Char)

def LXDRequest.meantQuery [Platform] (req : LXDRequest) : TargetQuery :=
  match req.params with
  | some _ => .params req.query
  | none => .none

/- The path is put below the base URL of the client; params replace whatever query
   the URL has of its own. -/
def UrlRules.target [Platform] (rules : UrlRules) (req : LXDRequest) : Option Target :=
  if rules.accepts req.path.url then
    let reference := parts req.path.url.toList
    some ⟨pathSegments rules.keep (reference.path.dropWhile (· = '/')),
      match req.params, reference.query with
      | some _, _ => .params req.query
      | none, some query => .text query
      | none, none => .none,
      reference.fragment⟩
  else none

def ownQuery (url : List Char) : TargetQuery :=
  match (parts url).query with
  | some query => .text query
  | none => .none

def LXDRequest.sentQuery [Platform] (req : LXDRequest) : TargetQuery :=
  match req.params with
  | some _ => .params req.query
  | none => ownQuery req.path.url.toList

theorem target_query [Platform] {rules : UrlRules} {req : LXDRequest} {target : Target}
    (sent : rules.target req = some target) : target.query = req.sentQuery := by
  unfold UrlRules.target at sent
  split at sent
  · cases sent
    unfold LXDRequest.sentQuery ownQuery
    cases req.params with
    | some params => rfl
    | none => cases (parts req.path.url.toList).query <;> rfl
  · cases sent

def LXDPath.pieces : LXDPath → List String
  | .under first rest => "1.0" :: first.text :: rest.map Piece.text
  | .root => ["1.0"]

def LXDPath.args : LXDPath → List String
  | .under _ rest => rest.filterMap fun
      | .arg value => some value
      | .lit _ => none
  | .root => []

def Denotes (pieces : List String) (segments : List (List Char)) : Prop :=
  List.Forall₂ (fun piece segment => percentDecode segment = octets piece.toList) pieces segments

structure Addresses [Platform] (req : LXDRequest) (target : Target) : Prop where
  path : Denotes req.path.pieces target.segments
  query : target.query = req.meantQuery
  fragment : target.fragment = none

/-- A path below `/1.0` whose parameters can each stand as one segment. -/
structure LXDPath.Sound (path : LXDPath) : Prop where
  below : path ≠ .root
  clean : ∀ arg ∈ path.args, Clean arg.toList

theorem Word.clean (w : Word) : Clean w.text.toList := by
  cases w <;> decide

theorem clean_pieces_iff (first : Word) (rest : List Piece) :
    (∀ v ∈ ((LXDPath.under first rest).pieces.map String.toList), Clean v) ↔
      (LXDPath.under first rest).Sound := by
  constructor
  · intro clean
    constructor
    · simp
    · intro arg member
      obtain ⟨piece, inside, same⟩ := List.mem_filterMap.mp member
      cases piece with
      | lit w => cases same
      | arg value =>
        cases same
        refine clean _ (List.mem_map_of_mem ?_)
        exact List.mem_cons_of_mem _ (List.mem_cons_of_mem _ (List.mem_map_of_mem inside))
  · intro sound v member
    obtain ⟨text, inside, same⟩ := List.mem_map.mp member
    subst v
    rcases List.mem_cons.mp inside with version | inside
    · subst text
      decide
    · rcases List.mem_cons.mp inside with word | inside
      · subst text
        exact first.clean
      · obtain ⟨piece, among, same⟩ := List.mem_map.mp inside
        subst text
        cases piece with
        | lit w => exact w.clean
        | arg value =>
          exact sound.clean value (List.mem_filterMap.mpr ⟨_, among, rfl⟩)

theorem url_toList (first : Word) (rest : List Piece) :
    (LXDPath.under first rest).url.toList =
      '/' :: join ((LXDPath.under first rest).pieces.map String.toList) := by
  simp only [LXDPath.url, LXDPath.pieces, List.map_cons, join_cons_cons, String.toList_append,
    String.toList_intercalate]
  rfl

theorem parts_cons {c : Char} (query : c ≠ '?') (fragment : c ≠ '#') (rest : List Char) :
    parts (c :: rest) = ⟨c :: (parts rest).path, (parts rest).query, (parts rest).fragment⟩ := by
  simp [parts, cut, query, fragment]

theorem parts_url (first : Word) (rest : List Piece) :
    let reference := parts (join ((LXDPath.under first rest).pieces.map String.toList))
    let url := parts (LXDPath.under first rest).url.toList
    url.path.dropWhile (· = '/') = reference.path ∧ url.query = reference.query ∧
      url.fragment = reference.fragment := by
  dsimp only
  rw [url_toList, parts_cons (by decide) (by decide)]
  refine ⟨?_, rfl, rfl⟩
  have head : join ((LXDPath.under first rest).pieces.map String.toList) =
      '1' :: (".0".toList ++ '/' :: join (first.text.toList :: (rest.map Piece.text).map String.toList)) := by
    simp only [LXDPath.pieces, List.map_cons, join_cons_cons]
    rfl
  rw [head, parts_cons (by decide) (by decide)]
  simp

theorem sound_absent {path : LXDPath} (sound : path.Sound) {c : Char} (other : c ≠ '/')
    (clean : ∀ v, Clean v → c ∉ v) : c ∉ path.url.toList := by
  cases path with
  | root => exact absurd rfl sound.below
  | under first rest =>
    have pieces := (clean_pieces_iff first rest).mpr sound
    rw [url_toList, List.mem_cons, not_or]
    exact ⟨other, absent_join other fun v member => clean v (pieces v member)⟩

section Targets
variable [Platform] (rules : UrlRules)

theorem root_not_addressed {req : LXDRequest} {target : Target} (root : req.path = .root)
    (sent : rules.target req = some target) : ¬ Addresses req target := by
  intro addresses
  have path := addresses.path
  unfold UrlRules.target at sent
  rw [root] at sent path
  split at sent
  · cases sent
    have segments : pathSegments rules.keep
        ((parts LXDPath.root.url.toList).path.dropWhile (· = '/')) = [[]] := rfl
    dsimp only at path
    rw [segments] at path
    cases path with
    | cons head _ => exact absurd head (by decide)
  · cases sent

theorem addresses_iff {req : LXDRequest} {target : Target}
    (sent : rules.target req = some target) : Addresses req target ↔ req.path.Sound := by
  cases path : req.path with
  | root =>
    exact iff_of_false (root_not_addressed rules path sent) fun sound => sound.below rfl
  | under first rest =>
    unfold UrlRules.target at sent
    rw [path] at sent
    obtain ⟨samePath, sameQuery, sameFragment⟩ := parts_url first rest
    simp only [samePath, sameQuery, sameFragment] at sent
    split at sent
    · cases sent
      have denote : Denotes (LXDPath.under first rest).pieces (pathSegments rules.keep
          (parts (join ((LXDPath.under first rest).pieces.map String.toList))).path) ↔
          (LXDPath.under first rest).Sound := by
        rw [← clean_pieces_iff, ← segments_denote_iff rules.keep_slash rules.keep_dot
          (by simp [LXDPath.pieces]), List.forall₂_map_left_iff]
        rfl
      constructor
      · intro addresses
        have path' := addresses.path
        rw [path] at path'
        exact denote.mp path'
      · intro sound
        have whole := clean_parts ((clean_pieces_iff first rest).mpr sound)
        constructor
        · rw [path]
          exact denote.mpr sound
        · rw [whole]
          unfold LXDRequest.meantQuery
          cases req.params <;> rfl
        · rw [whole]
    · cases sent

/-- Some run of the handler makes this request. -/
def Issues (lxd : LXDClient) (call : Call) (req : LXDRequest) : Prop :=
  ∃ (trace : List (Event Effect Effect.Reply)) (outcome : Except Raised Answer) (wire : Wire),
    (call.program lxd).Runs trace outcome ∧ ⟨.lxd req, wire⟩ ∈ trace

def RequestBody.isFree : RequestBody → Bool
  | .free _ => true
  | _ => false

/- An admin may send this method to the resource, and nobody else is meant to: only
   admin handlers address it with this method and a body of this kind. -/
structure AdminOnly (lxd : LXDClient) (method : Method) (isFree : Bool)
    (segments : List (List Char)) : Prop where
  reached : ∃ call req, call.guard = .rest .ADMIN ∧ Issues lxd call req ∧
    req.method = method ∧ Denotes req.path.pieces segments
  reserved : ∀ call req, Issues lxd call req → req.method = method →
    req.jsonBody.isFree = isFree → Denotes req.path.pieces segments → call.guard = .rest .ADMIN

/-- Wherever the request goes, it goes to the resource of its handler, and not to one
    that the caller's role does not cover. -/
def Delivered (lxd : LXDClient) (call : Call) (req : LXDRequest) : Prop :=
  ∀ target, rules.target req = some target →
    Addresses req target ∧ (call.guard ≠ .rest .ADMIN →
      ¬ AdminOnly lxd req.method req.jsonBody.isFree target.segments)

/- Over every handler, every value of its parameters and every request it makes in any
   run: the request is delivered exactly when the client refuses its URL or its path is
   sound. -/
theorem delivered_iff (lxd : LXDClient) (call : Call) {req : LXDRequest}
    (issued : Issues lxd call req) :
    Delivered rules lxd call req ↔ (rules.accepts req.path.url = true → req.path.Sound) := by
  constructor
  · intro delivered accepted
    have sent : ∃ target, rules.target req = some target := by
      unfold UrlRules.target
      rw [if_pos accepted]
      exact ⟨_, rfl⟩
    obtain ⟨target, sent⟩ := sent
    exact (addresses_iff rules sent).mp (delivered target sent).1
  · intro sound target sent
    have accepted : rules.accepts req.path.url = true := by
      unfold UrlRules.target at sent
      split at sent
      · assumption
      · cases sent
    have addresses := (addresses_iff rules sent).mpr (sound accepted)
    constructor
    · exact addresses
    · intro lower only
      exact lower (only.reserved call req issued rfl rfl addresses.path)

end Targets

/- The rules of the client that the repository pins: control characters are refused,
   and printable ASCII but nine characters is kept in a path. -/
def httpx : UrlRules where
  accepts url := url.length ≤ 65536 ∧
    url.toList.all fun c => 127 < c.toNat ∨ (32 ≤ c.toNat ∧ c.toNat < 127)
  keep c := 32 < c.toNat ∧ c.toNat < 127 ∧ c ∉ ['"', '#', '<', '>', '?', '`', '{', '}']
  keep_slash := by decide
  keep_dot := by decide

section Escalation
variable [Platform] (lxd : LXDClient)

theorem instance_deletion_reserved (call : Call) {req : LXDRequest}
    (issued : Issues lxd call req) (deletes : req.method = .DELETE) (name : List Char)
    (denotes : Denotes req.path.pieces ["1.0".toList, "instances".toList, name]) :
    call.guard = .rest .ADMIN := by
  by_contra lower
  have uses : (call.program lxd).Uses (Asks fun req => req.method = .DELETE →
      ¬ Denotes req.path.pieces ["1.0".toList, "instances".toList, name]) := by
    cases call <;> try (exact absurd rfl lower)
    case deleteSnapshot =>
      exact (single_asks_iff lxd _ _ _ _ _).mpr fun _ denotes => by cases denotes.length_eq
    case deleteBackup =>
      exact (single_asks_iff lxd _ _ _ _ _).mpr fun _ denotes => by cases denotes.length_eq
    case cancelOperation =>
      refine (single_asks_iff lxd _ _ _ _ _).mpr ?_
      intro _ denotes
      cases denotes with
      | cons _ rest =>
        cases rest with
        | cons word _ => exact absurd word (by decide)
    case healthDeep => exact (healthDeep_asks_iff lxd).mpr (by simp [LXDClient.sent])
    case operationsWs => exact relay_asks _ _
    case execWs =>
      simp only [Call.program, LxdApi.execWs]
      exact relaySession_asks lxd (by simp [LXDClient.sent])
    case consoleWs =>
      simp only [Call.program, LxdApi.consoleWs]
      exact relaySession_asks lxd (by simp [LXDClient.sent])
    -- The other handlers below admin delete nothing.
    all_goals first
      | exact (single_asks_iff lxd _ _ _ _ _).mpr (by simp [LXDClient.sent])
      | exact (streaming_asks_iff lxd _ _ _ _).mpr (by simp [LXDClient.sent])
      | exact mutatingOrWaiting_asks lxd (by simp [LXDClient.sent])
          (by simp [LXDClient.waitRequest, LXDClient.sent])
      | exact (waitOperation_asks_iff lxd _ _ _).mpr (by simp [LXDClient.waitRequest, LXDClient.sent])
      | exact patchDevices_asks lxd (by simp [LXDClient.sent]) (by simp [LXDClient.sent])
  obtain ⟨trace, outcome, wire, run, member⟩ := issued
  exact uses_runs uses run _ member deletes denotes

theorem issues_single {call : Call} {method : Method} {path : LXDPath} {body : RequestBody}
    {params : Option Params} {finish : Finish}
    (program : call.program lxd = single lxd method path body params finish) :
    Issues lxd call (lxd.sent method path body params) := by
  refine ⟨[⟨.lxd (lxd.sent method path body params), Wire.invalidUrl⟩],
    finished lxd finish .invalidUrl, .invalidUrl, ?_, List.mem_singleton_self _⟩
  rw [program]
  exact (single_runs_iff _ _ _ _ _ _ _ _).mpr ⟨.invalidUrl, rfl, rfl⟩

end Escalation

theorem snapshot_lookup_delivered :
    @Delivered plainPlatform httpx ⟨{}⟩ (.getSnapshot "web1" "before upgrade" none)
      ((⟨{}⟩ : LXDClient).sent .GET
        (.under .instances [.arg "web1", .lit .snapshots, .arg "before upgrade"]) .none
        (projectParams none)) :=
  (@delivered_iff plainPlatform httpx ⟨{}⟩ (.getSnapshot "web1" "before upgrade" none) _
    (@issues_single plainPlatform ⟨{}⟩ _ _ _ _ _ _ rfl)).mpr fun _ => ⟨by decide, by decide⟩

/-- An operator who deletes the snapshot `..` of an instance deletes the instance,
    which only admins may. -/
theorem snapshot_deletion_reaches_instance :
    ∃ req target, @Issues plainPlatform ⟨{}⟩ (.deleteSnapshot "web1" ".." none) req ∧
      @UrlRules.target plainPlatform httpx req = some target ∧ req.method = .DELETE ∧
      target.segments = ["1.0".toList, "instances".toList, "web1".toList] ∧
      (Call.deleteSnapshot "web1" ".." none).guard = .rest .OPERATOR ∧
      @AdminOnly plainPlatform ⟨{}⟩ req.method req.jsonBody.isFree target.segments ∧
      ¬ @Delivered plainPlatform httpx ⟨{}⟩ (.deleteSnapshot "web1" ".." none) req := by
  have issued := @issues_single plainPlatform ⟨{}⟩ (.deleteSnapshot "web1" ".." none) _ _ _ _ _ rfl
  have admin := @issues_single plainPlatform ⟨{}⟩ (.deleteInstance "web1" none false) _ _ _ _ _ rfl
  have only : @AdminOnly plainPlatform ⟨{}⟩ .DELETE false
      ["1.0".toList, "instances".toList, "web1".toList] :=
    @AdminOnly.mk plainPlatform _ _ _ _ ⟨_, _, rfl, admin, rfl,
      .cons rfl (.cons rfl (.cons rfl .nil))⟩
      fun call req issued deletes _ denotes =>
        @instance_deletion_reserved plainPlatform _ call _ issued deletes _ denotes
  have sent : @UrlRules.target plainPlatform httpx ((⟨{}⟩ : LXDClient).sent .DELETE
      (.under .instances [.arg "web1", .lit .snapshots, .arg ".."]) .none (projectParams none)) =
      some ⟨["1.0".toList, "instances".toList, "web1".toList], .params [("project", "")], none⟩ := by
    rfl
  refine ⟨_, _, issued, sent, rfl, rfl, rfl, only, ?_⟩
  intro delivered
  exact (delivered _ sent).2 (by decide) only

end LxdApi

import LxdApi.Library.UriReference
import Mathlib.Data.List.Pairwise
import Mathlib.Data.List.Perm.Basic
import Mathlib.Tactic.Common

set_option autoImplicit false

/- Templates of paths, and tables of routes that are searched for the first one that
   matches. A parameter stands for one segment, which is never empty. -/
namespace PathPatterns

inductive Part where
  | lit (text : String)
  | param (name : String)
  deriving DecidableEq

def Part.literal? : Part → Option String
  | .lit text => some text
  | .param _ => none

def bindings : List Part → List String → Option (List (String × String))
  | [], [] => some []
  | .lit text :: parts, segment :: segments =>
    if segment = text then bindings parts segments else none
  | .param name :: parts, segment :: segments =>
    if segment = "" then none
    else (bindings parts segments).map fun bound => (name, segment) :: bound
  | _, _ => none

def params : List Part → List String
  | [] => []
  | .lit _ :: parts => params parts
  | .param name :: parts => name :: params parts

def fill : List Part → List String → List String
  | [], _ => []
  | .lit text :: parts, values => text :: fill parts values
  | .param _ :: parts, value :: values => value :: fill parts values
  | .param _ :: _, [] => []

theorem bindings_fill {parts : List Part} {values : List String}
    (given : values.length = (params parts).length) (nonempty : ∀ value ∈ values, value ≠ "") :
    bindings parts (fill parts values) = some ((params parts).zip values) := by
  induction parts generalizing values with
  | nil => rfl
  | cons part parts ih =>
    cases part with
    | lit text =>
      rw [fill, bindings, if_pos rfl]
      exact ih given nonempty
    | param name =>
      cases values with
      | nil => simp [params] at given
      | cons value values =>
        have some : value ≠ "" := nonempty value List.mem_cons_self
        simp only [params, List.length_cons, Nat.add_right_cancel_iff] at given
        rw [fill, bindings, if_neg some,
          ih given fun other member => nonempty other (List.mem_cons_of_mem _ member)]
        rfl

theorem fill_of_bindings {parts : List Part} {segments : List String}
    {bound : List (String × String)} (matched : bindings parts segments = some bound) :
    segments = fill parts (bound.map Prod.snd) ∧ bound.map Prod.fst = params parts ∧
      ∀ value ∈ bound.map Prod.snd, value ≠ "" := by
  induction parts generalizing segments bound with
  | nil =>
    cases segments with
    | nil =>
      cases matched
      exact ⟨rfl, rfl, by simp⟩
    | cons segment segments => cases matched
  | cons part parts ih =>
    cases segments with
    | nil => cases part <;> cases matched
    | cons segment segments =>
      cases part with
      | lit text =>
        rw [bindings] at matched
        split at matched
        · rename_i same
          obtain ⟨filled, names, nonempty⟩ := ih matched
          exact ⟨congrArg₂ List.cons same filled, names, nonempty⟩
        · cases matched
      | param name =>
        rw [bindings] at matched
        split at matched
        · cases matched
        · rename_i some
          obtain ⟨rest, matchedRest, shape⟩ := Option.map_eq_some_iff.mp matched
          obtain ⟨filled, names, nonempty⟩ := ih matchedRest
          subst shape
          refine ⟨congrArg (List.cons segment) filled, congrArg (List.cons name) names, ?_⟩
          intro value member
          rcases List.mem_cons.mp member with first | later
          · rw [first]
            exact some
          · exact nonempty value later

def overlaps : List Part → List Part → Bool
  | [], [] => true
  | .lit text :: parts, .lit other :: others => text = other && overlaps parts others
  | .lit text :: parts, .param _ :: others => text ≠ "" && overlaps parts others
  | .param _ :: parts, .lit other :: others => other ≠ "" && overlaps parts others
  | .param _ :: parts, .param _ :: others => overlaps parts others
  | _, _ => false

theorem overlaps_of_both {parts others : List Part} {segments : List String}
    (first : (bindings parts segments).isSome = true)
    (second : (bindings others segments).isSome = true) : overlaps parts others = true := by
  induction parts generalizing others segments with
  | nil =>
    cases segments with
    | nil =>
      cases others with
      | nil => rfl
      | cons other others => cases other <;> cases second
    | cons segment segments => cases first
  | cons part parts ih =>
    cases segments with
    | nil => cases part <;> cases first
    | cons segment segments =>
      cases others with
      | nil => cases second
      | cons other others =>
        cases part <;> cases other <;>
          simp only [bindings, overlaps, Bool.and_eq_true, decide_eq_true_eq] at first second ⊢ <;>
          grind

theorem overlaps_comm (parts others : List Part) :
    overlaps parts others = overlaps others parts := by
  induction parts generalizing others with
  | nil =>
    cases others with
    | nil => rfl
    | cons other others => cases other <;> rfl
  | cons part parts ih =>
    cases others with
    | nil => cases part <;> rfl
    | cons other others =>
      cases part <;> cases other <;> simp only [overlaps, ih others]
      simp only [eq_comm]

structure Route (V A : Type) where
  verb : V
  pattern : List Part
  endpoint : A

def Route.Apart {V A : Type} (r s : Route V A) : Prop :=
  r.verb = s.verb → overlaps r.pattern s.pattern = false

theorem Route.Apart.symm {V A : Type} {r s : Route V A} (apart : r.Apart s) : s.Apart r := by
  intro same
  rw [overlaps_comm]
  exact apart same.symm

section Dispatch
variable {V A : Type} [DecidableEq V]

instance (r s : Route V A) : Decidable (r.Apart s) :=
  inferInstanceAs (Decidable (r.verb = s.verb → overlaps r.pattern s.pattern = false))

def Route.accept (verb : V) (segments : List String) (r : Route V A) :
    Option (A × List (String × String)) :=
  if r.verb = verb then (bindings r.pattern segments).map fun bound => (r.endpoint, bound) else none

def dispatch (routes : List (Route V A)) (verb : V) (segments : List String) :
    Option (A × List (String × String)) :=
  routes.findSome? (Route.accept verb segments)

theorem accept_eq_some_iff (verb : V) (segments : List String) (r : Route V A)
    (found : A × List (String × String)) :
    r.accept verb segments = some found ↔
      r.verb = verb ∧ r.endpoint = found.1 ∧ bindings r.pattern segments = some found.2 := by
  unfold Route.accept
  by_cases same : r.verb = verb
  · rw [if_pos same, Option.map_eq_some_iff]
    constructor
    · intro h
      obtain ⟨bound, matched, shape⟩ := h
      rw [← shape]
      exact ⟨same, rfl, matched⟩
    · intro h
      exact ⟨found.2, h.2.2, Prod.ext h.2.1 rfl⟩
  · rw [if_neg same]
    exact iff_of_false (by simp) fun h => same h.1

theorem apart_of_accept {verb : V} {segments : List String} {r s : Route V A}
    {found other : A × List (String × String)} (first : r.accept verb segments = some found)
    (second : s.accept verb segments = some other) : ¬ r.Apart s := by
  rw [accept_eq_some_iff] at first second
  intro apart
  have none := apart (first.1.trans second.1.symm)
  rw [overlaps_of_both (by rw [first.2.2]; rfl) (by rw [second.2.2]; rfl)] at none
  cases none

theorem accept_unique {routes : List (Route V A)} (apart : routes.Pairwise Route.Apart)
    {verb : V} {segments : List String} {r s : Route V A} (listed : r ∈ routes) (other : s ∈ routes)
    (first : (r.accept verb segments).isSome = true)
    (second : (s.accept verb segments).isSome = true) : r = s := by
  obtain ⟨found, accepted⟩ := Option.isSome_iff_exists.mp first
  obtain ⟨found', accepted'⟩ := Option.isSome_iff_exists.mp second
  have : Std.Symm (@Route.Apart V A) := ⟨fun _ _ => Route.Apart.symm⟩
  by_contra differ
  exact apart_of_accept accepted accepted' (apart.forall listed other differ)

/-- In a table whose routes are apart, any route that matches is the one that is found. -/
theorem dispatch_eq_some_iff {routes : List (Route V A)} (apart : routes.Pairwise Route.Apart)
    (verb : V) (segments : List String) (found : A × List (String × String)) :
    dispatch routes verb segments = some found ↔
      ∃ r ∈ routes, r.accept verb segments = some found := by
  induction routes with
  | nil => simp [dispatch]
  | cons r rest ih =>
    rw [List.pairwise_cons] at apart
    have later := ih apart.2
    unfold dispatch at later ⊢
    rw [List.findSome?_cons]
    cases here : r.accept verb segments with
    | none =>
      dsimp only
      rw [later]
      simp [here]
    | some first =>
      dsimp only
      constructor
      · intro same
        exact ⟨r, List.mem_cons_self, here.trans same⟩
      · intro h
        obtain ⟨s, member, accepted⟩ := h
        rcases List.mem_cons.mp member with own | below
        · rw [own, here] at accepted
          exact accepted
        · exact absurd (apart.1 s below) (apart_of_accept here accepted)

theorem dispatch_perm {routes others : List (Route V A)} (apart : routes.Pairwise Route.Apart)
    (same : routes.Perm others) (verb : V) (segments : List String) :
    dispatch routes verb segments = dispatch others verb segments := by
  have apart' : others.Pairwise Route.Apart :=
    (same.pairwise_iff fun {_ _} => Route.Apart.symm).mp apart
  refine Option.ext fun found => ?_
  rw [dispatch_eq_some_iff apart, dispatch_eq_some_iff apart']
  simp only [same.mem_iff]

end Dispatch

def segmentsOf (path : String) : List String :=
  match path.toList with
  | '/' :: rest => (rest.splitOn '/').map String.ofList
  | _ => []

def pathText (segments : List String) : String := "/" ++ "/".intercalate segments

def Segment (text : String) : Prop := text ≠ "" ∧ '/' ∉ text.toList

instance (text : String) : Decidable (Segment text) :=
  inferInstanceAs (Decidable (text ≠ "" ∧ '/' ∉ text.toList))

theorem pathText_toList (segments : List String) :
    (pathText segments).toList = '/' :: ['/'].intercalate (segments.map String.toList) := by
  simp only [pathText, String.toList_append, String.toList_intercalate]
  rfl

theorem segmentsOf_pathText {segments : List String} (some : segments ≠ [])
    (free : ∀ segment ∈ segments, '/' ∉ segment.toList) :
    segmentsOf (pathText segments) = segments := by
  simp only [segmentsOf, pathText_toList]
  rw [List.splitOn_intercalate]
  · rw [List.map_map]
    exact (List.map_congr_left fun _ _ => String.ofList_toList).trans (List.map_id _)
  · intro chars member
    obtain ⟨segment, mem, same⟩ := List.mem_map.mp member
    rw [← same]
    exact free segment mem
  · simpa using some

theorem segmentsOf_free {path segment : String} (member : segment ∈ segmentsOf path) :
    '/' ∉ segment.toList := by
  unfold segmentsOf at member
  split at member
  · obtain ⟨chars, mem, same⟩ := List.mem_map.mp member
    rw [← same, String.toList_ofList]
    exact UriReference.splitOn_free _ chars mem
  · cases member

theorem mem_fill {parts : List Part} {values : List String} {segment : String}
    (member : segment ∈ fill parts values) : .lit segment ∈ parts ∨ segment ∈ values := by
  induction parts generalizing values with
  | nil => cases member
  | cons part parts ih =>
    cases part with
    | lit text =>
      rcases List.mem_cons.mp member with first | later
      · rw [first]
        exact Or.inl List.mem_cons_self
      · exact (ih later).imp_left (List.mem_cons_of_mem _)
    | param name =>
      cases values with
      | nil => cases member
      | cons value values =>
        rcases List.mem_cons.mp member with first | later
        · rw [first]
          exact Or.inr List.mem_cons_self
        · exact (ih later).imp (List.mem_cons_of_mem _) (List.mem_cons_of_mem _)

theorem value_mem_fill {parts : List Part} {values : List String}
    (given : values.length = (params parts).length) {value : String} (member : value ∈ values) :
    value ∈ fill parts values := by
  induction parts generalizing values with
  | nil =>
    rw [List.length_eq_zero_iff.mp given] at member
    cases member
  | cons part parts ih =>
    cases part with
    | lit text => exact List.mem_cons_of_mem _ (ih given member)
    | param name =>
      cases values with
      | nil => cases member
      | cons first values =>
        rcases List.mem_cons.mp member with here | later
        · rw [here]
          exact List.mem_cons_self
        · exact List.mem_cons_of_mem _ (ih (Nat.succ.inj given) later)

theorem fill_ne_nil {parts : List Part} {values : List String} (some : parts ≠ [])
    (given : values.length = (params parts).length) : fill parts values ≠ [] := by
  cases parts with
  | nil => exact absurd rfl some
  | cons part parts =>
    cases part with
    | lit text => exact List.cons_ne_nil _ _
    | param name =>
      cases values with
      | nil => cases given
      | cons value values => exact List.cons_ne_nil _ _

section Dispatch
variable {V A : Type} [DecidableEq V]

theorem dispatch_pathText_iff {routes : List (Route V A)} (apart : routes.Pairwise Route.Apart)
    {r : Route V A} (member : r ∈ routes)
    (literals : ∀ text, .lit text ∈ r.pattern → '/' ∉ text.toList) (rooted : r.pattern ≠ [])
    {values : List String} (given : values.length = (params r.pattern).length) :
    dispatch routes r.verb (segmentsOf (pathText (fill r.pattern values))) =
        some (r.endpoint, (params r.pattern).zip values) ↔ ∀ value ∈ values, Segment value := by
  constructor
  · intro found value mem
    obtain ⟨s, _, accepted⟩ := (dispatch_eq_some_iff apart _ _ _).mp found
    obtain ⟨filled, names, nonempty⟩ :=
      fill_of_bindings ((accept_eq_some_iff _ _ s _).mp accepted).2.2
    rw [List.map_snd_zip (Nat.le_of_eq given)] at filled nonempty
    rw [List.map_fst_zip (Nat.le_of_eq given.symm)] at names
    have inside : value ∈ segmentsOf (pathText (fill r.pattern values)) := by
      rw [filled]
      exact value_mem_fill (by rw [given, names]) mem
    exact ⟨nonempty value mem, segmentsOf_free inside⟩
  · intro fine
    have free : ∀ segment ∈ fill r.pattern values, '/' ∉ segment.toList := by
      intro segment mem
      rcases mem_fill mem with literal | value
      · exact literals segment literal
      · exact (fine segment value).2
    rw [segmentsOf_pathText (fill_ne_nil rooted given) free]
    exact (dispatch_eq_some_iff apart _ _ _).mpr ⟨r, member, (accept_eq_some_iff _ _ r _).mpr
      ⟨rfl, rfl, bindings_fill given fun value mem => (fine value mem).1⟩⟩

end Dispatch

section Links
open UriReference

def requested (keep : Char → Bool) (reference : String) : List Char :=
  join (pathSegments keep (parts reference.toList).path)

/-- The request a client makes when it follows the link arrives at this endpoint. -/
def Leads {V A : Type} [DecidableEq V] (keep : Char → Bool) (routes : List (Route V A)) (verb : V)
    (link : String) (found : A × List (String × String)) : Prop :=
  ∃ path : String, octets path.toList = percentDecode (requested keep link) ∧
    dispatch routes verb (segmentsOf path) = some found

/-- The text is a segment that a reference passes on as it is. -/
structure Linkable (text : String) : Prop where
  nonempty : text ≠ ""
  clean : Clean text.toList

instance (text : String) : Decidable (Linkable text) :=
  decidable_of_iff (text ≠ "" ∧ Clean text.toList)
    ⟨fun h => ⟨h.1, h.2⟩, fun h => ⟨h.nonempty, h.clean⟩⟩

theorem pathText_join {segments : List String} (some : segments ≠ []) :
    (pathText segments).toList = join ([] :: segments.map String.toList) := by
  rw [pathText_toList]
  cases segments with
  | nil => exact absurd rfl some
  | cons segment rest => simp [join]

theorem pathText_segmentsOf {path : String} (some : segmentsOf path ≠ []) :
    pathText (segmentsOf path) = path := by
  unfold segmentsOf at some ⊢
  split
  · rename_i rest shape
    apply String.toList_injective
    rw [pathText_toList, List.map_map, shape]
    have same : (rest.splitOn '/').map (String.toList ∘ String.ofList) = rest.splitOn '/' := by
      simp
    rw [same, List.intercalate_splitOn]
  · rename_i other
    split at some
    · rename_i rest shape
      exact absurd shape (other rest)
    · exact absurd rfl some

theorem cleanPieces_of_linkable {segments : List String}
    (clean : ∀ segment ∈ segments, Clean segment.toList) :
    ∀ piece ∈ [] :: segments.map String.toList, Clean piece := by
  intro piece member
  rcases List.mem_cons.mp member with first | later
  · rw [first]
    decide
  · obtain ⟨segment, mem, same⟩ := List.mem_map.mp later
    rw [← same]
    exact clean segment mem

variable {keep : Char → Bool}

theorem requested_clean (slash : keep '/' = true) {segments : List String} (some : segments ≠ [])
    (clean : ∀ segment ∈ segments, Clean segment.toList) :
    percentDecode (requested keep (pathText segments)) = octets (pathText segments).toList := by
  have cleanPieces := cleanPieces_of_linkable clean
  rw [requested, pathText_join some, clean_parts cleanPieces,
    clean_segments slash (List.cons_ne_nil _ _) cleanPieces]
  exact percentDecode_join (quoted_denote keep fun v member => (cleanPieces v member).unescaped)

theorem clean_of_requested (slash : keep '/' = true) (dot : keep '.' = true)
    {segments : List String} (some : segments ≠ [])
    (free : ∀ segment ∈ segments, '/' ∉ segment.toList)
    (same : octets (pathText segments).toList =
      percentDecode (requested keep (pathText segments))) :
    ∀ segment ∈ segments, Clean segment.toList := by
  have freePieces : ∀ piece ∈ [] :: segments.map String.toList, '/' ∉ piece := by
    intro piece member
    rcases List.mem_cons.mp member with first | later
    · rw [first]
      exact List.not_mem_nil
    · obtain ⟨segment, mem, rfl⟩ := List.mem_map.mp later
      exact free segment mem
  have arrives := congrArg List.length same
  rw [requested, pathText_join some] at arrives
  have clean := clean_of_heavy slash dot freePieces (by
    rw [arrives]
    cases sent : pathSegments keep (parts (join ([] :: segments.map String.toList))).path with
    | nil =>
      rw [sent] at arrives
      cases segments with
      | nil => exact absurd rfl some
      | cons segment rest =>
        rw [List.map_cons, join_cons_cons, List.nil_append] at arrives
        simp [join, octets, percentDecode] at arrives
        have slashSize := Char.utf8Size_pos '/'
        omega
    | cons first rest => exact Nat.le_of_eq (weight_eq_join first rest).symm)
  intro segment member
  exact clean _ (List.mem_cons_of_mem _ (List.mem_map_of_mem member))

variable {V A : Type} [DecidableEq V]

/-- A link that is written by filling in a route leads to this route, with the values it was
    filled with, exactly if every value is passed on as it is. -/
theorem link_leads_iff {routes : List (Route V A)} (apart : routes.Pairwise Route.Apart)
    (slash : keep '/' = true) (dot : keep '.' = true) {r : Route V A} (member : r ∈ routes)
    (unique : ∀ s ∈ routes, s.endpoint = r.endpoint → s = r) (rooted : r.pattern ≠ [])
    (literals : ∀ text, .lit text ∈ r.pattern → Clean text.toList) {values : List String}
    (given : values.length = (params r.pattern).length) :
    Leads keep routes r.verb (pathText (fill r.pattern values))
        (r.endpoint, (params r.pattern).zip values) ↔ ∀ value ∈ values, Linkable value := by
  have filled := fill_ne_nil rooted given
  constructor
  · intro leads value mem
    obtain ⟨path, received, found⟩ := leads
    obtain ⟨s, listed, accepted⟩ := (dispatch_eq_some_iff apart _ _ _).mp found
    rw [accept_eq_some_iff] at accepted
    have own := unique s listed accepted.2.1
    rw [own] at accepted
    obtain ⟨segments, _, nonempty⟩ := fill_of_bindings accepted.2.2
    rw [List.map_snd_zip (Nat.le_of_eq given)] at segments nonempty
    have written : path = pathText (fill r.pattern values) := by
      rw [← segments]
      exact (pathText_segmentsOf (by rw [segments]; exact filled)).symm
    have free : ∀ segment ∈ fill r.pattern values, '/' ∉ segment.toList := by
      intro segment inside
      rw [← segments] at inside
      exact segmentsOf_free inside
    rw [written] at received
    exact ⟨nonempty value mem,
      clean_of_requested slash dot filled free received value (value_mem_fill given mem)⟩
  · intro linkable
    have clean : ∀ segment ∈ fill r.pattern values, Clean segment.toList := by
      intro segment mem
      rcases mem_fill mem with literal | value
      · exact literals segment literal
      · exact (linkable segment value).clean
    refine ⟨_, (requested_clean slash filled clean).symm, ?_⟩
    exact (dispatch_pathText_iff apart member (fun text mem => (literals text mem).slash) rooted
      given).mpr fun value mem => ⟨(linkable value mem).nonempty, (linkable value mem).clean.slash⟩

end Links

end PathPatterns

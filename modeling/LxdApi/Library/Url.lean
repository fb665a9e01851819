import LxdApi.Library.UriReference
import LxdApi.Library.TextReplace

set_option autoImplicit false

/- Whole URLs as RFC 3986 parses them: the scheme before the first `:`, the authority
   after `//`, and the fields of a query, whose names and values are percent-encoded. -/
namespace UriReference

structure Url where
  scheme : Option (List Char)
  authority : Option (List Char)
  path : List Char
  query : Option (List Char)
  fragment : Option (List Char)

def splitScheme (hierarchy : List Char) : Option (List Char) × List Char :=
  match cut ':' hierarchy with
  | (name, some rest) => if name = [] ∨ '/' ∈ name then (none, hierarchy) else (some name, rest)
  | (_, none) => (none, hierarchy)

def splitAuthority : List Char → Option (List Char) × List Char
  | '/' :: '/' :: rest => (some (rest.takeWhile (· ≠ '/')), rest.dropWhile (· ≠ '/'))
  | path => (none, path)

def parse (text : List Char) : Url :=
  let components := parts text
  let hierarchy := splitScheme components.path
  let located := splitAuthority hierarchy.2
  ⟨hierarchy.1, located.1, located.2, components.query, components.fragment⟩

/-- In a query `+` is a space. -/
def formDecode (text : List Char) : List UInt8 :=
  percentDecode (text.map fun c => if c = '+' then ' ' else c)

def parameter (field : List Char) : List UInt8 × List UInt8 :=
  (formDecode (cut '=' field).1, formDecode ((cut '=' field).2.getD []))

def parameters (query : List Char) : List (List UInt8 × List UInt8) :=
  (query.splitOn '&').map parameter

/-- Percent-encode what `keep` does not admit, also the `%` of an existing escape. -/
def encode (keep : Char → Bool) (text : List Char) : List Char :=
  text.flatMap fun c => if keep c then [c] else (String.utf8EncodeChar c).flatMap escape

section Cutting

theorem cut_append_absent {c : Char} {a : List Char} (absent : c ∉ a) (rest : List Char) :
    cut c (a ++ rest) = (a ++ (cut c rest).1, (cut c rest).2) := by
  induction a with
  | nil => rfl
  | cons d tail ih =>
    simp only [List.mem_cons, not_or] at absent
    rw [List.cons_append, cut, if_neg (Ne.symm absent.1), ih absent.2]
    rfl

theorem cut_append_present {c : Char} {a : List Char} (present : c ∈ a) (rest : List Char) :
    (cut c (a ++ rest)).1 = (cut c a).1 := by
  induction a with
  | nil => cases present
  | cons d tail ih =>
    by_cases here : d = c
    · simp [cut, here]
    · have later : c ∈ tail := by
        rcases List.mem_cons.mp present with first | later
        · exact absurd first.symm here
        · exact later
      simp [cut, here, ih later]

theorem cut_subset (c : Char) (a : List Char) : (cut c a).1 ⊆ a := by
  induction a with
  | nil => exact List.Subset.refl _
  | cons d tail ih =>
    rw [cut]
    split
    · exact List.nil_subset _
    · exact List.cons_subset_cons d ih

theorem query_absent {a : List Char} (query : '?' ∉ a) : (parts a).query = none := by
  have free : '?' ∉ (cut '#' a).1 := fun member => query (cut_subset '#' a member)
  simp only [parts, cut_absent free]

theorem parts_plain {a : List Char} (query : '?' ∉ a) (fragment : '#' ∉ a) :
    parts a = ⟨a, none, none⟩ := by
  simp [parts, cut_absent fragment, cut_absent query]

theorem parts_query {a q : List Char} (query : '?' ∉ a) (fragment : '#' ∉ a)
    (plain : '#' ∉ q) : parts (a ++ '?' :: q) = ⟨a, some q, none⟩ := by
  have whole : '#' ∉ a ++ '?' :: q := by simp [fragment, plain]
  have first : cut '?' ('?' :: q) = ([], some q) := by simp [cut]
  simp [parts, cut_absent whole, cut_append_absent query, first]

theorem parts_path_append {a : List Char} (inside : '?' ∈ a ∨ '#' ∈ a) (rest : List Char) :
    (parts (a ++ rest)).path = (parts a).path := by
  by_cases fragment : '#' ∈ a
  · simp only [parts, cut_append_present fragment]
  · have query := inside.resolve_right fragment
    simp only [parts, cut_append_absent fragment, cut_absent fragment, cut_append_present query]

theorem parts_append {a : List Char} (query : '?' ∉ a) (fragment : '#' ∉ a) (rest : List Char) :
    parts (a ++ rest) = ⟨a ++ (parts rest).path, (parts rest).query, (parts rest).fragment⟩ := by
  simp only [parts, cut_append_absent fragment, cut_append_absent query]

theorem takeWhile_stop {p : Char → Bool} {c : Char} (stop : p c = false) (a rest : List Char) :
    (a ++ c :: rest).takeWhile p = a.takeWhile p := by
  induction a with
  | nil => simp [stop]
  | cons d tail ih => simp [List.takeWhile_cons, ih]

theorem dropWhile_stop {p : Char → Bool} {c : Char} (stop : p c = false) (a rest : List Char) :
    (a ++ c :: rest).dropWhile p = a.dropWhile p ++ c :: rest := by
  induction a with
  | nil => simp [stop]
  | cons d tail ih =>
    by_cases keep : p d = true
    · simp [keep, ih]
    · simp [keep]

end Cutting

/- A text that can stand before the first `:` of a URL. -/
structure SchemeName (s : List Char) : Prop where
  some : s ≠ []
  colon : ':' ∉ s
  slash : '/' ∉ s
  query : '?' ∉ s
  fragment : '#' ∉ s

section Parsing
variable {scheme : List Char} (name : SchemeName scheme)
include name

theorem parse_of_scheme (rest : List Char) :
    parse (scheme ++ ':' :: rest) = ⟨some scheme, (splitAuthority (parts rest).path).1,
      (splitAuthority (parts rest).path).2, (parts rest).query, (parts rest).fragment⟩ := by
  have lead : scheme ++ ':' :: rest = (scheme ++ [':']) ++ rest := by simp
  have query : '?' ∉ scheme ++ [':'] := by simp [name.query]
  have fragment : '#' ∉ scheme ++ [':'] := by simp [name.fragment]
  have split : splitScheme ((scheme ++ [':']) ++ (parts rest).path) =
      (some scheme, (parts rest).path) := by
    have colon : cut ':' (':' :: (parts rest).path) = ([], some (parts rest).path) := by simp [cut]
    rw [List.append_assoc, List.singleton_append, splitScheme, cut_append_absent name.colon, colon]
    simp [name.some, name.slash]
  rw [lead, parse, parts_append query fragment]
  simp only [split]

theorem parse_append {base rest : List Char} (query : '?' ∉ base) (fragment : '#' ∉ base) :
    parse (scheme ++ ':' :: '/' :: '/' :: (base ++ '/' :: rest)) =
      ⟨some scheme, some (base.takeWhile (· ≠ '/')),
        base.dropWhile (· ≠ '/') ++ '/' :: (parts rest).path, (parts rest).query,
        (parts rest).fragment⟩ := by
  have query' : '?' ∉ '/' :: '/' :: (base ++ ['/']) := by simp [query]
  have fragment' : '#' ∉ '/' :: '/' :: (base ++ ['/']) := by simp [fragment]
  have whole : '/' :: '/' :: (base ++ '/' :: rest) = ('/' :: '/' :: (base ++ ['/'])) ++ rest := by
    simp
  have located : splitAuthority (('/' :: '/' :: (base ++ ['/'])) ++ (parts rest).path) =
      (some (base.takeWhile (· ≠ '/')), base.dropWhile (· ≠ '/') ++ '/' :: (parts rest).path) := by
    simp only [List.cons_append, List.append_assoc, List.nil_append, splitAuthority]
    rw [takeWhile_stop (by simp), dropWhile_stop (by simp)]
  rw [parse_of_scheme name, whole, parts_append query' fragment', located]

end Parsing

section Replacing
open TextReplace
variable {old new : List Char}

theorem cut_present {c : Char} {text : List Char} (present : c ∈ text) :
    ∃ rest, text = (cut c text).1 ++ c :: rest ∧ c ∉ (cut c text).1 := by
  induction text with
  | nil => cases present
  | cons d tail ih =>
    by_cases here : d = c
    · exact ⟨tail, by simp [cut, here], by simp [cut, here]⟩
    · have later : c ∈ tail := by
        rcases List.mem_cons.mp present with first | later
        · exact absurd first.symm here
        · exact later
      obtain ⟨rest, shape, free⟩ := ih later
      refine ⟨rest, ?_, ?_⟩
      · simp only [cut, here, if_false, List.cons_append]
        rw [← shape]
      · simp [cut, here, free, Ne.symm here]

theorem cut_replace (some : old ≠ []) {c : Char} (absent : c ∉ old) (unwritten : c ∉ new)
    (text : List Char) : (cut c (replace old new text)).1 = replace old new (cut c text).1 := by
  have still : ∀ a, c ∉ a → c ∉ replace old new a := by
    intro a free
    rw [← List.count_eq_zero] at absent unwritten free ⊢
    rw [count_replace some (absent.trans unwritten.symm), free]
  by_cases present : c ∈ text
  · obtain ⟨rest, shape, free⟩ := cut_present present
    conv => lhs; rw [shape, replace_separator some absent]
    rw [cut_append_absent (still _ free)]
    simp [cut]
  · rw [cut_absent present, cut_absent (still text present)]

theorem parts_replace (some : old ≠ []) (query : '?' ∉ old ∧ '?' ∉ new)
    (fragment : '#' ∉ old ∧ '#' ∉ new) (text : List Char) :
    (parts (replace old new text)).path = replace old new (parts text).path := by
  simp only [parts]
  rw [cut_replace some fragment.1 fragment.2, cut_replace some query.1 query.2]

theorem splitAuthority_slashes (hierarchy : List Char) :
    (splitAuthority hierarchy).2.count '/' =
      if ['/', '/'] <+: hierarchy then hierarchy.count '/' - 2 else hierarchy.count '/' := by
  have dropped : ∀ l : List Char, (l.dropWhile (· ≠ '/')).count '/' = l.count '/' := by
    intro l
    induction l with
    | nil => rfl
    | cons c tail ih =>
      by_cases slash : c = '/'
      · simp [slash]
      · simp only [List.dropWhile_cons, slash, ne_eq, not_false_eq_true, decide_true, if_true]
        rw [ih, List.count_cons_of_ne slash]
  unfold splitAuthority
  split
  · rename_i rest
    rw [if_pos ⟨rest, rfl⟩, dropped, List.count_cons_self, List.count_cons_self]
    omega
  · rename_i other
    rw [if_neg]
    rintro ⟨rest, shape⟩
    exact other rest shape.symm

end Replacing

section Fields
variable {keep : Char → Bool}

theorem percentDecode_encode (percent : keep '%' = false) (text : List Char) :
    percentDecode (encode keep text) = octets text := by
  induction text with
  | nil => rfl
  | cons c rest ih =>
    unfold encode at ih ⊢
    rw [List.flatMap_cons]
    by_cases kept : keep c = true
    · have plain : c ≠ '%' := by
        intro same
        rw [same, percent] at kept
        cases kept
      rw [if_pos kept, List.singleton_append, percentDecode_plain (tokens_plain plain _), ih]
      rfl
    · rw [if_neg kept, percentDecode_escapes, ih]
      rfl

theorem mem_encode {c : Char} {text : List Char} (member : c ∈ encode keep text) :
    keep c = true ∨ c = '%' ∨ isHex c = true := by
  obtain ⟨d, _, inside⟩ := List.mem_flatMap.mp member
  by_cases kept : keep d = true
  · rw [if_pos kept, List.mem_singleton] at inside
    rw [inside]
    exact Or.inl kept
  · rw [if_neg kept] at inside
    obtain ⟨byte, _, inside⟩ := List.mem_flatMap.mp inside
    have high : byte.toNat / 16 < 16 := by have := byte.toNat_lt; omega
    have low : byte.toNat % 16 < 16 := by omega
    simp only [escape, List.mem_cons, List.not_mem_nil, or_false] at inside
    rcases inside with percent | first | second
    · exact Or.inr (Or.inl percent)
    · rw [first]
      exact Or.inr (Or.inr (hexDigit_isHex high))
    · rw [second]
      exact Or.inr (Or.inr (hexDigit_isHex low))

theorem formDecode_of_absent {text : List Char} (plus : '+' ∉ text) :
    formDecode text = percentDecode text := by
  have same : (text.map fun c => if c = '+' then ' ' else c) = text := by
    conv => rhs; rw [← List.map_id text]
    apply List.map_congr_left
    intro c member
    refine if_neg ?_
    intro same
    rw [same] at member
    exact plus member
  rw [formDecode, same]

theorem parameters_field {name value : List Char} (percent : keep '%' = false)
    (ampersand : keep '&' = false) (plus : keep '+' = false)
    (plain : Unescaped name) (separators : '&' ∉ name ∧ '=' ∉ name ∧ '+' ∉ name) :
    parameters (name ++ '=' :: encode keep value) = [(octets name, octets value)] := by
  have free : ∀ c, keep c = false → c ≠ '%' → isHex c = false → c ∉ encode keep value := by
    intro c refused other digit member
    rcases mem_encode member with kept | same | hex
    · rw [refused] at kept
      cases kept
    · exact other same
    · rw [digit] at hex
      cases hex
  have whole : '&' ∉ name ++ '=' :: encode keep value := by
    simp [separators.1, free '&' ampersand (by decide) (by decide)]
  have single : (name ++ '=' :: encode keep value).splitOn '&' =
      [name ++ '=' :: encode keep value] := by
    have free : ∀ field ∈ [name ++ '=' :: encode keep value], '&' ∉ field := by
      intro field member
      rw [List.mem_singleton] at member
      rw [member]
      exact whole
    have joined := List.splitOn_intercalate '&' free (List.cons_ne_nil _ _)
    rwa [List.intercalate_singleton] at joined
  have value' : cut '=' (name ++ '=' :: encode keep value) = (name, some (encode keep value)) := by
    rw [cut_append_absent separators.2.1]
    simp [cut]
  rw [parameters, single, List.map_singleton, parameter, value']
  dsimp only [Option.getD_some]
  rw [formDecode_of_absent separators.2.2, percentDecode_unescaped plain,
    formDecode_of_absent (free '+' plus (by decide) (by decide)), percentDecode_encode percent]

end Fields
end UriReference

import LxdApi.Library.TextReplace
import LxdApi.Library.Url
import LxdApi.ResourceRoutes
import Mathlib.Data.List.DropRight

set_option autoImplicit false

/- The texts that `LXDClient.ws_url` builds, with the settings they depend on, and the
   URL of the events that `operations_ws` makes of one. -/
namespace LxdApi
open UriReference TextReplace

/-- `LXD_REMOTE_URL` as its validator leaves it. -/
structure RemoteUrl where
  text : List Char
  stripped : ∀ some : text ≠ [], text.getLast some ≠ '/'

/-- `v.rstrip("/")` -/
def stripTrailingSlash (v : String) : RemoteUrl where
  text := v.toList.rdropWhile fun c => c = '/'
  stripped := by
    intro some last
    exact List.rdropWhile_last_not (fun c => decide (c = '/')) v.toList some (decide_eq_true last)

structure LxdSettings extends Settings where
  LXD_REMOTE_URL : RemoteUrl := stripTrailingSlash "https://lxd-host:8443"

/-- What `urllib.parse.quote` never encodes. -/
def unreserved (c : Char) : Bool :=
  ('A' ≤ c ∧ c ≤ 'Z') ∨ ('a' ≤ c ∧ c ≤ 'z') ∨ ('0' ≤ c ∧ c ≤ '9') ∨
    c = '_' ∨ c = '.' ∨ c = '-' ∨ c = '~'

/-- `.replace("https://", "wss://")` -/
def replaceSecure (text : List Char) : List Char :=
  replace "https://".toList "wss://".toList text

/-- `.replace("http://", "ws://")` -/
def replacePlain (text : List Char) : List Char := replace "http://".toList "ws://".toList text

def toWebSocket (text : List Char) : List Char := replacePlain (replaceSecure text)

/-- What `ws_url` puts in front of the path. -/
def wsBase (settings : LxdSettings) : List Char :=
  match settings.LXD_CONNECTION_MODE with
  | .remote => toWebSocket settings.LXD_REMOTE_URL.text
  | .local => "http://unix".toList

/-- `?secret=...`, for a secret that is given and not empty. -/
def secretQuery : Option String → List Char
  | some secret =>
    if secret = "" then [] else "?secret=".toList ++ encode unreserved secret.toList
  | none => []

def wsUrl (settings : LxdSettings) (path : String) (secret : Option String := none) : List Char :=
  let url := if path.toList.head? = some '/' then path.toList else "/1.0/".toList ++ path.toList
  wsBase settings ++ url ++ secretQuery secret

def eventWsUrl (settings : LxdSettings) : List Char :=
  wsUrl settings "events" ++ "&type=operation".toList

/-- A path as the handlers write it, without the prefix that `ws_url` adds. -/
def LXDPath.relative : LXDPath → String
  | .under first rest => "/".intercalate (first.text :: rest.map Piece.text)
  | .root => "/"

def WsUrl.text (settings : LxdSettings) (url : WsUrl) : List Char :=
  wsUrl settings url.path.relative url.secret ++ url.suffix.toList

example (settings : LxdSettings) :
    WsUrl.text settings ⟨.under .events [], none, "&type=operation"⟩ = eventWsUrl settings := rfl

theorem head_intercalate (first : Word) (rest : List String) :
    ("/".intercalate (first.text :: rest)).toList.head? = first.text.toList.head? := by
  have some : first.text.toList ≠ [] := by cases first <;> decide
  rw [String.toList_intercalate, List.map_cons]
  cases rest with
  | nil => rw [List.map_nil, List.intercalate_singleton]
  | cons second rest =>
    rw [List.map_cons, List.intercalate_cons_cons, List.append_assoc,
      List.head?_append_of_ne_nil _ some]

theorem wsUrl_path (settings : LxdSettings) (path : LXDPath) (secret : Option String) :
    wsUrl settings path.relative secret =
      wsBase settings ++ path.url.toList ++ secretQuery secret := by
  cases path with
  | root => rfl
  | under first rest =>
    have relative : first.text.toList.head? ≠ some '/' := by cases first <;> decide
    rw [wsUrl, LXDPath.relative, head_intercalate, if_neg relative, LXDPath.url,
      String.toList_append]

/-- `http` or `https`, in letters of either case. -/
def IsHttp (scheme : List Char) : Prop :=
  scheme.map Char.toLower = "http".toList ∨ scheme.map Char.toLower = "https".toList

def wsScheme (scheme : List Char) : List Char :=
  if scheme.map Char.toLower = "https".toList then "wss".toList else "ws".toList

section Schemes
variable {scheme : List Char} (http : IsHttp scheme)
include http

theorem absent_of_isHttp {c : Char} (foreign : c.toLower ∉ "https".toList) : c ∉ scheme := by
  intro member
  have lowered : c.toLower ∈ scheme.map Char.toLower := List.mem_map_of_mem member
  rcases http with same | same
  · rw [same] at lowered
    have more : "http".toList ⊆ "https".toList := by decide
    exact foreign (more lowered)
  · rw [same] at lowered
    exact foreign lowered

theorem isHttp_name : SchemeName scheme where
  some := by
    rintro rfl
    rcases http with same | same <;> simp at same
  colon := absent_of_isHttp http (by decide)
  slash := absent_of_isHttp http (by decide)
  query := absent_of_isHttp http (by decide)
  fragment := absent_of_isHttp http (by decide)

theorem isHttp_length : 4 ≤ scheme.length := by
  rw [← List.length_map Char.toLower]
  rcases http with same | same
  · rw [same]
    decide
  · rw [same]
    decide

theorem isHttp_cons : ∃ head tail, scheme = head :: tail ∧ 'h' ∉ tail := by
  obtain ⟨head, tail, shape⟩ := List.exists_cons_of_ne_nil (isHttp_name http).some
  refine ⟨head, tail, shape, ?_⟩
  intro member
  have lowered : 'h'.toLower ∈ tail.map Char.toLower := List.mem_map_of_mem member
  subst shape
  rcases http with same | same
  · rw [(List.cons.inj same).2] at lowered
    revert lowered
    decide
  · rw [(List.cons.inj same).2] at lowered
    revert lowered
    decide

theorem replace_scheme {x w : List Char} (colon : ':' ∉ 'h' :: x) (rest : List Char) :
    replace ('h' :: x ++ ':' :: ['/', '/']) (w ++ ':' :: ['/', '/']) (scheme ++ ':' :: rest) =
      (if scheme = 'h' :: x ∧ ['/', '/'] <+: rest then w else scheme) ++
        ':' :: replace ('h' :: x ++ ':' :: ['/', '/']) (w ++ ':' :: ['/', '/']) rest := by
  by_cases hit : scheme = 'h' :: x ∧ ['/', '/'] <+: rest
  · obtain ⟨same, tail, shape⟩ := hit
    subst shape
    have whole : scheme ++ ':' :: (['/', '/'] ++ tail) =
        ('h' :: x ++ ':' :: ['/', '/']) ++ tail := by
      rw [same, List.append_assoc]
      rfl
    rw [if_pos ⟨same, tail, rfl⟩, whole, replace_hit (by simp)]
    rw [List.cons_append, replace_free (by decide)]
    simp
  · have miss : ¬ 'h' :: x ++ ':' :: ['/', '/'] <+: scheme ++ ':' :: rest := by
      rw [prefix_separator_iff colon (isHttp_name http).colon]
      rintro ⟨same, found⟩
      exact hit ⟨same.symm, found⟩
    obtain ⟨head, tail, shape, free⟩ := isHttp_cons http
    have lead : 'h' ∉ tail ++ [':'] := by simp [free]
    have after : tail ++ ':' :: rest = (tail ++ [':']) ++ rest := by simp
    rw [if_neg hit]
    subst shape
    simp only [List.cons_append] at miss ⊢
    rw [replace_miss miss, after, replace_free lead]
    simp

theorem replaceSecure_scheme (rest : List Char) :
    replaceSecure (scheme ++ ':' :: rest) =
      (if scheme = "https".toList ∧ ['/', '/'] <+: rest then "wss".toList else scheme) ++
        ':' :: replaceSecure rest :=
  replace_scheme http (x := "ttps".toList) (w := "wss".toList) (by decide) rest

theorem replacePlain_scheme (rest : List Char) :
    replacePlain (scheme ++ ':' :: rest) =
      (if scheme = "http".toList ∧ ['/', '/'] <+: rest then "ws".toList else scheme) ++
        ':' :: replacePlain rest :=
  replace_scheme http (x := "ttp".toList) (w := "ws".toList) (by decide) rest

omit http in
theorem replacePlain_free {a : List Char} (free : 'h' ∉ a) (rest : List Char) :
    replacePlain (a ++ rest) = a ++ replacePlain rest :=
  replace_free free rest

omit http in
theorem slashes_replaceSecure (text : List Char) :
    ['/', '/'] <+: replaceSecure text ↔ ['/', '/'] <+: text :=
  prefix_replace_iff (by decide) (by decide) text

/-- The scheme that `ws_url` writes in front of the rest of the base. -/
def writtenScheme (scheme rest : List Char) : List Char :=
  if scheme = "https".toList ∧ ['/', '/'] <+: rest then "wss".toList
  else if scheme = "http".toList ∧ ['/', '/'] <+: rest then "ws".toList
  else scheme

theorem toWebSocket_scheme (rest : List Char) :
    toWebSocket (scheme ++ ':' :: rest) = writtenScheme scheme rest ++ ':' :: toWebSocket rest := by
  unfold toWebSocket writtenScheme
  rw [replaceSecure_scheme http]
  by_cases secure : scheme = "https".toList ∧ ['/', '/'] <+: rest
  · have skipped := replacePlain_free (a := "wss:".toList) (by decide) (replaceSecure rest)
    rw [if_pos secure, if_pos secure]
    exact skipped
  · rw [if_neg secure, if_neg secure, replacePlain_scheme http]
    simp only [slashes_replaceSecure]

theorem writtenScheme_name (rest : List Char) : SchemeName (writtenScheme scheme rest) := by
  unfold writtenScheme
  split_ifs
  · exact ⟨by decide, by decide, by decide, by decide, by decide⟩
  · exact ⟨by decide, by decide, by decide, by decide, by decide⟩
  · exact isHttp_name http

omit http in
theorem wsScheme_name (scheme : List Char) : SchemeName (wsScheme scheme) := by
  unfold wsScheme
  split_ifs <;> exact ⟨by decide, by decide, by decide, by decide, by decide⟩

theorem writtenScheme_iff (rest : List Char) :
    writtenScheme scheme rest = wsScheme scheme ↔
      (scheme = "https".toList ∨ scheme = "http".toList) ∧ ['/', '/'] <+: rest := by
  constructor
  · intro same
    unfold writtenScheme at same
    split_ifs at same with secure plain
    · exact ⟨Or.inl secure.1, secure.2⟩
    · exact ⟨Or.inr plain.1, plain.2⟩
    · -- A scheme that is left as it is has too many letters.
      have long := isHttp_length http
      have short : (wsScheme scheme).length ≤ 3 := by
        unfold wsScheme
        split_ifs <;> decide
      rw [← same] at short
      omega
  · intro literal
    obtain ⟨secure | plain, slashes⟩ := literal
    · subst secure
      rw [writtenScheme, if_pos ⟨rfl, slashes⟩]
      rfl
    · subst plain
      have other : ¬ ("http".toList = "https".toList ∧ ['/', '/'] <+: rest) := by
        intro both
        exact absurd both.1 (by decide)
      rw [writtenScheme, if_neg other, if_pos ⟨rfl, slashes⟩]
      rfl

omit http in
theorem toWebSocket_eq_self_iff (text : List Char) :
    toWebSocket text = text ↔ ¬ "https://".toList <:+: text ∧ ¬ "http://".toList <:+: text := by
  have secureSome : "https://".toList ≠ [] := by decide
  have plainSome : "http://".toList ≠ [] := by decide
  have secureLess : "wss://".toList.length < "https://".toList.length := by decide
  have plainLess : "ws://".toList.length < "http://".toList.length := by decide
  constructor
  · intro same
    have lengths := congrArg List.length same
    have first : ¬ "https://".toList <:+: text := by
      intro found
      have less := replace_length_lt secureSome secureLess found
      have bound := replace_length_le plainSome (Nat.le_of_lt plainLess) (replaceSecure text)
      simp only [toWebSocket, replacePlain, replaceSecure] at lengths bound
      omega
    have kept : replaceSecure text = text := replace_absent secureSome first
    refine ⟨first, ?_⟩
    intro found
    have less := replace_length_lt plainSome plainLess found
    rw [toWebSocket, kept, replacePlain] at lengths
    omega
  · intro absent
    have kept : replaceSecure text = text := replace_absent secureSome absent.1
    rw [toWebSocket, kept]
    exact replace_absent plainSome absent.2

theorem toWebSocket_target_iff (rest : List Char) :
    toWebSocket (scheme ++ ':' :: rest) = wsScheme scheme ++ ':' :: rest ↔
      ((scheme = "https".toList ∨ scheme = "http".toList) ∧ ['/', '/'] <+: rest) ∧
        ¬ "https://".toList <:+: rest ∧ ¬ "http://".toList <:+: rest := by
  rw [toWebSocket_scheme http, ← writtenScheme_iff http, ← toWebSocket_eq_self_iff]
  constructor
  · intro same
    exact separator_inj (writtenScheme_name http rest).colon (wsScheme_name scheme).colon same
  · intro both
    rw [both.1, both.2]

end Schemes

def secretParameters : Option String → Option (List (List UInt8 × List UInt8))
  | some secret =>
    if secret = "" then none else some [(octets "secret".toList, octets secret.toList)]
  | none => none

/- What a WebSocket URL should decode to, for the base that it should start with. -/
structure Decodes (settings : LxdSettings) (target : List Char) (asked : String)
    (secret : Option String) : Prop where
  base : wsBase settings = target
  scheme : (parse (wsUrl settings asked secret)).scheme = (parse target).scheme
  authority : (parse (wsUrl settings asked secret)).authority = (parse target).authority
  path : (parse (wsUrl settings asked secret)).path =
    (parse target).path ++ "/1.0/".toList ++ asked.toList
  query : (parse (wsUrl settings asked secret)).query.map parameters = secretParameters secret

structure EventDecodes (settings : LxdSettings) (target : List Char) : Prop where
  path : (parse (eventWsUrl settings)).path = (parse target).path ++ "/1.0/events".toList
  query : (parse (eventWsUrl settings)).query = some "type=operation".toList

structure RelativePath (path : String) : Prop where
  relative : path.toList.head? ≠ some '/'
  query : '?' ∉ path.toList
  fragment : '#' ∉ path.toList

section Decoding
variable {settings : LxdSettings} {path : String}

theorem wsUrl_relative (relative : RelativePath path) (secret : Option String) :
    wsUrl settings path secret =
      wsBase settings ++ '/' :: ("1.0/".toList ++ path.toList ++ secretQuery secret) := by
  simp only [wsUrl, if_neg relative.relative, List.append_assoc]
  rfl

theorem parts_secretQuery {text : List Char} (query : '?' ∉ text) (fragment : '#' ∉ text)
    (secret : Option String) :
    (parts (text ++ secretQuery secret)).path = text ∧
      (parts (text ++ secretQuery secret)).query.map parameters = secretParameters secret := by
  have plain : (parts text).path = text ∧ (parts text).query.map parameters = none := by
    rw [parts_plain query fragment]
    exact ⟨rfl, rfl⟩
  cases secret with
  | none =>
    rw [secretQuery, List.append_nil]
    exact plain
  | some secret =>
    by_cases blank : secret = ""
    · rw [secretQuery, secretParameters, if_pos blank, if_pos blank, List.append_nil]
      exact plain
    · have sharp : '#' ∉ "secret=".toList ++ encode unreserved secret.toList := by
        intro member
        rcases List.mem_append.mp member with name | value
        · revert name
          decide
        · rcases mem_encode value with kept | same | hex
          · revert kept
            decide
          · revert same
            decide
          · revert hex
            decide
      have shape : secretQuery (some secret) =
          '?' :: ("secret=".toList ++ encode unreserved secret.toList) := by
        rw [secretQuery, if_neg blank]
        rfl
      have field : parameters ("secret".toList ++ '=' :: encode unreserved secret.toList) =
          [(octets "secret".toList, octets secret.toList)] :=
        parameters_field (by decide) (by decide) (by decide) (by decide) (by decide)
      rw [shape, parts_query query fragment sharp, secretParameters, if_neg blank]
      exact ⟨rfl, congrArg some field⟩

theorem decodes_of_plain {scheme base : List Char} (name : SchemeName scheme)
    (query : '?' ∉ base) (fragment : '#' ∉ base)
    (written : wsBase settings = scheme ++ ':' :: '/' :: '/' :: base)
    (relative : RelativePath path) (secret : Option String) :
    Decodes settings (scheme ++ ':' :: '/' :: '/' :: base) path secret := by
  have target : parse (scheme ++ ':' :: '/' :: '/' :: base) =
      ⟨some scheme, some (base.takeWhile (· ≠ '/')), base.dropWhile (· ≠ '/'), none, none⟩ := by
    rw [parse_of_scheme name, parts_plain (by simp [query]) (by simp [fragment])]
    rfl
  have url : parse (wsUrl settings path secret) =
      ⟨some scheme, some (base.takeWhile (· ≠ '/')),
        base.dropWhile (· ≠ '/') ++
          '/' :: (parts ("1.0/".toList ++ path.toList ++ secretQuery secret)).path,
        (parts ("1.0/".toList ++ path.toList ++ secretQuery secret)).query,
        (parts ("1.0/".toList ++ path.toList ++ secretQuery secret)).fragment⟩ := by
    rw [wsUrl_relative relative, written, List.append_assoc]
    exact parse_append name query fragment
  have query : '?' ∉ "1.0/".toList ++ path.toList := by simp [relative.query]
  have fragment : '#' ∉ "1.0/".toList ++ path.toList := by simp [relative.fragment]
  obtain ⟨cut, field⟩ := parts_secretQuery query fragment secret
  refine ⟨written, ?_, ?_, ?_, ?_⟩
  · rw [url, target]
  · rw [url, target]
  · rw [url, target]
    dsimp only
    rw [cut, List.append_assoc]
    rfl
  · rw [url]
    exact field

theorem path_of_inside {scheme rest : List Char} (name : SchemeName scheme)
    (inside : '?' ∈ rest ∨ '#' ∈ rest) (more : List Char) :
    (parse (scheme ++ ':' :: rest ++ more)).path = (parse (scheme ++ ':' :: rest)).path := by
  rw [List.append_assoc, List.cons_append, parse_of_scheme name, parse_of_scheme name]
  dsimp only
  rw [parts_path_append inside]

theorem plain_of_decodes {scheme rest : List Char} (name : SchemeName scheme)
    (relative : RelativePath path) {secret : Option String}
    (decodes : Decodes settings (scheme ++ ':' :: rest) path secret) :
    '?' ∉ rest ∧ '#' ∉ rest := by
  rw [← not_or]
  intro inside
  have located := decodes.path
  rw [wsUrl_relative relative, decodes.base, path_of_inside name inside] at located
  have lengths := congrArg List.length located
  have prefix' : "/1.0/".toList.length = 5 := by decide
  simp only [List.length_append, prefix'] at lengths
  omega

theorem eventWsUrl_text (settings : LxdSettings) :
    eventWsUrl settings = wsBase settings ++ "/1.0/events&type=operation".toList := by
  have relative : "events".toList.head? ≠ some '/' := by decide
  simp only [eventWsUrl, wsUrl, if_neg relative, secretQuery, List.append_nil, List.append_assoc]
  rfl

theorem event_not_decoded {scheme rest target : List Char} (name : SchemeName scheme)
    (written : wsBase settings = scheme ++ ':' :: rest)
    (slashes : (parse (scheme ++ ':' :: rest)).path.count '/' = (parse target).path.count '/') :
    ¬ EventDecodes settings target := by
  intro decodes
  have path := decodes.path
  have query := decodes.query
  rw [eventWsUrl_text, written] at path query
  by_cases inside : '?' ∈ rest ∨ '#' ∈ rest
  · rw [path_of_inside name inside] at path
    have counts := congrArg (List.count '/') path
    have two : "/1.0/events".toList.count '/' = 2 := by decide
    rw [List.count_append, slashes, two] at counts
    omega
  · have plain := not_or.mp inside
    have none : (parts "/1.0/events&type=operation".toList).query = none := by decide
    rw [List.append_assoc, List.cons_append, parse_of_scheme name] at query
    dsimp only at query
    rw [parts_append plain.1 plain.2, none] at query
    cases query

end Decoding

section Slashes

theorem toWebSocket_path (text : List Char) :
    (parts (toWebSocket text)).path = toWebSocket (parts text).path := by
  unfold toWebSocket replacePlain replaceSecure
  rw [parts_replace (by decide) (by decide) (by decide),
    parts_replace (by decide) (by decide) (by decide)]

theorem toWebSocket_count (text : List Char) :
    (toWebSocket text).count '/' = text.count '/' := by
  unfold toWebSocket replacePlain replaceSecure
  rw [count_replace (by decide) (by decide), count_replace (by decide) (by decide)]

theorem slashes_toWebSocket (text : List Char) :
    ['/', '/'] <+: toWebSocket text ↔ ['/', '/'] <+: text := by
  have plain : ['/', '/'] <+: replacePlain (replaceSecure text) ↔
      ['/', '/'] <+: replaceSecure text := prefix_replace_iff (by decide) (by decide) _
  exact plain.trans (slashes_replaceSecure text)

theorem path_slashes {scheme name : List Char} (first : SchemeName scheme)
    (second : SchemeName name) (rest : List Char) :
    (parse (scheme ++ ':' :: toWebSocket rest)).path.count '/' =
      (parse (name ++ ':' :: rest)).path.count '/' := by
  rw [parse_of_scheme first, parse_of_scheme second]
  dsimp only
  rw [splitAuthority_slashes, splitAuthority_slashes, toWebSocket_path, toWebSocket_count]
  simp only [slashes_toWebSocket]

end Slashes

/- What the base should be: that of the settings with its scheme rewritten, or the
   placeholder that stands for the socket. -/
def wsTarget (settings : LxdSettings) (scheme rest : List Char) : List Char :=
  match settings.LXD_CONNECTION_MODE with
  | .remote => wsScheme scheme ++ ':' :: rest
  | .local => "http://unix".toList

/- A base whose scheme both replacements recognise and in which they find nothing else. -/
structure PlainBase (scheme rest : List Char) : Prop where
  lower : scheme = "https".toList ∨ scheme = "http".toList
  slashes : ['/', '/'] <+: rest
  secure : ¬ "https://".toList <:+: rest
  plain : ¬ "http://".toList <:+: rest
  query : '?' ∉ rest
  fragment : '#' ∉ rest

section Bases
variable {settings : LxdSettings} {scheme rest : List Char}

theorem local_base (here : settings.LXD_CONNECTION_MODE = .local) :
    wsBase settings = "http".toList ++ ':' :: '/' :: '/' :: "unix".toList ∧
      wsTarget settings scheme rest = "http".toList ++ ':' :: '/' :: '/' :: "unix".toList := by
  simp only [wsBase, wsTarget, here]
  exact ⟨rfl, rfl⟩

theorem remote_base (there : settings.LXD_CONNECTION_MODE = .remote)
    (text : settings.LXD_REMOTE_URL.text = scheme ++ ':' :: rest) :
    wsBase settings = toWebSocket (scheme ++ ':' :: rest) ∧
      wsTarget settings scheme rest = wsScheme scheme ++ ':' :: rest := by
  simp only [wsBase, wsTarget, there, text]
  exact ⟨trivial, trivial⟩

theorem decodes_local (here : settings.LXD_CONNECTION_MODE = .local) {path : String}
    (relative : RelativePath path) (secret : Option String) :
    Decodes settings (wsTarget settings scheme rest) path secret := by
  obtain ⟨written, target⟩ := @local_base settings scheme rest here
  have name : SchemeName "http".toList := isHttp_name (Or.inl (by decide))
  rw [target]
  exact decodes_of_plain name (by decide) (by decide) written relative secret

theorem decodes_remote_iff (http : IsHttp scheme)
    (there : settings.LXD_CONNECTION_MODE = .remote)
    (text : settings.LXD_REMOTE_URL.text = scheme ++ ':' :: rest) {path : String}
    (relative : RelativePath path) (secret : Option String) :
    Decodes settings (wsTarget settings scheme rest) path secret ↔ PlainBase scheme rest := by
  obtain ⟨base, target⟩ := remote_base there text
  rw [target]
  constructor
  · intro decodes
    have kept := (toWebSocket_target_iff http rest).mp (base.symm.trans decodes.base)
    obtain ⟨⟨lower, slashes⟩, secure, plain⟩ := kept
    obtain ⟨query, fragment⟩ := plain_of_decodes (wsScheme_name scheme) relative decodes
    exact ⟨lower, slashes, secure, plain, query, fragment⟩
  · intro plain
    have kept := (toWebSocket_target_iff http rest).mpr
      ⟨⟨plain.lower, plain.slashes⟩, plain.secure, plain.plain⟩
    have query := plain.query
    have fragment := plain.fragment
    obtain ⟨authority, shape⟩ := plain.slashes
    subst shape
    simp only [List.cons_append, List.nil_append, List.mem_cons, not_or] at query fragment
    exact decodes_of_plain (wsScheme_name scheme) query.2.2 fragment.2.2 (base.trans kept)
      relative secret

theorem event_never_decodes (http : IsHttp scheme)
    (text : settings.LXD_REMOTE_URL.text = scheme ++ ':' :: rest) :
    ¬ EventDecodes settings (wsTarget settings scheme rest) := by
  cases mode : settings.LXD_CONNECTION_MODE with
  | «local» =>
    obtain ⟨written, target⟩ := @local_base settings scheme rest mode
    have name : SchemeName "http".toList := isHttp_name (Or.inl (by decide))
    rw [target]
    exact event_not_decoded name written rfl
  | remote =>
    obtain ⟨base, target⟩ := remote_base mode text
    rw [target]
    exact event_not_decoded (writtenScheme_name http rest)
      (base.trans (toWebSocket_scheme http rest))
      (path_slashes (writtenScheme_name http rest) (wsScheme_name scheme) rest)

end Bases

/-- Exactly over the socket and after a plain base a WebSocket URL decodes to what was
    asked; the URL of the events never does. -/
theorem ws_urls_decode_iff (settings : LxdSettings) {scheme rest : List Char}
    (http : IsHttp scheme) (text : settings.LXD_REMOTE_URL.text = scheme ++ ':' :: rest) :
    (∀ path secret, RelativePath path →
      (Decodes settings (wsTarget settings scheme rest) path secret ↔
        settings.LXD_CONNECTION_MODE = .local ∨ PlainBase scheme rest)) ∧
      ¬ EventDecodes settings (wsTarget settings scheme rest) := by
  refine ⟨?_, event_never_decodes http text⟩
  intro path secret relative
  cases mode : settings.LXD_CONNECTION_MODE with
  | «local» =>
    have decodes := @decodes_local settings scheme rest mode path relative secret
    exact iff_of_true decodes (Or.inl rfl)
  | remote =>
    rw [decodes_remote_iff http mode text relative secret]
    constructor
    · exact Or.inr
    · intro either
      rcases either with here | plain
      · cases here
      · exact plain

def remoteDefaults : LxdSettings := { LXD_CONNECTION_MODE := .remote }

theorem default_urls_decode :
    Decodes remoteDefaults "wss://lxd-host:8443".toList "operations/7/websocket" (some "é &?") ∧
      ¬ EventDecodes remoteDefaults "wss://lxd-host:8443".toList := by
  have settled := @ws_urls_decode_iff remoteDefaults "https".toList "//lxd-host:8443".toList
    (Or.inr (by decide)) (by decide)
  have plain : PlainBase "https".toList "//lxd-host:8443".toList :=
    ⟨Or.inl rfl, by decide, by decide, by decide, by decide, by decide⟩
  have relative : RelativePath "operations/7/websocket" := ⟨by decide, by decide, by decide⟩
  exact ⟨(settled.1 _ _ relative).mpr (Or.inr plain), settled.2⟩

def proxied : LxdSettings where
  LXD_CONNECTION_MODE := .remote
  LXD_REMOTE_URL := stripTrailingSlash "https://proxy/http://lxd:8443/"

theorem proxied_urls_differ :
    (parse (wsUrl proxied "operations/7/websocket" (some "s"))).path =
        "/ws://lxd:8443/1.0/operations/7/websocket".toList ∧
      ¬ Decodes proxied "wss://proxy/http://lxd:8443".toList "operations/7/websocket"
        (some "s") ∧
      (parse (eventWsUrl proxied)).path = "/ws://lxd:8443/1.0/events&type=operation".toList ∧
      (parse (eventWsUrl {})).path = "/1.0/events&type=operation".toList ∧
      (parse (eventWsUrl {})).query = none ∧ ¬ EventDecodes {} "http://unix".toList := by
  have located : (parse (eventWsUrl {})).path = "/1.0/events&type=operation".toList := by decide
  have written : wsBase proxied ≠ "wss://proxy/http://lxd:8443".toList := by decide
  refine ⟨by decide, fun decodes => written decodes.base, by decide, located, by decide, ?_⟩
  intro decodes
  have path := decodes.path
  rw [located] at path
  revert path
  decide

end LxdApi

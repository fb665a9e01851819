import Mathlib.Data.List.Forall2
import Mathlib.Data.List.Induction
import Mathlib.Algebra.BigOperators.Group.List.Basic
import Mathlib.Algebra.GroupWithZero.Nat
import Mathlib.Tactic.Common

set_option autoImplicit false

/- URI references as RFC 3986 treats them: components are cut at the first `#`
   and the first `?`, `%XX` is an escaped octet, and `.` and `..` are removed
   from the segments of a path. Texts are lists of characters; decoding yields
   octets, so no text encoding error can arise. -/
namespace UriReference

def isHex (c : Char) : Bool :=
  ('0' ≤ c && c ≤ '9') || ('A' ≤ c && c ≤ 'F') || ('a' ≤ c && c ≤ 'f')

def hexValue (c : Char) : Nat :=
  if c ≤ '9' then c.toNat - '0'.toNat
  else if c ≤ 'F' then c.toNat - 'A'.toNat + 10
  else c.toNat - 'a'.toNat + 10

def hexDigit (n : Nat) : Char :=
  if n < 10 then Char.ofNat ('0'.toNat + n) else Char.ofNat ('A'.toNat + (n - 10))

def octets (s : List Char) : List UInt8 := s.flatMap String.utf8EncodeChar

def escape (b : UInt8) : List Char :=
  ['%', hexDigit (b.toNat / 16), hexDigit (b.toNat % 16)]

/- A text read from the left: either `%XX` or a character standing for itself.
   A `%` that no two hexadecimal digits follow stands for itself. -/
inductive Token where
  | escaped (high low : Char)
  | plain (c : Char)
  deriving DecidableEq

def tokens : List Char → List Token
  | c :: a :: b :: tail =>
      if c = '%' ∧ isHex a = true ∧ isHex b = true then .escaped a b :: tokens tail
      else .plain c :: tokens (a :: b :: tail)
  | [c, a] => [.plain c, .plain a]
  | [c] => [.plain c]
  | [] => []

def Token.text : Token → List Char
  | .escaped a b => ['%', a, b]
  | .plain c => [c]

def Token.octets : Token → List UInt8
  | .escaped a b => [UInt8.ofNat (16 * hexValue a + hexValue b)]
  | .plain c => String.utf8EncodeChar c

def percentDecode (s : List Char) : List UInt8 := (tokens s).flatMap Token.octets

def Token.quote (keep : Char → Bool) : Token → List Char
  | .escaped a b => ['%', a, b]
  | .plain c => if keep c then [c] else (String.utf8EncodeChar c).flatMap escape

/-- Percent-encode what `keep` does not admit; existing escapes are left alone. -/
def quote (keep : Char → Bool) (s : List Char) : List Char :=
  (tokens s).flatMap (Token.quote keep)

def Token.isEscaped : Token → Bool
  | .escaped _ _ => true
  | .plain _ => false

def Unescaped (s : List Char) : Prop := ∀ t ∈ tokens s, t.isEscaped = false

instance (s : List Char) : Decidable (Unescaped s) :=
  inferInstanceAs (Decidable (∀ t ∈ tokens s, t.isEscaped = false))

def cut (separator : Char) : List Char → List Char × Option (List Char)
  | [] => ([], none)
  | c :: rest =>
      if c = separator then ([], some rest)
      else (c :: (cut separator rest).1, (cut separator rest).2)

def removeDot (out : List (List Char)) (segment : List Char) : List (List Char) :=
  if segment = ['.'] then out
  else if segment = ['.', '.'] then out.dropLast
  else out ++ [segment]

def removeDotSegments (segments : List (List Char)) : List (List Char) :=
  segments.foldl removeDot []

def join (segments : List (List Char)) : List Char := ['/'].intercalate segments

structure Parts where
  path : List Char
  query : Option (List Char)
  fragment : Option (List Char)

def parts (reference : List Char) : Parts :=
  let beforeFragment := cut '#' reference
  let beforeQuery := cut '?' beforeFragment.1
  ⟨beforeQuery.1, beforeQuery.2, beforeFragment.2⟩

def pathSegments (keep : Char → Bool) (path : List Char) : List (List Char) :=
  removeDotSegments ((quote keep path).splitOn '/')

/- A text that can stand in a path as one whole segment. -/
structure Clean (s : List Char) : Prop where
  slash : '/' ∉ s
  query : '?' ∉ s
  fragment : '#' ∉ s
  unescaped : Unescaped s
  dot : s ≠ ['.']
  dots : s ≠ ['.', '.']

instance (s : List Char) : Decidable (Clean s) :=
  decidable_of_iff ('/' ∉ s ∧ '?' ∉ s ∧ '#' ∉ s ∧ Unescaped s ∧ s ≠ ['.'] ∧ s ≠ ['.', '.'])
    ⟨fun ⟨a, b, c, d, e, f⟩ => ⟨a, b, c, d, e, f⟩, fun ⟨a, b, c, d, e, f⟩ => ⟨a, b, c, d, e, f⟩⟩

/- The octets a list of segments stands for, each segment charged one more. -/
def weight (segments : List (List Char)) : Nat :=
  (segments.map fun s => (percentDecode s).length + 1).sum

section Tokens

@[simp] theorem tokens_nil : tokens [] = [] := rfl

theorem tokens_plain {c : Char} (plain : c ≠ '%') (rest : List Char) :
    tokens (c :: rest) = .plain c :: tokens rest := by
  rcases rest with _ | ⟨a, _ | ⟨b, tail⟩⟩
  · rfl
  · simp [tokens]
  · rw [tokens, if_neg (by simp [plain])]

theorem tokens_escaped {a b : Char} (ha : isHex a = true) (hb : isHex b = true)
    (rest : List Char) : tokens ('%' :: a :: b :: rest) = .escaped a b :: tokens rest := by
  rw [tokens, if_pos ⟨rfl, ha, hb⟩]

theorem tokens_text (s : List Char) : (tokens s).flatMap Token.text = s := by
  fun_induction tokens s with
  | case1 c a b tail h ih => simp [ih, Token.text, h.1]
  | case2 c a b tail h ih => simp [ih, Token.text]
  | case3 c a => rfl
  | case4 c => rfl
  | case5 => rfl

theorem hex_ne_slash {c : Char} (h : isHex c = true) : c ≠ '/' := by
  rintro rfl; revert h; decide

theorem hex_ne_percent {c : Char} (h : isHex c = true) : c ≠ '%' := by
  rintro rfl; revert h; decide

theorem tokens_append {c : Char} (percent : c ≠ '%') (hex : isHex c = false)
    (s rest : List Char) : tokens (s ++ c :: rest) = tokens s ++ .plain c :: tokens rest := by
  fun_induction tokens s with
  | case1 x a b tail h ih =>
    obtain ⟨rfl, ha, hb⟩ := h
    simp only [List.cons_append, tokens_escaped ha hb, ih]
  | case2 x a b tail h ih =>
    simp only [List.cons_append] at ih ⊢
    rw [tokens, if_neg h, ih]
  | case3 x a =>
    simp only [List.cons_append, List.nil_append]
    rw [tokens, if_neg (by simp [hex])]
    by_cases same : a = '%'
    · cases rest with
      | nil => simp [tokens]
      | cons y ys => rw [tokens, if_neg (by simp [hex]), tokens_plain percent]
    · rw [tokens_plain same, tokens_plain percent]
  | case4 x =>
    simp only [List.cons_append, List.nil_append]
    by_cases same : x = '%'
    · cases rest with
      | nil => simp [tokens]
      | cons y ys => rw [tokens, if_neg (by simp [hex]), tokens_plain percent]
    · rw [tokens_plain same, tokens_plain percent]
  | case5 => exact tokens_plain percent rest

end Tokens

section Decoding

theorem percentDecode_append {c : Char} (percent : c ≠ '%') (hex : isHex c = false)
    (s rest : List Char) : percentDecode (s ++ c :: rest) =
      percentDecode s ++ String.utf8EncodeChar c ++ percentDecode rest := by
  simp [percentDecode, tokens_append percent hex, Token.octets]

theorem percentDecode_slash (s rest : List Char) :
    percentDecode (s ++ '/' :: rest) = percentDecode s ++ 0x2f :: percentDecode rest := by
  rw [percentDecode_append (by decide) (by decide)]
  simp [show String.utf8EncodeChar '/' = [0x2f] by decide]

theorem token_octets_le (t : Token) :
    t.octets.length + (if t.isEscaped then 2 else 0) ≤ (octets t.text).length := by
  cases t with
  | plain c => simp [Token.octets, Token.text, Token.isEscaped, octets]
  | escaped a b =>
    have la := String.length_utf8EncodeChar (c := a)
    have lb := String.length_utf8EncodeChar (c := b)
    have pa := Char.utf8Size_pos a
    have pb := Char.utf8Size_pos b
    have pp : (String.utf8EncodeChar '%').length = 1 := by decide
    simp only [Token.octets, Token.text, Token.isEscaped, octets, List.flatMap_cons,
      List.flatMap_nil, List.length_append, List.length_nil, List.length_cons, if_true]
    omega

theorem octets_injective {s t : List Char} (same : octets s = octets t) : s = t := by
  have encoded : s.utf8Encode = t.utf8Encode := by
    unfold List.utf8Encode
    unfold octets at same
    rw [same]
  have texts : String.ofList s = String.ofList t := by
    apply String.toByteArray_inj.mp
    rw [String.toByteArray_ofList, String.toByteArray_ofList, encoded]
  exact String.ofList_injective texts

theorem octets_append (s t : List Char) : octets (s ++ t) = octets s ++ octets t := by
  simp [octets]

theorem percentDecode_length (s : List Char) :
    (percentDecode s).length + 2 * ((tokens s).filter Token.isEscaped).length
      ≤ (octets s).length := by
  conv => rhs; rw [← tokens_text s]
  unfold percentDecode
  induction tokens s with
  | nil => simp
  | cons t ts ih =>
    have head := token_octets_le t
    simp only [List.flatMap_cons, octets_append, List.length_append, List.filter_cons]
    split at head <;> simp_all <;> omega

theorem plain_tokens_octets (ts : List Token) (plain : ∀ t ∈ ts, t.isEscaped = false) :
    ts.flatMap Token.octets = octets (ts.flatMap Token.text) := by
  induction ts with
  | nil => rfl
  | cons t ts ih =>
    have head : t.octets = octets t.text := by
      cases t with
      | plain c => simp [Token.octets, Token.text, octets]
      | escaped a b => exact absurd (plain (.escaped a b) (by simp)) (by simp [Token.isEscaped])
    rw [List.flatMap_cons, List.flatMap_cons, octets_append, head,
      ih (fun u member => plain u (List.mem_cons_of_mem t member))]

theorem percentDecode_unescaped {s : List Char} (plain : Unescaped s) :
    percentDecode s = octets s := by
  rw [percentDecode, plain_tokens_octets _ plain, tokens_text]

theorem percentDecode_length_le (s : List Char) :
    (percentDecode s).length ≤ (octets s).length := by
  have := percentDecode_length s
  omega

theorem unescaped_of_length {s : List Char}
    (same : (octets s).length ≤ (percentDecode s).length) : Unescaped s := by
  have bound := percentDecode_length s
  have none : (tokens s).filter Token.isEscaped = [] :=
    List.length_eq_zero_iff.mp (by omega)
  intro t member
  have absent := List.filter_eq_nil_iff.mp none t member
  simpa using absent

end Decoding

section Quoting
variable {keep : Char → Bool}

theorem quote_append (slash : keep '/' = true) (s rest : List Char) :
    quote keep (s ++ '/' :: rest) = quote keep s ++ '/' :: quote keep rest := by
  simp [quote, tokens_append (c := '/') (by decide) (by decide), Token.quote, slash]

theorem token_quote_head (keep : Char → Bool) (t : Token) :
    (∃ c, t = .plain c ∧ keep c = true ∧ t.quote keep = [c]) ∨
      ∃ more, t.quote keep = '%' :: more := by
  cases t with
  | escaped a b => exact Or.inr ⟨[a, b], rfl⟩
  | plain c =>
    by_cases kept : keep c = true
    · exact Or.inl ⟨c, rfl, kept, by simp [Token.quote, kept]⟩
    · right
      obtain ⟨byte, bytes, shape⟩ := List.exists_cons_of_ne_nil (String.utf8EncodeChar_ne_nil (c := c))
      simp [Token.quote, kept, shape, escape]

theorem tokens_head (c : Char) (rest : List Char) :
    (∃ a b tail, rest = a :: b :: tail ∧ c = '%' ∧ isHex a = true ∧ isHex b = true ∧
      tokens (c :: rest) = .escaped a b :: tokens tail) ∨
    tokens (c :: rest) = .plain c :: tokens rest := by
  rcases rest with _ | ⟨a, _ | ⟨b, tail⟩⟩
  · exact Or.inr rfl
  · right
    by_cases same : a = '%' <;> simp [tokens]
  · by_cases h : c = '%' ∧ isHex a = true ∧ isHex b = true
    · left; exact ⟨a, b, tail, rfl, h.1, h.2.1, h.2.2, by rw [tokens, if_pos h]⟩
    · right; rw [tokens, if_neg h]

/- Quoting creates no hexadecimal digit that was not there: a text that starts
   with a digit after quoting started with the same digit before. -/
theorem quote_hex_head {s more : List Char} {c : Char} (hex : isHex c = true)
    (shape : quote keep s = c :: more) :
    ∃ rest, s = c :: rest ∧ quote keep rest = more := by
  cases s with
  | nil => simp [quote] at shape
  | cons x rest =>
    have notPercent : ∀ tail, '%' :: tail ≠ c :: more := by
      intro tail same
      exact hex_ne_percent hex (List.cons.inj same).1.symm
    rcases tokens_head x rest with ⟨a, b, tail, rfl, rfl, ha, hb, toks⟩ | toks
    · simp only [quote, toks, List.flatMap_cons, Token.quote, List.cons_append] at shape
      exact absurd shape (notPercent _)
    · rcases token_quote_head keep (.plain x) with ⟨y, same, kept, text⟩ | ⟨tail, text⟩
      · cases same
        simp only [quote, toks, List.flatMap_cons, text, List.cons_append,
          List.nil_append, List.cons.injEq] at shape
        exact ⟨rest, by rw [shape.1], shape.2⟩
      · simp only [quote, toks, List.flatMap_cons, text, List.cons_append] at shape
        exact absurd shape (notPercent _)

theorem hexDigit_isHex {n : Nat} (small : n < 16) : isHex (hexDigit n) = true := by
  revert n; decide

theorem hexValue_hexDigit {n : Nat} (small : n < 16) : hexValue (hexDigit n) = n := by
  revert n; decide

theorem percentDecode_escaped {a b : Char} (ha : isHex a = true) (hb : isHex b = true)
    (rest : List Char) : percentDecode ('%' :: a :: b :: rest) =
      UInt8.ofNat (16 * hexValue a + hexValue b) :: percentDecode rest := by
  simp [percentDecode, tokens_escaped ha hb, Token.octets]

theorem percentDecode_escape (byte : UInt8) (rest : List Char) :
    percentDecode (escape byte ++ rest) = byte :: percentDecode rest := by
  have high : byte.toNat / 16 < 16 := by have := byte.toNat_lt; omega
  have low : byte.toNat % 16 < 16 := by omega
  simp only [escape, List.cons_append, List.nil_append]
  rw [percentDecode_escaped (hexDigit_isHex high) (hexDigit_isHex low),
    hexValue_hexDigit high, hexValue_hexDigit low]
  congr 1
  rw [Nat.div_add_mod]
  simp

theorem percentDecode_escapes (bytes : List UInt8) (rest : List Char) :
    percentDecode (bytes.flatMap escape ++ rest) = bytes ++ percentDecode rest := by
  induction bytes with
  | nil => rfl
  | cons byte bytes ih =>
    rw [List.flatMap_cons, List.append_assoc, percentDecode_escape, ih, List.cons_append]

theorem percentDecode_plain {c : Char} {rest : List Char}
    (plain : tokens (c :: rest) = .plain c :: tokens rest) :
    percentDecode (c :: rest) = String.utf8EncodeChar c ++ percentDecode rest := by
  simp [percentDecode, plain, Token.octets]

theorem percentDecode_quote (keep : Char → Bool) (s : List Char) :
    percentDecode (quote keep s) = percentDecode s := by
  induction len : s.length using Nat.strongRecOn generalizing s with
  | ind n ih =>
    cases s with
    | nil => rfl
    | cons c rest =>
      simp only [List.length_cons] at len
      rcases tokens_head c rest with ⟨a, b, tail, rfl, rfl, ha, hb, toks⟩ | toks
      · have tailEq := ih tail.length (by simp only [List.length_cons] at len; omega) tail rfl
        have text : quote keep ('%' :: a :: b :: tail) = '%' :: a :: b :: quote keep tail := by
          simp [quote, toks, Token.quote]
        rw [text, percentDecode_escaped ha hb, percentDecode_escaped ha hb, tailEq]
      · have restEq := ih rest.length (by omega) rest rfl
        rw [percentDecode_plain toks, ← restEq]
        by_cases kept : keep c = true
        · have text : quote keep (c :: rest) = c :: quote keep rest := by
            simp [quote, toks, Token.quote, kept]
          rw [text]
          apply percentDecode_plain
          -- A kept `%` must not start an escape that the text did not have.
          rcases tokens_head c (quote keep rest) with ⟨a, b, tail, shape, rfl, ha, hb, _⟩ | plain
          · obtain ⟨more, same, shape⟩ := quote_hex_head ha shape
            obtain ⟨tail, again, _⟩ := quote_hex_head hb shape
            rw [same, again, tokens_escaped ha hb] at toks
            simp at toks
          · exact plain
        · have text : quote keep (c :: rest) =
              (String.utf8EncodeChar c).flatMap escape ++ quote keep rest := by
            simp [quote, toks, Token.quote, kept]
          rw [text, percentDecode_escapes]

theorem token_quote_slash_free {t : Token} (free : '/' ∉ t.text) :
    '/' ∉ t.quote keep := by
  cases t with
  | escaped a b => exact free
  | plain c =>
    by_cases kept : keep c = true
    · simpa only [Token.quote, Token.text, kept, if_true] using free
    · simp only [Token.quote, kept, Bool.false_eq_true, if_false]
      intro member
      obtain ⟨byte, _, inside⟩ := List.mem_flatMap.mp member
      have high : byte.toNat / 16 < 16 := by have := byte.toNat_lt; omega
      have low : byte.toNat % 16 < 16 := by omega
      have h1 := hex_ne_slash (hexDigit_isHex high)
      have h2 := hex_ne_slash (hexDigit_isHex low)
      simp only [escape, List.mem_cons, List.not_mem_nil, or_false] at inside
      rcases inside with h | h | h
      · exact absurd h (by decide)
      · exact h1 h.symm
      · exact h2 h.symm

theorem quote_slash_free {s : List Char} (free : '/' ∉ s) : '/' ∉ quote keep s := by
  rw [← tokens_text s] at free
  intro member
  obtain ⟨t, ht, inside⟩ := List.mem_flatMap.mp member
  refine token_quote_slash_free ?_ inside
  intro bad
  exact free (List.mem_flatMap.mpr ⟨t, ht, bad⟩)

theorem quote_join (slash : keep '/' = true) (segments : List (List Char)) :
    quote keep (join segments) = join (segments.map (quote keep)) := by
  induction segments with
  | nil => rfl
  | cons s rest ih =>
    cases rest with
    | nil => simp [join]
    | cons t more =>
      simp only [join, List.intercalate_cons_cons, List.map_cons, List.singleton_append,
        List.append_assoc] at ih ⊢
      rw [quote_append slash, ih]

theorem splitOn_free {x : Char} (s : List Char) : ∀ segment ∈ s.splitOn x, x ∉ segment := by
  induction s with
  | nil => simp
  | cons c rest ih =>
    rw [List.splitOn_cons_eq_if_modifyHead]
    split
    · simpa using ih
    · rename_i other
      cases shape : rest.splitOn x with
      | nil => simp
      | cons first more =>
        rw [shape] at ih
        simp only [List.modifyHead_cons, List.mem_cons, forall_eq_or_imp] at ih ⊢
        refine ⟨?_, ih.2⟩
        rw [not_or]
        exact ⟨fun same => other (by simp [same]), ih.1⟩

theorem quote_splitOn (slash : keep '/' = true) (s : List Char) :
    (quote keep s).splitOn '/' = (s.splitOn '/').map (quote keep) := by
  have whole : join (s.splitOn '/') = s := List.intercalate_splitOn '/'
  conv => lhs; rw [← whole]
  rw [quote_join slash, join, List.splitOn_intercalate]
  · intro segment member
    obtain ⟨piece, inside, rfl⟩ := List.mem_map.mp member
    exact quote_slash_free (splitOn_free s piece inside)
  · simp

theorem quote_of_kept {s : List Char} (kept : ∀ c ∈ s, keep c = true ∧ c ≠ '%') :
    quote keep s = s := by
  induction s with
  | nil => rfl
  | cons c rest ih =>
    have head := kept c (by simp)
    have tail := ih fun x member => kept x (List.mem_cons_of_mem c member)
    unfold quote at tail ⊢
    rw [tokens_plain head.2, List.flatMap_cons, tail]
    simp [Token.quote, head.1]

theorem eq_of_quote_unescaped {s t : List Char} (same : quote keep s = t)
    (free : '%' ∉ t) : s = t := by
  have all : ∀ ts : List Token, '%' ∉ ts.flatMap (Token.quote keep) →
      ts.flatMap (Token.quote keep) = ts.flatMap Token.text := by
    intro ts none
    induction ts with
    | nil => rfl
    | cons u us ih =>
      rw [List.flatMap_cons] at none
      simp only [List.mem_append, not_or] at none
      rw [List.flatMap_cons, List.flatMap_cons, ih none.2]
      rcases token_quote_head keep u with ⟨c, rfl, _, text⟩ | ⟨more, text⟩
      · rw [text]; rfl
      · rw [text] at none; simp at none
  rw [← same, quote, all _ (by rw [← quote, same]; exact free), tokens_text]

end Quoting

section Weight

theorem weight_append (a b : List (List Char)) : weight (a ++ b) = weight a + weight b := by
  simp [weight]

theorem weight_singleton (s : List Char) : weight [s] = (percentDecode s).length + 1 := by
  simp [weight]

theorem join_cons_cons (s t : List Char) (rest : List (List Char)) :
    join (s :: t :: rest) = s ++ '/' :: join (t :: rest) := by
  simp [join]

theorem weight_eq_join (s : List Char) (rest : List (List Char)) :
    weight (s :: rest) = (percentDecode (join (s :: rest))).length + 1 := by
  induction rest generalizing s with
  | nil => simp [weight, join]
  | cons t more ih =>
    have tail := ih t
    rw [join_cons_cons, percentDecode_slash]
    have split : weight (s :: t :: more) = weight [s] + weight (t :: more) :=
      weight_append [s] (t :: more)
    rw [split, weight_singleton, tail]
    simp only [List.length_append, List.length_cons]
    omega

theorem weight_splitOn (s : List Char) :
    weight (s.splitOn '/') = (percentDecode s).length + 1 := by
  cases shape : s.splitOn '/' with
  | nil => exact absurd shape (by simp)
  | cons first rest =>
    have whole : join (first :: rest) = s := by
      rw [← shape, join, List.intercalate_splitOn]
    rw [weight_eq_join, whole]

theorem octets_join (s : List Char) (rest : List (List Char)) :
    ((s :: rest).map fun v => (octets v).length + 1).sum
      = (octets (join (s :: rest))).length + 1 := by
  induction rest generalizing s with
  | nil => simp [join]
  | cons t more ih =>
    have tail := ih t
    have slash : (String.utf8EncodeChar '/').length = 1 := by decide
    rw [join_cons_cons, octets_append, List.map_cons, List.sum_cons, tail]
    simp only [octets, List.flatMap_cons, List.length_append, slash]
    omega

theorem removeDot_weight (out : List (List Char)) (s : List Char) :
    weight (removeDot out s) ≤ weight out + weight [s] ∧
      (weight out + weight [s] ≤ weight (removeDot out s) →
        s ≠ ['.'] ∧ s ≠ ['.', '.'] ∧ removeDot out s = out ++ [s]) := by
  have positive : 0 < weight [s] := by rw [weight_singleton]; omega
  have shorter : weight out.dropLast ≤ weight out := by
    cases out using List.reverseRecOn with
    | nil => simp
    | append_singleton front last => rw [List.dropLast_concat, weight_append]; omega
  unfold removeDot
  split
  · exact ⟨by omega, fun h => by omega⟩
  · split
    · exact ⟨by omega, fun h => by omega⟩
    · rename_i dot dots
      rw [weight_append]
      exact ⟨Nat.le_refl _, fun _ => ⟨dot, dots, rfl⟩⟩

theorem foldl_removeDot_weight (segments out : List (List Char)) :
    weight (segments.foldl removeDot out) ≤ weight out + weight segments ∧
      (weight out + weight segments ≤ weight (segments.foldl removeDot out) →
        (∀ s ∈ segments, s ≠ ['.'] ∧ s ≠ ['.', '.']) ∧
          segments.foldl removeDot out = out ++ segments) := by
  induction segments generalizing out with
  | nil => simp [weight]
  | cons s rest ih =>
    have head := removeDot_weight out s
    have tail := ih (removeDot out s)
    have split : weight (s :: rest) = weight [s] + weight rest := weight_append [s] rest
    rw [List.foldl_cons, split]
    refine ⟨by omega, fun heavy => ?_⟩
    obtain ⟨dot, dots, kept⟩ := head.2 (by omega)
    obtain ⟨others, all⟩ := tail.2 (by omega)
    refine ⟨?_, by rw [all, kept]; simp⟩
    intro x member
    rcases List.mem_cons.mp member with same | later
    · subst x; exact ⟨dot, dots⟩
    · exact others x later

theorem foldl_removeDot_of_no_dots (segments out : List (List Char))
    (clean : ∀ s ∈ segments, s ≠ ['.'] ∧ s ≠ ['.', '.']) :
    segments.foldl removeDot out = out ++ segments := by
  induction segments generalizing out with
  | nil => simp
  | cons s rest ih =>
    have head := clean s (by simp)
    rw [List.foldl_cons, ih _ fun x member => clean x (List.mem_cons_of_mem s member)]
    simp [removeDot, head.1, head.2]

end Weight

section Parts

theorem cut_absent {c : Char} {s : List Char} (absent : c ∉ s) : cut c s = (s, none) := by
  induction s with
  | nil => rfl
  | cons x rest ih =>
    simp only [List.mem_cons, not_or] at absent
    simp [cut, Ne.symm absent.1, ih absent.2]

theorem cut_octets (c : Char) (s : List Char) :
    (octets (cut c s).1).length ≤ (octets s).length ∧
      ((octets s).length ≤ (octets (cut c s).1).length → c ∉ s) := by
  induction s with
  | nil => simp [cut]
  | cons x rest ih =>
    have positive : 0 < (String.utf8EncodeChar x).length :=
      List.length_pos_of_ne_nil String.utf8EncodeChar_ne_nil
    unfold cut
    split
    · simp only [octets, List.flatMap_nil, List.flatMap_cons, List.length_nil, List.length_append]
      exact ⟨Nat.zero_le _, fun h => by omega⟩
    · rename_i other
      simp only [octets, List.flatMap_cons, List.length_append] at ih ⊢
      refine ⟨by omega, fun h => ?_⟩
      simp only [List.mem_cons, not_or]
      exact ⟨Ne.symm other, ih.2 (by omega)⟩

theorem splitOn_length (s : List Char) : (s.splitOn '/').length = s.count '/' + 1 := by
  induction s with
  | nil => simp
  | cons c rest ih =>
    rw [List.splitOn_cons_eq_if_modifyHead, List.count_cons]
    split <;> simp_all

theorem count_join (s : List Char) (rest : List (List Char)) :
    (join (s :: rest)).count '/' = ((s :: rest).map (List.count '/')).sum + rest.length := by
  induction rest generalizing s with
  | nil => simp [join]
  | cons t more ih =>
    rw [join_cons_cons, List.count_append, List.count_cons, ih t]
    simp only [List.map_cons, List.sum_cons, List.length_cons, beq_self_eq_true, if_true]
    omega

theorem mem_join_of_mem {c : Char} {v : List Char} {pieces : List (List Char)}
    (member : v ∈ pieces) (inside : c ∈ v) : c ∈ join pieces := by
  induction pieces with
  | nil => simp at member
  | cons s rest ih =>
    cases rest with
    | nil =>
      rcases List.mem_cons.mp member with same | none
      · subst v; simpa [join] using inside
      · simp at none
    | cons t more =>
      rw [join_cons_cons]
      rcases List.mem_cons.mp member with same | later
      · subst v; exact List.mem_append.mpr (Or.inl inside)
      · exact List.mem_append.mpr (Or.inr (List.mem_cons_of_mem _ (ih later)))

theorem absent_join {c : Char} {pieces : List (List Char)} (other : c ≠ '/')
    (absent : ∀ v ∈ pieces, c ∉ v) : c ∉ join pieces := by
  induction pieces with
  | nil => simp [join]
  | cons s rest ih =>
    cases rest with
    | nil => simpa [join] using absent s (by simp)
    | cons t more =>
      have tail := ih fun v member => absent v (List.mem_cons_of_mem s member)
      rw [join_cons_cons]
      simp only [List.mem_append, List.mem_cons, not_or]
      exact ⟨absent s (by simp), other, tail⟩

theorem unescaped_of_join {v : List Char} {pieces : List (List Char)}
    (whole : Unescaped (join pieces)) (member : v ∈ pieces) : Unescaped v := by
  induction pieces with
  | nil => simp at member
  | cons s rest ih =>
    cases rest with
    | nil =>
      have same : v = s := by simpa using member
      rw [same]
      simpa [join] using whole
    | cons t more =>
      unfold Unescaped at whole
      rw [join_cons_cons, tokens_append (by decide) (by decide)] at whole
      rcases List.mem_cons.mp member with same | later
      · subst v
        intro tok h
        exact whole tok (List.mem_append.mpr (Or.inl h))
      · apply ih _ later
        intro tok h
        exact whole tok (List.mem_append.mpr (Or.inr (List.mem_cons_of_mem _ h)))

theorem clean_parts {pieces : List (List Char)} (clean : ∀ v ∈ pieces, Clean v) :
    parts (join pieces) = ⟨join pieces, none, none⟩ := by
  have noFragment := absent_join (c := '#') (by decide) fun v m => (clean v m).fragment
  have noQuery := absent_join (c := '?') (by decide) fun v m => (clean v m).query
  simp [parts, cut_absent noFragment, cut_absent noQuery]

theorem clean_segments {keep : Char → Bool} (slash : keep '/' = true)
    {pieces : List (List Char)} (some : pieces ≠ []) (clean : ∀ v ∈ pieces, Clean v) :
    pathSegments keep (join pieces) = pieces.map (quote keep) := by
  have split : (join pieces).splitOn '/' = pieces :=
    List.splitOn_intercalate '/' (fun v m => (clean v m).slash) some
  rw [pathSegments, quote_splitOn slash, split, removeDotSegments,
    foldl_removeDot_of_no_dots, List.nil_append]
  intro s member
  obtain ⟨v, inside, rfl⟩ := List.mem_map.mp member
  constructor
  · intro same
    exact (clean v inside).dot (eq_of_quote_unescaped same (by decide))
  · intro same
    exact (clean v inside).dots (eq_of_quote_unescaped same (by decide))

theorem parts_octets (s : List Char) :
    (octets (parts s).path).length ≤ (octets s).length ∧
      ((octets s).length ≤ (octets (parts s).path).length →
        '#' ∉ s ∧ '?' ∉ s ∧ (parts s).path = s) := by
  have fragmentCut := cut_octets '#' s
  have queryCut := cut_octets '?' (cut '#' s).1
  change (octets (cut '?' (cut '#' s).1).1).length ≤ _ ∧
    (_ ≤ (octets (cut '?' (cut '#' s).1).1).length → _)
  refine ⟨by omega, fun same => ?_⟩
  have noFragment := fragmentCut.2 (by omega)
  have noQuery := queryCut.2 (by omega)
  rw [cut_absent noFragment] at noQuery
  exact ⟨noFragment, noQuery, by simp [parts, cut_absent noFragment, cut_absent noQuery]⟩

theorem pathSegments_weight (keep : Char → Bool) (path : List Char) :
    weight (pathSegments keep path) ≤ (percentDecode path).length + 1 ∧
      ((percentDecode path).length + 1 ≤ weight (pathSegments keep path) →
        (∀ s ∈ (quote keep path).splitOn '/', s ≠ ['.'] ∧ s ≠ ['.', '.']) ∧
          pathSegments keep path = (quote keep path).splitOn '/') := by
  have removed := foldl_removeDot_weight ((quote keep path).splitOn '/') []
  have before := weight_splitOn (quote keep path)
  rw [percentDecode_quote] at before
  have zero : weight ([] : List (List Char)) = 0 := rfl
  rw [zero, Nat.zero_add, before, List.nil_append] at removed
  exact removed

theorem denoted_weight {pieces segments : List (List Char)}
    (denotes : List.Forall₂ (fun v segment => percentDecode segment = octets v) pieces segments) :
    weight segments = (pieces.map fun v => (octets v).length + 1).sum := by
  induction denotes with
  | nil => rfl
  | cons head _ ih => simp_all [weight]

theorem slash_free_of_length {s : List Char} {rest : List (List Char)}
    (same : ((join (s :: rest)).splitOn '/').length = (s :: rest).length) :
    ∀ v ∈ s :: rest, '/' ∉ v := by
  intro v member
  rw [splitOn_length, count_join, List.length_cons] at same
  have none : ((s :: rest).map (List.count '/')).sum = 0 := by omega
  exact List.count_eq_zero.mp
    (List.sum_eq_zero_iff_forall_eq_nat.mp none _ (List.mem_map_of_mem member))

theorem clean_of_heavy {keep : Char → Bool} (slash : keep '/' = true) (dot : keep '.' = true)
    {s : List Char} {rest : List (List Char)} (free : ∀ v ∈ s :: rest, '/' ∉ v)
    (heavy : (octets (join (s :: rest))).length + 1 ≤
      weight (pathSegments keep (parts (join (s :: rest))).path)) : ∀ v ∈ s :: rest, Clean v := by
  obtain ⟨shorter, cuts⟩ := parts_octets (join (s :: rest))
  obtain ⟨lighter, dots⟩ := pathSegments_weight keep (parts (join (s :: rest))).path
  have decoded := percentDecode_length_le (parts (join (s :: rest))).path
  obtain ⟨noFragment, noQuery, whole⟩ := cuts (by omega)
  rw [whole] at heavy lighter dots decoded
  have plain : Unescaped (join (s :: rest)) := unescaped_of_length (by omega)
  obtain ⟨noDots, _⟩ := dots (by omega)
  have split : (join (s :: rest)).splitOn '/' = s :: rest :=
    List.splitOn_intercalate '/' free (by simp)
  rw [quote_splitOn slash, split] at noDots
  intro v member
  have notDot := noDots (quote keep v) (List.mem_map_of_mem member)
  refine ⟨free v member, ?_, ?_, unescaped_of_join plain member, ?_, ?_⟩
  · exact fun inside => noQuery (mem_join_of_mem member inside)
  · exact fun inside => noFragment (mem_join_of_mem member inside)
  · rintro rfl
    exact notDot.1 (quote_of_kept (by simp [dot]))
  · rintro rfl
    exact notDot.2 (quote_of_kept (by simp [dot]))

theorem clean_of_segments_denote {keep : Char → Bool} (slash : keep '/' = true)
    (dot : keep '.' = true) {s : List Char} {rest : List (List Char)}
    (denotes : List.Forall₂ (fun v segment => percentDecode segment = octets v) (s :: rest)
      (pathSegments keep (parts (join (s :: rest))).path)) :
    ∀ v ∈ s :: rest, Clean v := by
  have weighs := denoted_weight denotes
  rw [octets_join] at weighs
  obtain ⟨shorter, cuts⟩ := parts_octets (join (s :: rest))
  obtain ⟨lighter, dots⟩ := pathSegments_weight keep (parts (join (s :: rest))).path
  have decoded := percentDecode_length_le (parts (join (s :: rest))).path
  obtain ⟨_, _, whole⟩ := cuts (by omega)
  obtain ⟨_, kept⟩ := dots (by omega)
  have lengths := denotes.length_eq
  rw [kept, whole, quote_splitOn slash, List.length_map] at lengths
  exact clean_of_heavy slash dot (slash_free_of_length lengths.symm) (Nat.le_of_eq weighs.symm)

theorem quoted_denote (keep : Char → Bool) {pieces : List (List Char)}
    (plain : ∀ v ∈ pieces, Unescaped v) :
    List.Forall₂ (fun v segment => percentDecode segment = octets v) pieces
      (pieces.map (quote keep)) := by
  induction pieces with
  | nil => exact .nil
  | cons v vs ih =>
    refine .cons ?_ (ih fun w member => plain w (List.mem_cons_of_mem v member))
    rw [percentDecode_quote, percentDecode_unescaped (plain v (by simp))]

theorem percentDecode_join {pieces segments : List (List Char)}
    (denotes : List.Forall₂ (fun v segment => percentDecode segment = octets v) pieces segments) :
    percentDecode (join segments) = octets (join pieces) := by
  induction denotes with
  | nil => rfl
  | cons head rest ih =>
    cases rest with
    | nil => simpa [join] using head
    | cons next more =>
      rw [join_cons_cons, join_cons_cons, percentDecode_slash, head, ih, octets_append]
      rfl

/- Sending the pieces of a path as one text is faithful exactly when every piece
   is clean. Cutting, decoding escapes and removing dot segments all lose octets,
   so a target that still stands for all pieces has lost nothing on the way. -/
theorem segments_denote_iff {keep : Char → Bool} (slash : keep '/' = true)
    (dot : keep '.' = true) {pieces : List (List Char)} (some : pieces ≠ []) :
    List.Forall₂ (fun v segment => percentDecode segment = octets v) pieces
        (pathSegments keep (parts (join pieces)).path) ↔ ∀ v ∈ pieces, Clean v := by
  constructor
  · intro denotes
    obtain ⟨s, rest, rfl⟩ := List.exists_cons_of_ne_nil some
    exact clean_of_segments_denote slash dot denotes
  · intro clean
    rw [clean_parts clean, clean_segments slash some clean]
    exact quoted_denote keep fun v member => (clean v member).unescaped

end Parts
end UriReference

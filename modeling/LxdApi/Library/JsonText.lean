import Mathlib.Data.List.Induction
import Mathlib.Data.Char

set_option autoImplicit false

/- Records of texts as JSON objects on one line. Texts are read by way of their UTF-16 code
   units, as their escapes name them; any way of writing the characters of a text that is
   lawful for this reader is read back. -/
namespace JsonText

def utf16 (c : Char) : List Nat :=
  if c.toNat < 0x10000 then [c.toNat]
  else [0xd800 + (c.toNat - 0x10000) / 0x400, 0xdc00 + (c.toNat - 0x10000) % 0x400]

def isHigh (n : Nat) : Bool := 0xd800 ≤ n ∧ n < 0xdc00

def isLow (n : Nat) : Bool := 0xdc00 ≤ n ∧ n < 0xe000

/-- A surrogate stands for a character only together with its other half. -/
def chars : List Nat → Option (List Char)
  | [] => some []
  | unit :: rest =>
    if isHigh unit then
      match rest with
      | [] => none
      | low :: others =>
        if isLow low then
          (chars others).map
            (Char.ofNat (0x10000 + (unit - 0xd800) * 0x400 + (low - 0xdc00)) :: ·)
        else none
    else if isLow unit then none
    else (chars rest).map (Char.ofNat unit :: ·)

def hexDigit? (c : Char) : Option Nat :=
  if '0' ≤ c ∧ c ≤ '9' then some (c.toNat - 48)
  else if 'a' ≤ c ∧ c ≤ 'f' then some (c.toNat - 87)
  else if 'A' ≤ c ∧ c ≤ 'F' then some (c.toNat - 55)
  else none

def hex4? (a b c d : Char) : Option Nat := do
  let a ← hexDigit? a
  let b ← hexDigit? b
  let c ← hexDigit? c
  let d ← hexDigit? d
  return ((a * 16 + b) * 16 + c) * 16 + d

def short? (c : Char) : Option Nat :=
  if c = '"' then some 34
  else if c = '\\' then some 92
  else if c = '/' then some 47
  else if c = 'b' then some 8
  else if c = 'f' then some 12
  else if c = 'n' then some 10
  else if c = 'r' then some 13
  else if c = 't' then some 9
  else none

def units : List Char → Option (List Nat × List Char)
  | [] => none
  | c :: rest =>
    if c = '"' then some ([], rest)
    else if c = '\\' then
      match rest with
      | [] => none
      | e :: tail =>
        if e = 'u' then
          match tail with
          | w :: x :: y :: z :: others => do
              let unit ← hex4? w x y z
              let (more, left) ← units others
              return (unit :: more, left)
          | _ => none
        else do
          let unit ← short? e
          let (more, left) ← units tail
          return (unit :: more, left)
    else if c.toNat < 32 then none
    else (units rest).map fun found => (utf16 c ++ found.1, found.2)

def isBlank (c : Char) : Bool := c = ' ' ∨ c = '\t' ∨ c = '\n' ∨ c = '\r'

def skip (text : List Char) : List Char := text.dropWhile isBlank

def readString (text : List Char) : Option (List Char × List Char) :=
  match skip text with
  | [] => none
  | c :: rest =>
    if c = '"' then do
      let (found, left) ← units rest
      let value ← chars found
      return (value, left)
    else none

def expect (c : Char) (text : List Char) : Option (List Char) :=
  match skip text with
  | [] => none
  | d :: rest => if d = c then some rest else none

def readMember (text : List Char) : Option ((List Char × List Char) × List Char) := do
  let (key, rest) ← readString text
  let rest ← expect ':' rest
  let (value, rest) ← readString rest
  return ((key, value), rest)

def readMembers : Nat → List Char → Option (List (List Char × List Char) × List Char)
  | 0, _ => none
  | fuel + 1, text => do
    let (entry, rest) ← readMember text
    match expect '}' rest with
    | some left => return ([entry], left)
    | none =>
      let rest ← expect ',' rest
      let (more, left) ← readMembers fuel rest
      return (entry :: more, left)

def readRecord (text : List Char) : Option (List (List Char × List Char)) := do
  let rest ← expect '{' text
  let (entries, left) ←
    match expect '}' rest with
    | some left => some ([], left)
    | none => readMembers rest.length rest
  if skip left = [] then return entries else none

theorem char_bounds (c : Char) : c.toNat < 0xd800 ∨ 0xe000 ≤ c.toNat ∧ c.toNat < 0x110000 := by
  have valid := c.valid
  simp only [UInt32.isValidChar, Nat.isValidChar] at valid
  have same : c.val.toNat = c.toNat := rfl
  omega

theorem chars_utf16 (c : Char) (rest : List Nat) :
    chars (utf16 c ++ rest) = (chars rest).map (c :: ·) := by
  have bounds := char_bounds c
  unfold utf16
  split
  · rename_i small
    have notHigh : isHigh c.toNat = false := by
      simp only [isHigh, decide_eq_false_iff_not]
      omega
    have notLow : isLow c.toNat = false := by
      simp only [isLow, decide_eq_false_iff_not]
      omega
    rw [List.singleton_append, chars.eq_def]
    simp only [notHigh, notLow, Char.ofNat_toNat, Bool.false_eq_true, if_false]
  · rename_i large
    have high : isHigh (0xd800 + (c.toNat - 0x10000) / 0x400) = true := by
      simp only [isHigh, decide_eq_true_eq]
      omega
    have low : isLow (0xdc00 + (c.toNat - 0x10000) % 0x400) = true := by
      simp only [isLow, decide_eq_true_eq]
      omega
    have whole : 0x10000 + (0xd800 + (c.toNat - 0x10000) / 0x400 - 0xd800) * 0x400 +
        (0xdc00 + (c.toNat - 0x10000) % 0x400 - 0xdc00) = c.toNat := by
      omega
    rw [List.cons_append, List.singleton_append, chars.eq_def]
    simp only [high, low, whole, Char.ofNat_toNat, if_true]

theorem chars_flatMap_utf16 (text : List Char) : chars (text.flatMap utf16) = some text := by
  induction text with
  | nil => rfl
  | cons c rest ih => rw [List.flatMap_cons, chars_utf16, ih, Option.map_some]

def Lawful (escaped : Char → List Char) : Prop :=
  ∀ c rest, units (escaped c ++ rest) =
    (units rest).map fun found => (utf16 c ++ found.1, found.2)

section Writing
variable (escaped : Char → List Char)

def writeString (text : List Char) : List Char := '"' :: text.flatMap escaped ++ ['"']

def writeMember (entry : List Char × List Char) : List Char :=
  writeString escaped entry.1 ++ [':', ' '] ++ writeString escaped entry.2

def writeMembers : List (List Char × List Char) → List Char
  | [] => []
  | [entry] => writeMember escaped entry
  | entry :: rest => writeMember escaped entry ++ [',', ' '] ++ writeMembers rest

def writeRecord (entries : List (List Char × List Char)) : List Char :=
  '{' :: writeMembers escaped entries ++ ['}']

variable {escaped} (lawful : Lawful escaped)
include lawful

theorem units_written (text rest : List Char) :
    units (text.flatMap escaped ++ '"' :: rest) = some (text.flatMap utf16, rest) := by
  induction text with
  | nil =>
    rw [List.flatMap_nil, List.nil_append, units.eq_def]
    rfl
  | cons c others ih =>
    rw [List.flatMap_cons, List.append_assoc, lawful, ih, List.flatMap_cons]
    rfl

theorem readString_write (text rest : List Char) :
    readString (writeString escaped text ++ rest) = some (text, rest) := by
  have opened : skip (writeString escaped text ++ rest) =
      '"' :: (text.flatMap escaped ++ '"' :: rest) := by
    simp only [writeString, List.cons_append, List.append_assoc]
    rfl
  unfold readString
  rw [opened]
  simp only [if_pos, units_written lawful, chars_flatMap_utf16, bind, Option.bind, pure]

theorem readMember_write (entry : List Char × List Char) (rest : List Char) :
    readMember (writeMember escaped entry ++ rest) = some (entry, rest) := by
  have second : readString (' ' :: (writeString escaped entry.2 ++ rest)) =
      some (entry.2, rest) := by
    have blank : ∀ text, readString (' ' :: text) = readString text := fun _ => rfl
    rw [blank, readString_write lawful]
  have colon : expect ':' (':' :: ' ' :: (writeString escaped entry.2 ++ rest)) =
      some (' ' :: (writeString escaped entry.2 ++ rest)) := rfl
  unfold readMember writeMember
  rw [List.append_assoc, List.append_assoc, readString_write lawful]
  simp only [Option.bind_eq_bind, Option.bind_some, List.cons_append, List.nil_append, colon,
    second, Option.pure_def]

theorem readMembers_write {entries : List (List Char × List Char)} (some : entries ≠ [])
    (rest : List Char) {fuel : Nat} (enough : entries.length ≤ fuel) :
    readMembers fuel (writeMembers escaped entries ++ '}' :: rest) = .some (entries, rest) := by
  induction entries generalizing fuel with
  | nil => exact absurd rfl some
  | cons entry others ih =>
    cases fuel with
    | zero => simp at enough
    | succ fuel =>
      cases others with
      | nil =>
        unfold readMembers
        rw [writeMembers, readMember_write lawful]
        rfl
      | cons next more =>
        have tail := ih (List.cons_ne_nil _ _) (Nat.le_of_succ_le_succ enough)
        have blank : ∀ text, readMembers fuel (' ' :: text) = readMembers fuel text := by
          intro text
          cases fuel <;> rfl
        have text : writeMembers escaped (entry :: next :: more) ++ '}' :: rest =
            writeMember escaped entry ++
              ',' :: ' ' :: (writeMembers escaped (next :: more) ++ '}' :: rest) := by
          simp [writeMembers]
        have closing : ∀ text, expect '}' (',' :: text) = none := fun _ => rfl
        have comma : ∀ text, expect ',' (',' :: text) = .some text := fun _ => rfl
        unfold readMembers
        rw [text, readMember_write lawful]
        simp only [Option.bind_eq_bind, Option.bind_some, closing, comma, blank, tail,
          Option.pure_def]

omit lawful in
theorem length_le_writeMembers (entries : List (List Char × List Char)) :
    entries.length ≤ (writeMembers escaped entries).length := by
  induction entries with
  | nil => exact Nat.le_refl 0
  | cons entry others ih =>
    cases others with
    | nil =>
      simp only [writeMembers, writeMember, List.length_append, List.length_cons, List.length_nil]
      omega
    | cons next more =>
      simp only [writeMembers, List.length_append, List.length_cons] at ih ⊢
      omega

theorem readRecord_write (entries : List (List Char × List Char)) :
    readRecord (writeRecord escaped entries) = some entries := by
  have opening : expect '{' (writeRecord escaped entries) =
      some (writeMembers escaped entries ++ ['}']) := rfl
  have enough : entries.length ≤ (writeMembers escaped entries ++ ['}']).length := by
    have bound := @length_le_writeMembers escaped entries
    rw [List.length_append]
    omega
  have nothing : skip [] = [] := rfl
  unfold readRecord
  rw [opening]
  cases entries with
  | nil => rfl
  | cons entry others =>
    have quoted : expect '}' (writeMembers escaped (entry :: others) ++ ['}']) = none := by
      cases others <;> simp only [writeMembers, writeMember, writeString, List.cons_append] <;> rfl
    have all := readMembers_write lawful (List.cons_ne_nil entry others) [] enough
    simp only [Option.bind_eq_bind, Option.bind_some, quoted, all, nothing, if_true,
      Option.pure_def]

omit lawful

theorem forall_mem_writeRecord {holds : Char → Prop}
    (marks : ∀ c ∈ ['{', '}', '"', ':', ',', ' '], holds c)
    (escapes : ∀ c, ∀ d ∈ escaped c, holds d) (entries : List (List Char × List Char)) :
    ∀ d ∈ writeRecord escaped entries, holds d := by
  simp only [List.forall_mem_cons] at marks
  obtain ⟨opening, closing, quoteMark, colon, comma, blank, _⟩ := marks
  have string : ∀ text, ∀ d ∈ writeString escaped text, holds d := by
    intro text
    simp only [writeString, List.cons_append, List.forall_mem_cons, List.forall_mem_append,
      List.mem_flatMap]
    refine ⟨quoteMark, ?_, quoteMark, by simp⟩
    intro d inside
    obtain ⟨c, _, own⟩ := inside
    exact escapes c d own
  have one : ∀ entry, ∀ d ∈ writeMember escaped entry, holds d := by
    intro entry
    simp only [writeMember, List.forall_mem_append, List.forall_mem_cons]
    exact ⟨⟨string _, colon, blank, by simp⟩, string _⟩
  have all : ∀ d ∈ writeMembers escaped entries, holds d := by
    induction entries with
    | nil => simp [writeMembers]
    | cons entry others ih =>
      cases others with
      | nil => exact one entry
      | cons next more =>
        simp only [writeMembers, List.forall_mem_append, List.forall_mem_cons] at ih ⊢
        exact ⟨⟨one entry, comma, blank, by simp⟩, ih⟩
  simp only [writeRecord, List.cons_append, List.forall_mem_cons, List.forall_mem_append]
  exact ⟨opening, all, closing, by simp⟩

end Writing

def lines (texts : List (List Char)) : List Char := texts.flatMap (· ++ ['\n'])

theorem splitOn_lines {texts : List (List Char)} (flat : ∀ text ∈ texts, '\n' ∉ text) :
    (lines texts).splitOn '\n' = texts ++ [[]] := by
  induction texts with
  | nil => exact List.splitOn_nil '\n'
  | cons text rest ih =>
    have one : lines (text :: rest) = text ++ '\n' :: lines rest := by
      simp only [lines, List.flatMap_cons, List.append_assoc, List.singleton_append]
    rw [one, List.splitOn_append_cons_self_of_not_mem (flat text List.mem_cons_self),
      ih fun other inside => flat other (List.mem_cons_of_mem text inside), List.cons_append]

end JsonText

import LxdApi.Library.OrderedMap
import Mathlib.Data.List.Nodup

set_option autoImplicit false

/- Records of named fields in self-describing documents: a format reads a document field by
   field, with defaults, and either settles its values or says of every fault where it is.
   Written out again without its nulls, a record is a document of the same format. -/
namespace RecordFormat
open OrderedMap

class Document (K : outParam Type) (V : Type) where
  isNull : V → Bool
  list : List V → V
  list? : V → Option (List V)
  list?_list : ∀ items, list? (list items) = some items
  record : List (K × V) → V
  record? : V → Option (List (K × V))
  record?_record : ∀ fields, record? (record fields) = some fields
  isNull_list : ∀ items, isNull (list items) = false
  isNull_record : ∀ fields, isNull (record fields) = false

inductive Step (K : Type) where
  | key (name : K)
  | index (n : Nat)
  deriving DecidableEq, Repr

abbrev Place (K : Type) := List (Step K)

abbrev Reading (K A : Type) := Except (List (Place K)) A

theorem matched {A B : Type} {related : A → B → Prop} {left : List A} {right : List B}
    (each : List.Forall₂ related left right) :
    (∀ b ∈ right, ∃ a ∈ left, related a b) ∧ ∀ a ∈ left, ∃ b ∈ right, related a b := by
  induction each with
  | nil => simp
  | cons first _ ih =>
    constructor
    · intro b member
      rcases List.mem_cons.mp member with same | later
      · exact ⟨_, List.mem_cons_self, same ▸ first⟩
      · obtain ⟨a, inside, related⟩ := ih.1 b later
        exact ⟨a, List.mem_cons_of_mem _ inside, related⟩
    · intro a member
      rcases List.mem_cons.mp member with same | later
      · exact ⟨_, List.mem_cons_self, same ▸ first⟩
      · obtain ⟨b, inside, related⟩ := ih.2 a later
        exact ⟨b, List.mem_cons_of_mem _ inside, related⟩

section Readings
variable {K A B : Type}

def Reading.below (step : Step K) (reading : Reading K A) : Reading K A :=
  reading.mapError fun places => places.map (step :: ·)

def together : List (Reading K A) → Reading K (List A)
  | [] => .ok []
  | first :: rest =>
    match first, together rest with
    | .ok value, .ok values => .ok (value :: values)
    | .ok _, .error places => .error places
    | .error places, .ok _ => .error places
    | .error places, .error more => .error (places ++ more)

@[simp] theorem below_eq_ok_iff (step : Step K) (reading : Reading K A) (value : A) :
    reading.below step = .ok value ↔ reading = .ok value := by
  cases reading with
  | ok other => exact Iff.rfl
  | error places => simp [Reading.below, Except.mapError]

@[simp] theorem map_eq_ok_iff (f : A → B) (reading : Reading K A) (value : B) :
    reading.map f = .ok value ↔ ∃ before, reading = .ok before ∧ f before = value := by
  cases reading with
  | ok other => simp [Except.map]
  | error places => simp [Except.map]

theorem together_eq_ok_iff (readings : List (Reading K A)) (values : List A) :
    together readings = .ok values ↔ List.Forall₂ (fun reading value => reading = .ok value)
      readings values := by
  induction readings generalizing values with
  | nil => cases values <;> simp [together]
  | cons first rest ih =>
    cases first with
    | error places => cases shape : together rest <;> cases values <;> simp [together, shape]
    | ok value =>
      cases shape : together rest with
      | error places =>
        cases values with
        | nil => simp [together, shape]
        | cons other others => simp [together, shape, ← ih]
      | ok found =>
        cases values with
        | nil => simp [together, shape]
        | cons other others => simp [together, shape, ← ih]

theorem together_reads_iff (readings : List (Reading K A)) :
    (∃ values, together readings = .ok values) ↔
      ∀ reading ∈ readings, ∃ value, reading = .ok value := by
  induction readings with
  | nil => simp [together]
  | cons first rest ih =>
    rw [List.forall_mem_cons, ← ih]
    cases first <;> cases shape : together rest <;> simp [together, shape]

end Readings

/-- A way to read a document: what it settles for, it reads again as it is. -/
structure Reader (K V : Type) where
  read : V → Reading K V
  settled : ∀ {given value}, read given = .ok value → read value = .ok value

section Readers
variable {K V : Type} [Document K V]
open Document

def Reader.Solid (reader : Reader K V) : Prop :=
  ∀ given value, reader.read given = .ok value → isNull value = false

def Reader.check (test : V → Bool) : Reader K V where
  read given := if test given then .ok given else .error [[]]
  settled := by
    intro given value read
    split at read
    · rename_i passes
      cases read
      exact if_pos passes
    · cases read

def Reader.such (reader : Reader K V) (test : V → Bool) : Reader K V where
  read given :=
    match reader.read given with
    | .ok value => if test value then .ok value else .error [[]]
    | .error places => .error places
  settled := by
    intro given value read
    split at read
    · rename_i found
      split at read
      · rename_i passes
        cases read
        rw [reader.settled found]
        exact if_pos passes
      · cases read
    · cases read

omit [Document K V] in
theorem such_eq_ok_iff (reader : Reader K V) (test : V → Bool) (given value : V) :
    (reader.such test).read given = .ok value ↔
      reader.read given = .ok value ∧ test value = true := by
  cases found : reader.read given with
  | error places => simp [Reader.such, found]
  | ok other =>
    by_cases passes : test other = true
    · simp only [Reader.such, found, if_pos passes]
      constructor
      · intro same
        cases same
        exact ⟨rfl, passes⟩
      · intro h
        exact h.1
    · simp only [Reader.such, found, if_neg passes]
      constructor
      · intro same
        cases same
      · intro h
        obtain ⟨same, passed⟩ := h
        cases same
        exact absurd passed passes

def Reader.orNull (reader : Reader K V) : Reader K V where
  read given := if isNull given then .ok given else reader.read given
  settled := by
    intro given value read
    split at read
    · rename_i null
      cases read
      rw [if_pos null]
    · split
      · rfl
      · exact reader.settled read

section Parts
omit [Document K V]

def Reader.items (reader : Reader K V) : Nat → List V → List (Reading K V)
  | _, [] => []
  | n, item :: rest => (reader.read item).below (.index n) :: reader.items (n + 1) rest

theorem items_settled (reader : Reader K V) {n : Nat} {given values : List V}
    (read : together (reader.items n given) = .ok values) :
    together (reader.items n values) = .ok values := by
  rw [together_eq_ok_iff] at read ⊢
  induction given generalizing n values with
  | nil =>
    cases read
    exact .nil
  | cons item rest ih =>
    cases read with
    | cons first others =>
      exact .cons ((below_eq_ok_iff _ _ _).mpr (reader.settled ((below_eq_ok_iff _ _ _).mp first)))
        (ih others)

def Reader.entry (reader : Reader K V) (entry : K × V) : Reading K (K × V) :=
  ((reader.read entry.2).below (.key entry.1)).map (entry.1, ·)

theorem entry_eq_ok_iff (reader : Reader K V) (given value : K × V) :
    reader.entry given = .ok value ↔ reader.read given.2 = .ok value.2 ∧ given.1 = value.1 := by
  simp only [Reader.entry, map_eq_ok_iff, below_eq_ok_iff]
  constructor
  · intro h
    obtain ⟨found, read, shape⟩ := h
    rw [← shape]
    exact ⟨read, rfl⟩
  · intro h
    exact ⟨value.2, h.1, by rw [h.2]⟩

theorem entries_settled (reader : Reader K V) {given values : List (K × V)}
    (read : together (given.map reader.entry) = .ok values) :
    together (values.map reader.entry) = .ok values := by
  rw [together_eq_ok_iff, List.forall₂_map_left_iff] at read ⊢
  induction read with
  | nil => exact .nil
  | cons first _ ih =>
    have settled := reader.settled ((entry_eq_ok_iff _ _ _).mp first).1
    exact .cons ((entry_eq_ok_iff _ _ _).mpr ⟨settled, rfl⟩) ih

end Parts

def Reader.listOf (reader : Reader K V) : Reader K V where
  read given :=
    match list? given with
    | none => .error [[]]
    | some items => (together (reader.items 0 items)).map list
  settled := by
    intro given value read
    split at read
    · cases read
    · obtain ⟨values, all, shape⟩ := (map_eq_ok_iff _ _ _).mp read
      rw [← shape, list?_list]
      exact (map_eq_ok_iff _ _ _).mpr ⟨values, items_settled reader all, rfl⟩

def Reader.recordOf (reader : Reader K V) : Reader K V where
  read given :=
    match record? given with
    | none => .error [[]]
    | some fields => (together (fields.map reader.entry)).map record
  settled := by
    intro given value read
    split at read
    · cases read
    · obtain ⟨values, all, shape⟩ := (map_eq_ok_iff _ _ _).mp read
      rw [← shape, record?_record]
      exact (map_eq_ok_iff _ _ _).mpr ⟨values, entries_settled reader all, rfl⟩

end Readers

section Schemas
variable {K V : Type} [Document K V]
open Document

/-- A field with the value that stands in for a missing one; without one it is required. -/
structure Field (K V : Type) [Document K V] where
  key : K
  reader : Reader K V
  default : Option V
  fixed : ∀ value, default = some value → isNull value = true ∨ reader.read value = .ok value

/-- The fields of a record, and whether it keeps what they do not declare. -/
structure Schema (K V : Type) [Document K V] where
  fields : List (Field K V)
  distinct : (fields.map Field.key).Nodup
  keepsOthers : Bool

def dump (record : List (K × V)) : List (K × V) := record.filter fun entry => !isNull entry.2

theorem mem_dump {record : List (K × V)} {entry : K × V} :
    entry ∈ dump record ↔ entry ∈ record ∧ isNull entry.2 = false := by
  simp [dump]

theorem dump_dump (record : List (K × V)) : dump (dump record) = dump record := by
  simp [dump]

variable [DecidableEq K]

def Field.value (field : Field K V) (given : List (K × V)) : Reading K V :=
  match get? given field.key with
  | some value => (field.reader.read value).below (.key field.key)
  | none =>
    match field.default with
    | some value => .ok value
    | none => .error [[.key field.key]]

namespace Schema

def keys (schema : Schema K V) : List K := schema.fields.map Field.key

def others (schema : Schema K V) (given : List (K × V)) : List (K × V) :=
  if schema.keepsOthers then given.filter fun entry => entry.1 ∉ schema.keys else []

def declared (schema : Schema K V) (given : List (K × V)) : Reading K (List (K × V)) :=
  together (schema.fields.map fun field => (field.value given).map (field.key, ·))

def read (schema : Schema K V) (given : List (K × V)) : Reading K (List (K × V)) :=
  (schema.declared given).map (· ++ schema.others given)

theorem read_eq_ok_iff (schema : Schema K V) (given record : List (K × V)) :
    schema.read given = .ok record ↔ ∃ own, List.Forall₂
      (fun field entry => entry.1 = field.key ∧ field.value given = .ok entry.2) schema.fields own ∧
        record = own ++ schema.others given := by
  simp only [read, map_eq_ok_iff, declared, together_eq_ok_iff, List.forall₂_map_left_iff]
  have same : ∀ (field : Field K V) (entry : K × V),
      (∃ value, field.value given = .ok value ∧ (field.key, value) = entry) ↔
        entry.1 = field.key ∧ field.value given = .ok entry.2 := by
    intro field entry
    constructor
    · intro h
      obtain ⟨value, found, shape⟩ := h
      rw [← shape]
      exact ⟨rfl, found⟩
    · intro h
      exact ⟨entry.2, h.2, by rw [← h.1]⟩
  simp only [same]
  constructor
  · intro h
    obtain ⟨own, each, shape⟩ := h
    exact ⟨own, each, shape.symm⟩
  · intro h
    obtain ⟨own, each, shape⟩ := h
    exact ⟨own, each, shape.symm⟩

theorem reads_iff (schema : Schema K V) (given : List (K × V)) :
    (∃ record, schema.read given = .ok record) ↔
      ∀ field ∈ schema.fields, ∃ value, field.value given = .ok value := by
  have all := together_reads_iff (schema.fields.map fun field =>
    (field.value given).map (field.key, ·))
  simp only [List.forall_mem_map, map_eq_ok_iff] at all
  simp only [read, map_eq_ok_iff, declared]
  constructor
  · intro h
    obtain ⟨record, own, found, _⟩ := h
    intro field member
    obtain ⟨entry, value, reads, _⟩ := all.mp ⟨own, found⟩ field member
    exact ⟨value, reads⟩
  · intro each
    have parts : ∀ field ∈ schema.fields, ∃ entry value, field.value given = .ok value ∧
        (field.key, value) = entry := by
      intro field member
      obtain ⟨value, reads⟩ := each field member
      exact ⟨_, value, reads, rfl⟩
    obtain ⟨own, found⟩ := all.mpr parts
    exact ⟨_, own, found, rfl⟩

end Schema

namespace Schema
variable {schema : Schema K V} {given record : List (K × V)}

theorem others_undeclared {entry : K × V} (member : entry ∈ schema.others given) :
    entry.1 ∉ schema.keys := by
  unfold others at member
  split at member
  · simpa using (List.mem_filter.mp member).2
  · cases member

theorem entry_of_read (found : schema.read given = .ok record) {field : Field K V}
    (listed : field ∈ schema.fields) {entry : K × V} (named : entry.1 = field.key) :
    entry ∈ record ↔ field.value given = .ok entry.2 := by
  obtain ⟨own, each, shape⟩ := (schema.read_eq_ok_iff given record).mp found
  have declared : field.key ∈ schema.keys := List.mem_map_of_mem listed
  have outside : entry ∉ schema.others given := by
    intro member
    exact others_undeclared member (named ▸ declared)
  rw [shape, List.mem_append, or_iff_left outside]
  constructor
  · intro member
    obtain ⟨other, otherListed, named', value⟩ := (matched each).1 entry member
    have same : other = field :=
      List.inj_on_of_nodup_map schema.distinct otherListed listed (named'.symm.trans named)
    rw [← same]
    exact value
  · intro value
    obtain ⟨one, member, named', value'⟩ := (matched each).2 field listed
    have same : one = entry :=
      Prod.ext (named'.trans named.symm) (Except.ok.inj (value'.symm.trans value))
    exact same ▸ member

theorem get?_dump (found : schema.read given = .ok record) {field : Field K V}
    (listed : field ∈ schema.fields) {value : V} (held : field.value given = .ok value) :
    get? (dump record) field.key = if isNull value then none else some value := by
  have own : ∀ entry ∈ dump record, entry.1 = field.key → entry.2 = value ∧
      isNull value = false := by
    intro entry member named
    obtain ⟨inside, solid⟩ := mem_dump.mp member
    have same := (entry_of_read found listed named).mp inside
    rw [held] at same
    cases same
    exact ⟨rfl, solid⟩
  split
  · rename_i null
    rw [get?_eq_none_iff]
    intro entry member named
    rw [(own entry member named).2] at null
    cases null
  · rename_i solid
    have member : (field.key, value) ∈ dump record :=
      mem_dump.mpr ⟨(entry_of_read found listed rfl).mpr held, by simpa using solid⟩
    exact get?_of_agree member fun entry inside named => (own entry inside named).1

theorem others_dump (found : schema.read given = .ok record) :
    schema.others (dump record) = dump (schema.others given) := by
  obtain ⟨own, each, shape⟩ := (schema.read_eq_ok_iff given record).mp found
  have declared : ∀ entry ∈ own, entry.1 ∈ schema.keys := by
    intro entry member
    obtain ⟨field, listed, named, _⟩ := (matched each).1 entry member
    exact named ▸ List.mem_map_of_mem listed
  rw [shape]
  unfold others dump
  split
  · have none : own.filter (fun entry => decide (entry.1 ∉ schema.keys)) = [] := by
      rw [List.filter_eq_nil_iff]
      intro entry member
      simp [declared entry member]
    rw [List.filter_comm, List.filter_append, none, List.nil_append]
    simp only [List.filter_filter, Bool.and_self]
  · rfl

end Schema

def Field.Settles (field : Field K V) (given : List (K × V)) : Prop :=
  ∀ value, field.value given = .ok value → isNull value = true →
    ∃ stand, field.default = some stand ∧ isNull stand = true

def Field.Plain (field : Field K V) : Prop :=
  (∃ stand, field.default = some stand ∧ isNull stand = true) ∨
    field.reader.Solid ∧ ∀ stand, field.default = some stand → isNull stand = false

theorem Field.settles_of_plain (field : Field K V) (plain : field.Plain) (given : List (K × V)) :
    field.Settles given := by
  intro value held null
  rcases plain with fallback | ⟨solid, sound⟩
  · exact fallback
  · unfold Field.value at held
    split at held
    · rw [solid _ _ ((below_eq_ok_iff _ _ _).mp held)] at null
      cases null
    · split at held
      · rename_i stand fallback
        cases held
        rw [sound _ fallback] at null
        cases null
      · cases held

theorem Field.value_settled (field : Field K V) {given : List (K × V)} {value : V}
    (held : field.value given = .ok value) :
    isNull value = true ∨ field.reader.read value = .ok value := by
  unfold Field.value at held
  split at held
  · exact Or.inr (field.reader.settled ((below_eq_ok_iff _ _ _).mp held))
  · split at held
    · rename_i stand fallback
      cases held
      exact field.fixed _ fallback
    · cases held

theorem value_dump {schema : Schema K V} {given record : List (K × V)}
    (found : schema.read given = .ok record) {field : Field K V} (listed : field ∈ schema.fields)
    {value : V} (held : field.value given = .ok value) :
    field.value (dump record) = if isNull value then
      match field.default with
      | some stand => .ok stand
      | none => .error [[.key field.key]]
    else .ok value := by
  have looked := Schema.get?_dump found listed held
  by_cases null : isNull value = true
  · rw [if_pos null] at looked ⊢
    unfold Field.value
    rw [looked]
  · rw [if_neg null] at looked ⊢
    have settled := (field.value_settled held).resolve_left null
    unfold Field.value
    rw [looked]
    exact (below_eq_ok_iff _ _ _).mpr settled

namespace Schema
variable {schema : Schema K V} {given record : List (K × V)}

theorem dump_own {fields : List (Field K V)} {own again : List (K × V)}
    (each : List.Forall₂ (fun field entry => entry.1 = field.key ∧ field.value given = .ok entry.2)
      fields own)
    (each' : List.Forall₂
      (fun field entry => entry.1 = field.key ∧ field.value record = .ok entry.2) fields again)
    (same : ∀ field ∈ fields, ∀ value value', field.value given = .ok value →
      field.value record = .ok value' →
        value = value' ∨ isNull value = true ∧ isNull value' = true) :
    dump again = dump own := by
  induction each generalizing again with
  | nil =>
    cases each'
    rfl
  | @cons field entry fields own first _ ih =>
    cases each' with
    | @cons _ entry' _ _ first' rest' =>
      have tail := ih rest' fun other member => same other (List.mem_cons_of_mem _ member)
      unfold dump at tail ⊢
      rw [List.filter_cons, List.filter_cons, tail]
      rcases same field List.mem_cons_self _ _ first.2 first'.2 with equal | ⟨null, null'⟩
      · have whole : entry' = entry := Prod.ext (first'.1.trans first.1.symm) equal.symm
        rw [whole]
      · rw [null, null']
        rfl

/- What was read from a document, written out without its nulls, is read again and comes out
   as it is, exactly if no field settles for a null where a missing value would be another. -/
theorem read_dump_iff (found : schema.read given = .ok record) :
    (∃ again, schema.read (dump record) = .ok again ∧ dump again = dump record) ↔
      ∀ field ∈ schema.fields, field.Settles given := by
  constructor
  · intro h
    obtain ⟨again, reread, same⟩ := h
    intro field listed value held null
    have later := value_dump found listed held
    rw [if_pos null] at later
    obtain ⟨value', held'⟩ := (schema.reads_iff _).mp ⟨again, reread⟩ field listed
    rw [held'] at later
    split at later
    · rename_i stand fallback
      cases later
      refine ⟨value', fallback, ?_⟩
      by_contra solid
      have there := get?_dump reread listed held'
      rw [same, get?_dump found listed held, if_pos null, if_neg solid] at there
      cases there
    · cases later
  · intro settles
    have held : ∀ field ∈ schema.fields, ∃ value, field.value given = .ok value :=
      (schema.reads_iff given).mp ⟨record, found⟩
    have later : ∀ field ∈ schema.fields, ∃ value, field.value (dump record) = .ok value := by
      intro field listed
      obtain ⟨value, holds⟩ := held field listed
      rw [value_dump found listed holds]
      split
      · rename_i null
        obtain ⟨stand, fallback, _⟩ := settles field listed value holds null
        rw [fallback]
        exact ⟨stand, rfl⟩
      · exact ⟨value, rfl⟩
    obtain ⟨again, reread⟩ := (schema.reads_iff (dump record)).mpr later
    refine ⟨again, reread, ?_⟩
    obtain ⟨own, each, shape⟩ := (schema.read_eq_ok_iff _ _).mp found
    obtain ⟨own', each', shape'⟩ := (schema.read_eq_ok_iff _ _).mp reread
    have declared : dump own' = dump own := by
      refine dump_own each each' ?_
      intro field listed value value' holds holds'
      rw [value_dump found listed holds] at holds'
      split at holds'
      · rename_i null
        obtain ⟨stand, fallback, nothing⟩ := settles field listed value holds null
        rw [fallback] at holds'
        cases holds'
        exact Or.inr ⟨null, nothing⟩
      · cases holds'
        exact Or.inl rfl
    have others : dump (schema.others (dump record)) = dump (schema.others given) := by
      rw [others_dump found, dump_dump]
    rw [shape', others_dump found, shape]
    unfold dump at declared others ⊢
    rw [List.filter_append, List.filter_append, declared]
    simp

def Plain (schema : Schema K V) : Prop := ∀ field ∈ schema.fields, field.Plain

theorem settles_of_plain (plain : schema.Plain) (given : List (K × V)) :
    ∀ field ∈ schema.fields, field.Settles given :=
  fun field listed => field.settles_of_plain (plain field listed) given

end Schema

def Reader.within (schema : Schema K V) (plain : schema.Plain) : Reader K V where
  read given :=
    match record? given with
    | none => .error [[]]
    | some fields => (schema.read fields).map fun inner => record (dump inner)
  settled := by
    intro given value read
    split at read
    · cases read
    · rename_i fields _
      obtain ⟨inner, found, shape⟩ := (map_eq_ok_iff _ _ _).mp read
      obtain ⟨again, reread, same⟩ :=
        (Schema.read_dump_iff found).mpr (Schema.settles_of_plain plain fields)
      rw [← shape, record?_record]
      exact (map_eq_ok_iff _ _ _).mpr ⟨again, reread, by rw [same]⟩

end Schemas

section Solid
variable {K V : Type} [Document K V]
open Document

@[simp] theorem Reader.Solid.such {reader : Reader K V} (solid : reader.Solid) (test : V → Bool) :
    (reader.such test).Solid := by
  intro given value read
  exact solid given value ((such_eq_ok_iff reader test given value).mp read).1

theorem Reader.Solid.check {test : V → Bool} (solid : ∀ value, test value = true →
    isNull value = false) : (Reader.check (K := K) test).Solid := by
  intro given value read
  simp only [Reader.check] at read
  split at read
  · rename_i passes
    cases read
    exact solid given passes
  · cases read

@[simp] theorem Reader.Solid.listOf (reader : Reader K V) : reader.listOf.Solid := by
  intro given value read
  simp only [Reader.listOf] at read
  split at read
  · cases read
  · obtain ⟨values, _, shape⟩ := (map_eq_ok_iff _ _ _).mp read
    exact shape ▸ isNull_list values

@[simp] theorem Reader.Solid.recordOf (reader : Reader K V) : reader.recordOf.Solid := by
  intro given value read
  simp only [Reader.recordOf] at read
  split at read
  · cases read
  · obtain ⟨values, _, shape⟩ := (map_eq_ok_iff _ _ _).mp read
    exact shape ▸ isNull_record values

@[simp] theorem Reader.Solid.within [DecidableEq K] (schema : Schema K V) (plain : schema.Plain) :
    (Reader.within schema plain).Solid := by
  intro given value read
  simp only [Reader.within] at read
  split at read
  · cases read
  · obtain ⟨inner, _, shape⟩ := (map_eq_ok_iff _ _ _).mp read
    exact shape ▸ isNull_record (dump inner)

end Solid

end RecordFormat

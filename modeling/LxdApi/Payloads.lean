import LxdApi.Library.RecordFormat
import LxdApi.InstanceSchemas
import LxdApi.Catalogue

set_option autoImplicit false

/- The models of `schemas/` that the handlers declare for their bodies: which documents
   they accept, and what they dump. A field stands under the key it has in both. -/
namespace LxdApi
open OrderedMap Json RecordFormat

instance : Document String Json where
  isNull
    | .null => true
    | _ => false
  list := .arr
  list?
    | .arr items => some items
    | _ => none
  list?_list _ := rfl
  record := .obj
  record?
    | .obj fields => some fields
    | _ => none
  record?_record _ := rfl
  isNull_list _ := rfl
  isNull_record _ := rfl

class Coercion where
  laxBool : Json → Option Bool
  laxBool_bool : ∀ b, laxBool (.bool b) = some b

@[reducible] def plainCoercion : Coercion where
  laxBool
    | .bool b => some b
    | _ => none
  laxBool_bool _ := rfl

abbrev JsonReader := Reader String Json

abbrev Model := Schema String Json

section Readers

def isText : Json → Bool
  | .str _ => true
  | _ => false

def text : JsonReader := .check isText

/-- `Literal[..]` -/
def literal (values : List String) : JsonReader :=
  .check fun
    | .str s => s ∈ values
    | _ => false

def isName : Json → Bool
  | .str s => 1 ≤ s.length ∧ s.length ≤ 63 ∧ s.toList.all instanceNameChar
  | _ => false

def name : JsonReader := .check isName

/-- `Field(..., min_length=1)` on a text. -/
def someText : JsonReader :=
  .check fun
    | .str s => 1 ≤ s.length
    | _ => false

def flag [Coercion] : JsonReader where
  read given :=
    match Coercion.laxBool given with
    | some b => .ok (.bool b)
    | none => .error [[]]
  settled := by
    intro given value read
    split at read
    · cases read
      rw [Coercion.laxBool_bool]
    · cases read

def whole [Platform] : JsonReader where
  read given :=
    match Platform.laxInt given with
    | some n => .ok (.int n)
    | none => .error [[]]
  settled := by
    intro given value read
    split at read
    · cases read
      rw [Platform.laxInt_int]
    · cases read

/-- `Field(.., ge=low)` -/
def wholeFrom [Platform] (low : Int) : JsonReader :=
  whole.such fun
    | .int n => low ≤ n
    | _ => false

/-- `dict[str, Any]` -/
def dict : JsonReader := .check isDict

def texts : JsonReader := text.listOf

/-- `dict[str, str]` -/
def textMap : JsonReader := text.recordOf

/-- `dict[str, dict[str, Any]]` -/
def dictMap : JsonReader := dict.recordOf

theorem check_solid {test : Json → Bool} (refuses : test .null = false) :
    (Reader.check test : JsonReader).Solid :=
  .check fun value passes => by
    cases value with
    | null => rw [refuses] at passes; cases passes
    | _ => rfl

@[simp] theorem text_solid : text.Solid := check_solid rfl

@[simp] theorem literal_solid (values : List String) : (literal values).Solid := check_solid rfl

@[simp] theorem name_solid : name.Solid := check_solid rfl

@[simp] theorem someText_solid : someText.Solid := check_solid rfl

@[simp] theorem texts_solid : texts.Solid := .listOf text

@[simp] theorem textMap_solid : textMap.Solid := .recordOf text

@[simp] theorem dictMap_solid : dictMap.Solid := .recordOf dict

@[simp] theorem flag_solid [Coercion] : flag.Solid := by
  intro given value read
  simp only [flag] at read
  split at read
  · cases read
    rfl
  · cases read

@[simp] theorem whole_solid [Platform] : whole.Solid := by
  intro given value read
  simp only [whole] at read
  split at read
  · cases read
    rfl
  · cases read

@[simp] theorem wholeFrom_solid [Platform] (low : Int) : (wholeFrom low).Solid :=
  whole_solid.such _

theorem text_str (s : String) : text.read (.str s) = .ok (.str s) := rfl

theorem text_orNull_str (s : String) : text.orNull.read (.str s) = .ok (.str s) := rfl

theorem literal_str {values : List String} {s : String} (member : s ∈ values) :
    (literal values).read (.str s) = .ok (.str s) := if_pos (decide_eq_true member)

theorem texts_one (s : String) : texts.read (.arr [.str s]) = .ok (.arr [.str s]) := rfl

theorem textMap_nil : textMap.read (.obj []) = .ok (.obj []) := rfl

theorem textMap_one (key s : String) :
    textMap.read (.obj [(key, .str s)]) = .ok (.obj [(key, .str s)]) := rfl

theorem dictMap_nil : dictMap.read (.obj []) = .ok (.obj []) := rfl

end Readers

section Fields

def required (key : String) (reader : JsonReader) : Field String Json where
  key := key
  reader := reader
  default := none
  fixed := by
    intro value fallback
    cases fallback

/-- `Optional[..] = None` -/
def nullable (key : String) (reader : JsonReader) : Field String Json where
  key := key
  reader := reader.orNull
  default := some .null
  fixed := by
    intro value fallback
    cases fallback
    exact Or.inl rfl

def defaulting (key : String) (reader : JsonReader) (default : Json)
    (passes : reader.read default = .ok default) : Field String Json where
  key := key
  reader := reader
  default := some default
  fixed := by
    intro value fallback
    cases fallback
    exact Or.inr passes

@[simp] theorem required_plain (key : String) {reader : JsonReader} (solid : reader.Solid) :
    (required key reader).Plain :=
  Or.inr ⟨solid, fun stand fallback => by cases fallback⟩

@[simp] theorem nullable_plain (key : String) (reader : JsonReader) : (nullable key reader).Plain :=
  Or.inl ⟨.null, rfl, rfl⟩

@[simp] theorem defaulting_plain (key : String) {reader : JsonReader} (solid : reader.Solid)
    {default : Json} (passes : reader.read default = .ok default) :
    (defaulting key reader default passes).Plain := by
  refine Or.inr ⟨solid, ?_⟩
  intro stand fallback
  cases fallback
  exact solid _ _ passes

end Fields

section Models

def model (fields : List (Field String Json)) (distinct : (fields.map Field.key).Nodup)
    (keepsOthers : Bool := true) : Model := ⟨fields, distinct, keepsOthers⟩

def instanceSource : Model :=
  model [defaulting "type" text (.str "image") (text_str _), nullable "alias" text,
    nullable "fingerprint" text, nullable "server" text, nullable "protocol" text] (by decide)

theorem instanceSource_plain : instanceSource.Plain := by
  simp [Schema.Plain, instanceSource, model]

def describing : Field String Json := defaulting "description" text (.str "") (text_str _)

def configuring : Field String Json := defaulting "config" textMap (.obj []) textMap_nil

def architectures : List String := ["x86_64", "aarch64", "ppc64le", "s390x", "riscv64"]

variable [Platform] [Coercion]

omit [Platform] in
theorem flag_bool (b : Bool) : flag.read (.bool b) = .ok (.bool b) := by
  simp only [flag, Coercion.laxBool_bool]

omit [Coercion] in
theorem wholeFrom_int {low n : Int} (enough : low ≤ n) :
    (wholeFrom low).read (.int n) = .ok (.int n) := by
  rw [wholeFrom, such_eq_ok_iff]
  simp only [whole, Platform.laxInt_int]
  exact ⟨trivial, decide_eq_true enough⟩

def instanceCreate : Model :=
  model [required "name" name, defaulting "architecture" (literal architectures) (.str "x86_64")
      (literal_str (by decide)),
    defaulting "profiles" texts (.arr [.str "default"]) (texts_one _),
    defaulting "ephemeral" flag (.bool false) (flag_bool _),
    defaulting "instance_type" (literal ["container", "virtual-machine"]) (.str "container")
      (literal_str (by decide)),
    required "source" (.within instanceSource instanceSource_plain),
    configuring, defaulting "devices" dictMap (.obj []) dictMap_nil]
    (by simp [required, defaulting, configuring])

def instanceUpdate : Model :=
  model [nullable "architecture" (literal architectures), nullable "profiles" texts,
    nullable "ephemeral" flag, nullable "config" textMap, nullable "devices" dictMap,
    nullable "description" text] (by simp [nullable])

def instancePatch : Model :=
  model [nullable "config" textMap, nullable "devices" dictMap, nullable "description" text,
    nullable "profiles" texts] (by simp [nullable])

/-- The one model of a handler's body, with that of an alias, that drops undeclared fields. -/
def instanceStateAction : Model :=
  model [required "action" (literal ["start", "stop", "restart", "freeze", "unfreeze"]),
    defaulting "force" flag (.bool false) (flag_bool _),
    defaulting "stateful" flag (.bool false) (flag_bool _),
    defaulting "timeout" (wholeFrom 0) (.int 30) (wholeFrom_int (by decide))]
    (by simp [required, defaulting]) false

def execRequest : Model :=
  model [required "command" (texts.such fun
      | .arr items => 1 ≤ items.length
      | _ => false),
    defaulting "environment" textMap (.obj [("TERM", .str "xterm-256color")])
      (textMap_one _ _),
    defaulting "interactive" flag (.bool true) (flag_bool _),
    defaulting "width" (wholeFrom 1) (.int 80) (wholeFrom_int (by decide)),
    defaulting "height" (wholeFrom 1) (.int 24) (wholeFrom_int (by decide)),
    defaulting "user" (wholeFrom 0) (.int 0) (wholeFrom_int (by decide)),
    defaulting "group" (wholeFrom 0) (.int 0) (wholeFrom_int (by decide)),
    defaulting "cwd" text (.str "/") (text_str _)] (by simp [required, defaulting])

def snapshotCreate : Model :=
  model [required "name" name, defaulting "stateful" flag (.bool false) (flag_bool _),
    nullable "expires_at" text] (by simp [required, defaulting, nullable])

def backupCreate : Model :=
  model [required "name" name, nullable "expires_at" text,
    defaulting "instance_only" flag (.bool false) (flag_bool _),
    defaulting "container_only" flag (.bool false) (flag_bool _),
    defaulting "optimized_storage" flag (.bool false) (flag_bool _),
    nullable "compression_algorithm" text] (by simp [required, defaulting, nullable])

def storagePoolCreate : Model :=
  model [required "name" name, required "driver" text, describing, configuring] (by decide)

def descriptionAndConfig : Model :=
  model [nullable "description" text, nullable "config" textMap] (by decide)

def storagePoolUpdate : Model := descriptionAndConfig

def storagePoolPatch : Model := descriptionAndConfig

/-- The one field with a default of its own that takes a null. -/
def contentType : Field String Json :=
  defaulting "content_type" text.orNull (.str "filesystem") (text_orNull_str _)

/-- `volume_type` stands under its alias `type`. -/
def storageVolumeCreate : Model :=
  model [required "name" name, defaulting "type" text (.str "custom") (text_str _),
    contentType, describing, configuring, nullable "source" dict] (by decide)

def storageVolumeUpdate : Model := descriptionAndConfig

def networkCreate : Model :=
  model [required "name" name, describing, defaulting "type" text (.str "bridge") (text_str _),
    configuring] (by decide)

def networkUpdate : Model := descriptionAndConfig

def networkPatch : Model := descriptionAndConfig

def projectCreate : Model :=
  model [required "name" name, describing, configuring] (by decide)

def projectUpdate : Model := descriptionAndConfig

def projectPatch : Model := descriptionAndConfig

def imageCreate : Model :=
  model [nullable "source" dict, nullable "filename" text,
    defaulting "public" flag (.bool false) (flag_bool _),
    defaulting "auto_update" flag (.bool false) (flag_bool _),
    defaulting "properties" textMap (.obj []) textMap_nil] (by simp [defaulting, nullable])

def imageAliasCreate : Model :=
  model [required "name" someText, describing,
    required "target" text] (by decide) false

end Models

end LxdApi

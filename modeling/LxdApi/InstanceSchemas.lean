import LxdApi.Json

set_option autoImplicit false

/- `schemas/instances.py`: the payload that creates an instance, and what its model
   dumps. Fields that the model does not declare are kept and dumped after the others. -/
namespace LxdApi
open OrderedMap Json

inductive InstanceType where
  | container
  | virtualMachine
  deriving DecidableEq, Repr

def InstanceType.value : InstanceType → String
  | .container => "container"
  | .virtualMachine => "virtual-machine"

def InstanceType.ofValue (text : String) : Option InstanceType :=
  if text = "container" then some .container
  else if text = "virtual-machine" then some .virtualMachine
  else none

inductive InstanceArchitecture where
  | x86_64
  | aarch64
  | ppc64le
  | s390x
  | riscv64
  deriving DecidableEq, Repr

def InstanceArchitecture.value : InstanceArchitecture → String
  | .x86_64 => "x86_64"
  | .aarch64 => "aarch64"
  | .ppc64le => "ppc64le"
  | .s390x => "s390x"
  | .riscv64 => "riscv64"

/-- `exclude_none=True`: an entry without a value is left out. -/
def withoutNone (fields : Dict) : Dict :=
  fields.filter fun entry => match entry.2 with
    | .null => false
    | _ => true

def optional (value : Option String) : Json := (value.map Json.str).getD .null

structure InstanceSource where
  type : String := "image"
  imageAlias : Option String := none
  fingerprint : Option String := none
  server : Option String := none
  protocol : Option String := none
  extra : Dict := []

def InstanceSource.modelDump (source : InstanceSource) : Dict :=
  withoutNone ([("type", .str source.type), ("alias", optional source.imageAlias),
    ("fingerprint", optional source.fingerprint), ("server", optional source.server),
    ("protocol", optional source.protocol)] ++ source.extra)

/-- A character of `[a-zA-Z0-9-_]`. -/
def instanceNameChar (c : Char) : Bool :=
  ('a' ≤ c ∧ c ≤ 'z') ∨ ('A' ≤ c ∧ c ≤ 'Z') ∨ ('0' ≤ c ∧ c ≤ '9') ∨ c = '-' ∨ c = '_'

def instanceFields : List String :=
  ["name", "architecture", "profiles", "ephemeral", "instance_type", "source", "config", "devices"]

/-- The payload as validation leaves it: only an accepted one can be built. -/
structure InstanceCreate where
  name : String
  architecture : InstanceArchitecture := .x86_64
  profiles : List String := ["default"]
  ephemeral : Bool := false
  instanceType : InstanceType := .container
  source : InstanceSource
  config : List (String × String) := []
  devices : List (String × Dict) := []
  extra : Dict := []
  nameLength : 1 ≤ name.length ∧ name.length ≤ 63
  namePattern : ∀ c ∈ name.toList, instanceNameChar c = true
  undeclared : ∀ entry ∈ extra, entry.1 ∉ instanceFields

/-- `model_dump(exclude_none=True, by_alias=True)`; no field has an alias. -/
def InstanceCreate.modelDump (payload : InstanceCreate) : Dict :=
  [("name", .str payload.name), ("architecture", .str payload.architecture.value),
    ("profiles", .arr (payload.profiles.map Json.str)), ("ephemeral", .bool payload.ephemeral),
    ("instance_type", .str payload.instanceType.value), ("source", .obj payload.source.modelDump),
    ("config", .obj (payload.config.map fun entry => (entry.1, .str entry.2))),
    ("devices", .obj (payload.devices.map fun entry => (entry.1, .obj entry.2)))] ++
  withoutNone payload.extra

theorem modelDump_name (payload : InstanceCreate) :
    get? payload.modelDump "name" = some (.str payload.name) := by
  simp [InstanceCreate.modelDump]

theorem modelDump_undeclared (payload : InstanceCreate) {key : String}
    (undeclared : key ∉ instanceFields) :
    get? payload.modelDump key = get? (withoutNone payload.extra) key := by
  simp only [instanceFields, List.mem_cons, List.not_mem_nil, or_false, not_or] at undeclared
  obtain ⟨name, architecture, profiles, ephemeral, kind, source, config, devices⟩ := undeclared
  simp [InstanceCreate.modelDump, Ne.symm name, Ne.symm architecture, Ne.symm profiles,
    Ne.symm ephemeral, Ne.symm kind, Ne.symm source, Ne.symm config, Ne.symm devices]

end LxdApi

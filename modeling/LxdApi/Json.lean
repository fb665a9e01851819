import LxdApi.Library.OrderedMap
import LxdApi.Library.UriReference
import Mathlib.Data.Rat.Defs

set_option autoImplicit false

/- JSON documents as the interpreter holds them: `null` is Python's `None`, an
   object is a dict. A float is carried by its `repr`. -/
namespace LxdApi

inductive Json where
  | null
  | bool (b : Bool)
  | int (n : Int)
  | float (text : String)
  | str (s : String)
  | arr (items : List Json)
  | obj (fields : List (String × Json))

abbrev Dict := List (String × Json)

/-- What the interpreter and the packages outside the repository decide:
    pydantic's lax reading of an integer field, which characters `repr` prints
    as they are, and the text of a float. -/
class Platform where
  laxInt : Json → Option Int
  laxInt_int : ∀ n, laxInt (.int n) = some n
  isPrintable : Char → Bool
  floatStr : Rat → String

/-- A platform that reads only integers as integers and prints only ASCII as it is. -/
@[reducible] def plainPlatform : Platform where
  laxInt
    | .int n => some n
    | _ => none
  laxInt_int _ := rfl
  isPrintable c := 32 ≤ c.toNat ∧ c.toNat < 127
  floatStr q := toString q

namespace Json

def truthy : Json → Bool
  | .null => false
  | .bool b => b
  | .int n => n ≠ 0
  | .float text => text ≠ "0.0" ∧ text ≠ "-0.0"
  | .str s => s ≠ ""
  | .arr items => !items.isEmpty
  | .obj fields => !fields.isEmpty

/-- `dict.get(key)`, `None` when the key is absent. -/
def get (fields : Dict) (key : String) : Json := (OrderedMap.get? fields key).getD .null

def isDict : Json → Bool
  | .obj _ => true
  | _ => false

def hexText (width n : Nat) : String :=
  String.ofList ((List.range width).reverse.map fun i =>
    (UriReference.hexDigit (n / 16 ^ i % 16)).toLower)

def escapeChar [Platform] (quoteMark c : Char) : String :=
  if c = quoteMark ∨ c = '\\' then String.ofList ['\\', c]
  else if c = '\n' then "\\n"
  else if c = '\r' then "\\r"
  else if c = '\t' then "\\t"
  else if Platform.isPrintable c then String.ofList [c]
  else if c.toNat < 0x100 then "\\x" ++ hexText 2 c.toNat
  else if c.toNat < 0x10000 then "\\u" ++ hexText 4 c.toNat
  else "\\U" ++ hexText 8 c.toNat

def reprStr [Platform] (s : String) : String :=
  let quoteMark := if '\'' ∈ s.toList ∧ '"' ∉ s.toList then '"' else '\''
  String.ofList [quoteMark] ++ String.join (s.toList.map (escapeChar quoteMark)) ++
    String.ofList [quoteMark]

def dumpsChar (c : Char) : String :=
  let n := c.toNat
  if c = '"' ∨ c = '\\' then String.ofList ['\\', c]
  else if c = '\n' then "\\n"
  else if c = '\r' then "\\r"
  else if c = '\t' then "\\t"
  else if n = 8 then "\\b"
  else if n = 12 then "\\f"
  else if 32 ≤ n ∧ n ≤ 126 then String.ofList [c]
  else if n < 0x10000 then "\\u" ++ hexText 4 n
  else "\\u" ++ hexText 4 (0xd800 + (n - 0x10000) / 0x400) ++
    "\\u" ++ hexText 4 (0xdc00 + (n - 0x10000) % 0x400)

/-- `json.dumps` of a text. -/
def dumpsStr (s : String) : String :=
  "\"" ++ String.join (s.toList.map dumpsChar) ++ "\""

mutual
def repr [Platform] : Json → String
  | .null => "None"
  | .bool b => if b then "True" else "False"
  | .int n => toString n
  | .float text => text
  | .str s => reprStr s
  | .arr items => "[" ++ ", ".intercalate (reprItems items) ++ "]"
  | .obj fields => "\x7b" ++ ", ".intercalate (reprFields fields) ++ "\x7d"
def reprItems [Platform] : List Json → List String
  | [] => []
  | item :: rest => item.repr :: reprItems rest
def reprFields [Platform] : List (String × Json) → List String
  | [] => []
  | (key, value) :: rest => (reprStr key ++ ": " ++ value.repr) :: reprFields rest
end

/-- `str(value)`, also what an f-string writes for it. -/
def pyStr [Platform] : Json → String
  | .str s => s
  | other => other.repr

@[simp] theorem pyStr_str [Platform] (s : String) : pyStr (.str s) = s := rfl
@[simp] theorem truthy_str (s : String) : truthy (.str s) = true ↔ s ≠ "" := by simp [truthy]
@[simp] theorem truthy_null : truthy .null = false := rfl

theorem get_of_some {fields : Dict} {key : String} {value : Json}
    (found : OrderedMap.get? fields key = some value) : get fields key = value := by
  simp [get, found]

end Json
end LxdApi

import MultiDispatch.Decimal.Shortest
import MultiDispatch.Text.Quoted
import MultiDispatch.Toml.Document
import MultiDispatch.Toml.Library

/-! A library to run programs with. Its grammar, and the words in which it refuses a value, are its
own: nothing is relied on beyond what every library is documented to do. -/
namespace MultiDispatch

/-- What is wrong with the value of a known key. -/
inductive ShapeError where
  | notBoolean (found : Toml.Value)
  /-- A variant is neither text nor a table. -/
  | noVariant
  | unknownVariant (name : String) (known : List String)
  /-- A table names the variant by its only key, so an empty one names none. -/
  | noKey
  | severalKeys
  /-- What stands at that key must be empty: a list of tables. -/
  | filledTables
  /-- What stands at that key must be empty: a table or an array. -/
  | filledTable
  | notTable (found : Toml.Value)

inductive LoadError where
  | malformed
  | shape (error : ShapeError)

namespace Toml.Value

/-- A value as the value of a wrong type is described. -/
def describe : Value → String
  | string text => "string " ++ Text.quoted text
  | integer n => s!"integer `{n}`"
  | float x => s!"floating point `{x.render}`"
  | boolean b => s!"boolean `{b}`"
  | array _ | tables _ => "sequence"
  | datetime _ | table _ _ => "map"

/-- Name of the kind of a value. -/
def kind : Value → String
  | string _ => "string"
  | integer _ => "integer"
  | float _ => "float"
  | boolean _ => "boolean"
  | datetime _ => "datetime"
  | array _ => "array"
  | table .. => "table"
  | tables _ => "array of tables"

end Toml.Value

namespace ShapeError

/-- The names that were expected. -/
def choice : List String → String
  | [] => "there are no variants"
  | [name] => s!"expected `{name}`"
  | [first, second] => s!"expected `{first}` or `{second}`"
  | names => "expected one of " ++ ", ".intercalate (names.map fun name => s!"`{name}`")

def message : ShapeError → String
  | notBoolean found => s!"invalid type: {found.describe}, expected a boolean"
  | noVariant => "wanted string or table"
  | unknownVariant name known => s!"unknown variant `{name}`, {choice known}"
  | noKey => "wanted exactly 1 element, found 0 elements"
  | severalKeys => "wanted exactly 1 element, more than 1 element"
  | filledTables => "expected empty array"
  | filledTable => "expected empty table"
  | notTable found => s!"expected table, found {found.kind}"

end ShapeError

namespace Toml

variable {α : Type}

def refuse (error : ShapeError) : Except LoadError α := .error (.shape error)

def decodeBoolean : Value → Except LoadError Bool
  | .boolean b => .ok b
  | found => refuse (.notBoolean found)

def decodeVariant : Value → Except LoadError (String × Option Value)
  | .string name => .ok (name, none)
  | .table _ [] => refuse .noKey
  | .table _ [(name, content)] => .ok (name, some content)
  | .table _ _ => refuse .severalKeys
  | _ => refuse .noVariant

def decodeUnit : Value → Except LoadError Unit
  | .tables items => if items.isEmpty then .ok () else refuse .filledTables
  | .array items => if items.isEmpty then .ok () else refuse .filledTable
  | .table _ entries => if entries.isEmpty then .ok () else refuse .filledTable
  | found => refuse (.notTable found)

/-- The name is looked up before the content is looked at. -/
def decodeEnumeration (variants : List (String × α)) (v : Value) : Except LoadError α := do
  let (name, content) ← decodeVariant v
  match variants.lookup name with
  | none => refuse (.unknownVariant name (variants.map (·.1)))
  | some a =>
    content.forM decodeUnit
    return a

/-- Takes the field that a key names, if it names one. -/
def decodeEntry {ε σ : Type} (fields : List (Field ε σ)) (s : σ) : String × Value → Except ε σ
  | (key, v) =>
    match fields.find? (·.key = key) with
    | some f => return (← f.decode v) s
    | none => return s

def library : Library LoadError where
  parse text := (document? text).elim (.error .malformed) .ok
  boolean := decodeBoolean
  variant := decodeVariant
  unit := decodeUnit
  enumeration := decodeEnumeration
  record fields s root := root.foldlM (decodeEntry fields) s
  under _ error := error

end Toml

end MultiDispatch

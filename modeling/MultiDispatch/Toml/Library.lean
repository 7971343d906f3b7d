import MultiDispatch.Toml.Value

/-! What is asked of a TOML library and of the decoders derived for it. Both are parameters: here
stands how they are called and what they are documented to do, but not how they do it. -/
namespace MultiDispatch.Toml

/-- A field of a record: its key, and what a value under the key makes of the record. -/
structure Field (ε σ : Type) where
  key : String
  decode : Value → Except ε (σ → σ)

/-- A library that reports errors `ε`. -/
structure Library (ε : Type) where
  /-- The root table of a document. -/
  parse : String → Except ε Entries
  boolean : Value → Except ε Bool
  /-- The name of a variant, with its content if it is given some. -/
  variant : Value → Except ε (String × Option Value)
  /-- Takes the content of a variant that carries nothing. -/
  unit : Value → Except ε Unit
  /-- Derived for an enumeration of variants that carry nothing, under their names. -/
  enumeration {α : Type} : List (String × α) → Value → Except ε α
  /-- Derived for a record, from the defaults of its fields. -/
  record {σ : Type} : List (Field ε σ) → σ → Entries → Except ε σ
  /-- An error in the value of a key, as it is reported for the whole table. -/
  under : String → ε → ε

/-- An empty table or array. -/
inductive Value.Vacant : Value → Prop
  | array : Vacant (.array [])
  | tables : Vacant (.tables [])
  | table (form : Form) : Vacant (.table form [])

/-- How a value can name a variant, and give it content. -/
inductive Value.Selects (name : String) : Option Value → Value → Prop
  | text : Selects name none (.string name)
  | key (form : Form) (content : Value) :
      Selects name (some content) (.table form [(name, content)])

/-- What the documentation of the library and of its derived decoders says. -/
structure Library.Documented {ε : Type} (lib : Library ε) : Prop where
  /-- Defining a key twice makes a document invalid. -/
  distinct : ∀ {text : String} {root : Entries}, lib.parse text = .ok root → root.Distinct
  boolean : ∀ {v : Value} {b : Bool}, lib.boolean v = .ok b ↔ v = .boolean b
  /-- A variant is a string, or a table with a single key. -/
  variant : ∀ {v : Value} {name : String} {content : Option Value},
    lib.variant v = .ok (name, content) ↔ v.Selects name content
  unit : ∀ {v : Value}, lib.unit v = .ok () ↔ v.Vacant
  /-- What names no variant at all is refused as such. -/
  enumeration_refused : ∀ {α : Type} (variants : List (String × α)) {v : Value} {e : ε},
    lib.variant v = .error e → lib.enumeration variants v = .error e
  /-- A name that is not among the variants is an error. -/
  enumeration_unknown : ∀ {α : Type} {variants : List (String × α)} {v : Value} {name : String}
    {content : Option Value}, lib.variant v = .ok (name, content) → variants.lookup name = none →
      ∃ e, lib.enumeration variants v = .error e
  enumeration_bare : ∀ {α : Type} {variants : List (String × α)} {v : Value} {name : String}
    {a : α}, lib.variant v = .ok (name, none) → variants.lookup name = some a →
      lib.enumeration variants v = .ok a
  /-- Content is asked to be nothing. -/
  enumeration_content : ∀ {α : Type} {variants : List (String × α)} {v content : Value}
    {name : String} {a : α}, lib.variant v = .ok (name, some content) →
      variants.lookup name = some a →
      lib.enumeration variants v = (lib.unit content).map fun _ => a
  /-- Missing fields keep their defaults. -/
  record_nil : ∀ {σ : Type} (fields : List (Field ε σ)) (s : σ), lib.record fields s [] = .ok s
  /-- Unknown keys are ignored, whatever they are given. -/
  record_unknown : ∀ {σ : Type} {fields : List (Field ε σ)} {key : String},
    key ∉ fields.map (·.key) → ∀ (s : σ) (v : Value) (rest : Entries),
      lib.record fields s ((key, v) :: rest) = lib.record fields s rest
  /-- Entries are decoded in order, up to the first error. -/
  record_field : ∀ {σ : Type} {fields : List (Field ε σ)} {f : Field ε σ},
    (fields.map (·.key)).Nodup → f ∈ fields → ∀ (s : σ) (v : Value) {rest : Entries},
      f.key ∉ rest.map (·.1) → lib.record fields s ((f.key, v) :: rest) = (do
        let put ← (f.decode v).mapError (lib.under f.key)
        lib.record fields (put s) rest)

end MultiDispatch.Toml

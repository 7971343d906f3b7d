import MultiDispatch.Dispatcher
import MultiDispatch.Text.Quoted

/-! Inspection texts, one line for each kind of thing. A text that leaves something out ends its
fields with two dots. -/
namespace MultiDispatch

variable {ε V τ : Type}

namespace Inspect

def list (items : List String) : String := "[" ++ ", ".intercalate items ++ "]"

/-- A name followed by its fields in braces. -/
def record (name : String) (fields : List (String × String)) (complete : Bool) : String :=
  let shown := fields.map fun (field, text) => field ++ ": " ++ text
  let parts := if complete then shown else shown ++ [".."]
  name ++ " \x7b " ++ ", ".intercalate parts ++ " \x7d"

def optional : Option String → String
  | none => "None"
  | some text => "Some(" ++ text ++ ")"

end Inspect

open Inspect

def Typed.inspect [Typed V τ] (v : V) : String := "Value<" ++ pathOf v ++ ">"

def Token.inspect (t : Token) : String :=
  record "TypeToken" [("registry", s!"#{t.registry}"), ("index", toString t.index)] true

def Edge.inspect (e : Edge ε V) : String :=
  record "ConversionEdge" [("from", e.source.inspect), ("to", e.target.inspect)] false

def Overload.inspect (o : Overload ε V) : String :=
  let params := o.params.map fun types => list (types.map Token.inspect)
  record "Overload" [("params", list params)] false

def Definition.inspect (d : Definition ε V) : String :=
  record "FunctionSpec" [("name", optional (d.name?.map Text.quoted)),
    ("overloads", list (d.overloads.map Overload.inspect))] true

def Candidate.inspect (c : Candidate ε V) : String :=
  "Candidate(" ++ Text.quoted c.signature.render ++ ")"

namespace Dispatcher

/-- The candidates and the range of their arities. -/
def inspect (d : Dispatcher ε V) : String :=
  record "Dispatcher" [("name", Text.quoted d.name),
    ("candidates", list (d.candidates.map Candidate.inspect)),
    ("min_arity", toString d.minArity), ("max_arity", toString d.maxArity)] false

/-- The function as its callers see it. -/
def summary (d : Dispatcher ε V) : String :=
  record "OverloadedFn" [("name", Text.quoted d.name), ("arity", toString d.maxArity),
    ("candidates", toString d.candidates.length)] true

end Dispatcher

end MultiDispatch

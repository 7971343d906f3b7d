import MultiDispatch.ArityIndex
import MultiDispatch.Overload
import MultiDispatch.Signature

/-! Functions made ready for calls. A call goes to the first candidate, in the order of the
overloads, that accepts its arguments; there is no other precedence. The winner's method runs on the
converted arguments. All mistakes of wiring are found when the function is built. -/
namespace MultiDispatch

variable {ε V τ : Type}

structure Candidate (ε V : Type) where
  signature : Signature ε V
  method : Method ε V

namespace Candidate

def compile [Typed V τ] [DecidableEq τ] (r : Registry ε V τ) (o : Overload ε V) :
    Except ConfigError (Candidate ε V) :=
  return { signature := ← Signature.compile r o.params, method := o.method }

def arity (c : Candidate ε V) : Nat := c.signature.arity

def accepts (c : Candidate ε V) (args : List V) : Traced ε Bool := c.signature.accepts args

def convertArgs (c : Candidate ε V) (args : List V) : Traced ε (List V) :=
  c.signature.convertArgs args

end Candidate

/-- A type that some slot accepts, kept to describe the arguments of failed calls. -/
structure KnownType (ε V : Type) where
  token : Token
  name : String
  guard : Combined ε V

def KnownType.ofToken [Typed V τ] [DecidableEq τ] (r : Registry ε V τ) (t : Token) :
    Except ConfigError (KnownType ε V) :=
  return { token := t, name := r.name t, guard := ← r.resolve t }

structure Dispatcher (ε V : Type) where
  name : String
  /-- In the order of the overloads. -/
  candidates : List (Candidate ε V)
  /-- Positions of candidates by arity. -/
  index : ArityIndex
  /-- In the order of their first occurrence. -/
  known : List (KnownType ε V)

namespace Dispatcher

/-- Finds a function without overloads first, then more than one without parameters, then, in order,
the first type that no guard recognises. -/
def build [Typed V τ] [DecidableEq τ] (r : Registry ε V τ) (d : Definition ε V) :
    Except ConfigError (Dispatcher ε V) :=
  if d.overloads.isEmpty then .error (.noSignatures d.name)
  else if 1 < d.nullary then .error (.ambiguousNullary d.name d.nullary)
  else do
    let candidates ← d.overloads.mapM (Candidate.compile r)
    let tokens := (candidates.flatMap (·.signature.accepted)).eraseDups
    let known ← tokens.mapM (KnownType.ofToken r)
    return { name := d.name, candidates, index := .ofArities (candidates.map (·.arity)), known }

def minArity (d : Dispatcher ε V) : Nat := (d.candidates.map (·.arity)).min?.getD 0

def maxArity (d : Dispatcher ε V) : Nat := (d.candidates.map (·.arity)).max?.getD 0

/-- The candidates of one arity, each with its position. -/
def ofArity (d : Dispatcher ε V) (arity : Nat) : List (Nat × Candidate ε V) :=
  (d.index.lookup arity).filterMap fun i => d.candidates[i]?.map (i, ·)

/-- The name of the first known type that accepts the value, else the path of its run-time type. -/
def describe [Typed V τ] (d : Dispatcher ε V) (v : V) : Traced ε String := do
  match ← d.known.findM? (·.guard.test v) with
  | some k => return k.name
  | none => return Typed.pathOf v

def noMatch [Typed V τ] (d : Dispatcher ε V) (args : List V) : Traced ε NoMatch := do
  return {
    function := d.name
    argTypes := ← args.mapM d.describe
    candidates := d.candidates.map fun c => d.name ++ c.signature.render }

/-- The first candidate that accepts the arguments, with its position. Only those of the arguments'
arity are asked. -/
def select [Typed V τ] (d : Dispatcher ε V) (args : List V) :
    Traced ε (Except NoMatch (Nat × Candidate ε V)) := do
  match ← (d.ofArity args.length).findM? (·.2.accepts args) with
  | some winner => return .ok winner
  | none => return .error (← d.noMatch args)

/-- Selects, converts and runs. The receiver is for the method alone. -/
def call [Typed V τ] (d : Dispatcher ε V) (receiver : Option V) (args : List V) :
    Traced ε (Except NoMatch V) := do
  match ← d.select args with
  | .error e => return .error e
  | .ok (_, c) => return .ok (← c.method receiver (← c.convertArgs args))

end Dispatcher

end MultiDispatch

import MultiDispatch.Token
import MultiDispatch.Traced

/-! Overloaded functions as their authors define them: parameter lists over tokens, each with the
method that implements it. -/
namespace MultiDispatch

variable {ε V : Type}

/-- Takes the receiver of the call, if it has one, and the converted arguments. -/
abbrev Method (ε V : Type) := Option V → List V → Traced ε V

structure Overload (ε V : Type) where
  /-- For each parameter the types it declares. -/
  params : List (List Token)
  method : Method ε V

def Overload.arity (o : Overload ε V) : Nat := o.params.length

/-- Overloads in the order in which they are tried. -/
structure Definition (ε V : Type) where
  name? : Option String := none
  overloads : List (Overload ε V) := []

/-- The name of a function that was given none. -/
def anonymous : String := "<anonymous>"

def Definition.name (d : Definition ε V) : String := d.name?.getD anonymous

/-- How many overloads take no argument. -/
def Definition.nullary (d : Definition ε V) : Nat := d.overloads.countP (·.arity = 0)

end MultiDispatch

import MultiDispatch.Overload

/-! Overloads that are declared one at a time under implementation names. Names are tried in the
order of their first appearance, and under one name the most recent declaration comes first. -/
namespace MultiDispatch

variable {ε V : Type}

structure Declarations (ε V : Type) where
  /-- The function's own name, if it is not that of its first implementation. -/
  name? : Option String := none
  /-- Each name once, with its overloads in the order of declaration. -/
  groups : List (String × List (Overload ε V)) := []

namespace Declarations

/-- Puts an overload into the group of its name, which is the last group if the name is new. -/
def insert (name : String) (o : Overload ε V) :
    List (String × List (Overload ε V)) → List (String × List (Overload ε V))
  | [] => [(name, [o])]
  | (n, os) :: groups =>
    if n = name then (n, os ++ [o]) :: groups else (n, os) :: insert name o groups

def declare (d : Declarations ε V) (name : String) (o : Overload ε V) : Declarations ε V :=
  { d with groups := insert name o d.groups }

def names (d : Declarations ε V) : List String := d.groups.map (·.1)

/-- How many overloads were declared. -/
def size (d : Declarations ε V) : Nat := (d.groups.flatMap (·.2)).length

/-- The overloads in the order in which they are tried. -/
def toDefinition (d : Declarations ε V) : Definition ε V where
  name? := d.name?.or d.names.head?
  overloads := d.groups.flatMap (·.2.reverse)

end Declarations

end MultiDispatch

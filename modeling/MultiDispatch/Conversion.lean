import MultiDispatch.Token
import MultiDispatch.Traced

/-! Conversions between the types of a registry. An edge says that a value of its source may stand
where its target is wanted, once its converter has run. -/
namespace MultiDispatch

variable {ε V : Type}

abbrev Conversion (ε V : Type) := V → Traced ε V

/-- A conversion with the number by which its host knows it. -/
structure Converter (ε V : Type) where
  serial : Nat
  apply : Conversion ε V

structure Edge (ε V : Type) where
  source : Token
  target : Token
  converter : Converter ε V

/-- The edge's own conversion, followed by the one that leads on from its target, if any. -/
def Edge.through (e : Edge ε V) : Option (Conversion ε V) → Conversion ε V
  | none => e.converter.apply
  | some onward => fun v => e.converter.apply v >>= onward

end MultiDispatch

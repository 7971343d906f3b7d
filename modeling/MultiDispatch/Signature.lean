import MultiDispatch.Slot

/-! A signature is a list of slots. It accepts argument lists of exactly its length. -/
namespace MultiDispatch

variable {ε V τ : Type}

/-- Converts arguments slot by slot. Those beyond the last slot stay as they are. -/
def Slot.convertAll : List (Slot ε V) → List V → Traced ε (List V)
  | s :: slots, v :: args => do
    let v ← s.convert v
    return v :: (← convertAll slots args)
  | _, args => pure args

structure Signature (ε V : Type) where
  slots : List (Slot ε V)

namespace Signature

/-- Slots are compiled from left to right. -/
def compile [Typed V τ] [DecidableEq τ] (r : Registry ε V τ) (params : List (List Token)) :
    Except ConfigError (Signature ε V) :=
  return ⟨← params.mapM (Slot.compile r)⟩

def arity (s : Signature ε V) : Nat := s.slots.length

def accepts (s : Signature ε V) (args : List V) : Traced ε Bool :=
  tuple (s.slots.map (·.guard.test)) args

/-- The labels of the slots, such as `(number, Pair)`. -/
def render (s : Signature ε V) : String :=
  "(" ++ ", ".intercalate (s.slots.map (·.label)) ++ ")"

/-- The types that some slot accepts, in slot order, repetitions included. -/
def accepted (s : Signature ε V) : List Token := s.slots.flatMap (·.accepted)

def convertArgs (s : Signature ε V) (args : List V) : Traced ε (List V) :=
  Slot.convertAll s.slots args

end Signature

end MultiDispatch

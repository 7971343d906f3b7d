import MultiDispatch.Widening

/-! A slot is a parameter made ready for calls: the accepted types with the guards that recognise
them, and the conversions of those that were not declared. A slot keeps all it needs, so later
changes of the registry do not reach it. -/
namespace MultiDispatch

variable {ε V τ : Type}

structure Member (ε V : Type) where
  token : Token
  guard : Combined ε V
  /-- None for declared types. -/
  convert? : Option (Conversion ε V)

structure Slot (ε V : Type) where
  /-- Names of the declared types, such as `number | Pair`. -/
  label : String
  /-- Whether more types are accepted than declared. -/
  widened : Bool
  /-- Declared types first. -/
  members : List (Member ε V)

/-- Freezes the guard of an accepted type. -/
def Member.ofAccepted [Typed V τ] [DecidableEq τ] (r : Registry ε V τ) (a : Accepted ε V) :
    Except ConfigError (Member ε V) :=
  return { token := a.token, guard := ← r.resolve a.token, convert? := a.convert? }

/-- Fails on the first accepted type, in slot order, that no guard recognises. -/
def Slot.compile [Typed V τ] [DecidableEq τ] (r : Registry ε V τ) (declared : List Token) :
    Except ConfigError (Slot ε V) := do
  let declaredCount := declared.eraseDups.length
  let members ← (r.accepted declared).mapM (Member.ofAccepted r)
  return {
    label := " | ".intercalate ((members.take declaredCount).map (r.name ·.token))
    widened := declaredCount < members.length
    members }

namespace Slot

def accepted (s : Slot ε V) : List Token := s.members.map (·.token)

/-- Accepts what some accepted type's guard accepts. -/
def guard (s : Slot ε V) : Combined ε V := .union (s.members.map (·.guard))

/-- The conversion of the first accepted type that takes the value. A slot that is not widened runs
no guard to know that it has none. -/
def conversionFor? (s : Slot ε V) (v : V) : Traced ε (Option (Conversion ε V)) :=
  if s.widened then do
    let first ← s.members.findM? (·.guard.test v)
    return first.bind (·.convert?)
  else pure none

/-- The value as the slot's declared types want it. -/
def convert (s : Slot ε V) (v : V) : Traced ε V := do
  match ← s.conversionFor? v with
  | some conversion => conversion v
  | none => pure v

end Slot

end MultiDispatch

/-! Why a function does not compile, and why a call finds no candidate. -/
namespace MultiDispatch

/-- Mistakes in the wiring of a registry or a function, found before any call. -/
inductive ConfigError where
  | noSignatures (name : String)
  | unknownType (name : String)
  | ambiguousNullary (name : String) (count : Nat)
deriving DecidableEq

def ConfigError.message : ConfigError → String
  | noSignatures name => s!"function `{name}` has no signatures"
  | unknownType name => s!"unknown type `{name}`: no guards registered"
  | ambiguousNullary name count =>
    s!"function `{name}` declares {count} nullary overloads; at most one is allowed"

/-- Failure of one call: what the arguments were taken for, and the candidates that were open. -/
structure NoMatch where
  function : String
  argTypes : List String
  candidates : List String
deriving DecidableEq

def NoMatch.message (e : NoMatch) : String :=
  let argTypes := ", ".intercalate e.argTypes
  let candidates := ", ".intercalate e.candidates
  s!"no overload of `{e.function}` accepts ({argTypes}); candidates: {candidates}"

end MultiDispatch

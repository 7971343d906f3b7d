/-! What the dispatcher asks of run-time values: each has a type, and each type has a path such as
`geometry::Pair`, which serves diagnostics and nothing else. -/
namespace MultiDispatch

/-- Values `V` that carry a run-time type `τ`. -/
class Typed (V : Type) (τ : outParam Type) where
  typeOf : V → τ
  path : τ → String

/-- Path of the type of a value. -/
def Typed.pathOf {V τ : Type} [Typed V τ] (v : V) : String := path V (typeOf v)

/-- Last component of a type path. A path with type arguments stays whole. -/
def shortName (path : String) : String :=
  if path.contains '<' then path else (path.splitOn "::").getLastD path

end MultiDispatch

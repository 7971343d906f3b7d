/-! Tokens name the types of a registry. A token is the registry that allocated it and its position
there; nothing else decides whether two tokens are equal. -/
namespace MultiDispatch

/-- Both numbers come from counters that never wrap around. Counters of 32 bits give the same tokens
as long as fewer than 2 ^ 32 registries are created, and fewer than 2 ^ 32 tokens in each. -/
structure Token where
  /-- Stamp of the allocating registry. -/
  registry : Nat
  /-- Position among that registry's tokens. -/
  index : Nat
deriving DecidableEq

namespace Token

/-- Tokens are ordered by registry, then by position. -/
instance : Ord Token where
  compare a b := (compare a.registry b.registry).then (compare a.index b.index)

theorem compare_eq (a b : Token) :
    compare a b = (compare a.registry b.registry).then (compare a.index b.index) := rfl

end Token

end MultiDispatch

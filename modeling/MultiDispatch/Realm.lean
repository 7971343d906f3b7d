import MultiDispatch.Registry.Operation

/-! A realm is the sequence of registries created so far. Each is stamped with its position, which
keeps the tokens of any two registries apart. -/
namespace MultiDispatch

variable {ε V τ : Type}

structure Realm (ε V τ : Type) where
  registries : List (Registry ε V τ) := []

namespace Realm

/-- Adds an empty registry; answers its stamp, the number of registries before it. A counter of 32
bits gives the same stamp to each of the first 2 ^ 32. -/
def create (settings : Settings) (realm : Realm ε V τ) : Nat × Realm ε V τ :=
  let stamp := realm.registries.length
  (stamp, ⟨realm.registries ++ [.empty stamp settings]⟩)

def registry? (realm : Realm ε V τ) (stamp : Nat) : Option (Registry ε V τ) :=
  realm.registries[stamp]?

/-- Performs an operation on one registry, if it exists. -/
def perform [Typed V τ] [DecidableEq τ] (realm : Realm ε V τ) (stamp : Nat)
    (op : Operation ε V τ) : Option (Outcome × Realm ε V τ) := do
  let (outcome, r) := op.perform (← realm.registry? stamp)
  return (outcome, ⟨realm.registries.set stamp r⟩)

end Realm

/-- Something done to a realm: a new registry, or an operation on one of those there are. -/
inductive Act (ε V τ : Type) where
  | create (settings : Settings)
  | perform (stamp : Nat) (op : Operation ε V τ)

namespace Realm

/-- An operation on a registry that does not exist changes nothing. -/
def act [Typed V τ] [DecidableEq τ] (realm : Realm ε V τ) : Act ε V τ → Realm ε V τ
  | .create settings => (realm.create settings).2
  | .perform stamp op => ((realm.perform stamp op).map (·.2)).getD realm

/-- The realm that the act at a position of a run finds. A run starts without any registry. -/
def before [Typed V τ] [DecidableEq τ] (acts : List (Act ε V τ)) (position : Nat) : Realm ε V τ :=
  (acts.take position).foldl act {}

end Realm

end MultiDispatch

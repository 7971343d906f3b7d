import MultiDispatch.Registry.Edit

/-! Registry operations as data, and the states that runs of them lead to. -/
namespace MultiDispatch

variable {ε V τ : Type}

inductive Operation (ε V τ : Type) where
  | declare (name : String)
  | nominal (type : τ)
  | registerGuard (token : Token) (guard : Guard ε V)
  | registerConversion (edge : Edge ε V)
  | add (batch : Batch ε V)
  | addAll (batches : List (Batch ε V))
  | autoRegister (token : Token)

/-- What an operation answers. -/
inductive Outcome where
  | token (token : Token)
  | done
  | seeded (changed : Bool)
  | refused (error : ConfigError)
deriving DecidableEq

/-- Runs an edit. A refused one may still have changed the registry. -/
def Edit.perform {α : Type} (edit : Edit ε V τ α) (answer : α → Outcome) (r : Registry ε V τ) :
    Outcome × Registry ε V τ :=
  match edit.run r with
  | .ok a r => (answer a, r)
  | .error e r => (.refused e, r)

def Operation.perform [Typed V τ] [DecidableEq τ] (r : Registry ε V τ) :
    Operation ε V τ → Outcome × Registry ε V τ
  | declare name => (r.declare name).map .token id
  | nominal type => (r.nominal type).map .token id
  | registerGuard t g => (Edit.registerGuard t g).perform (fun _ => .done) r
  | registerConversion edge => (Edit.registerConversion edge).perform (fun _ => .done) r
  | add batch => (Edit.add batch).perform (fun _ => .done) r
  | addAll batches => (Edit.addAll batches).perform (fun _ => .done) r
  | autoRegister t => (Edit.autoRegister t).perform .seeded r

namespace Registry

def empty (stamp : Nat) (settings : Settings) : Registry ε V τ := { stamp, settings }

/-- The registry after a run of operations, each refused one included. -/
def after [Typed V τ] [DecidableEq τ] (r : Registry ε V τ) (ops : List (Operation ε V τ)) :
    Registry ε V τ :=
  ops.foldl (fun r op => (op.perform r).2) r

theorem after_append [Typed V τ] [DecidableEq τ] (r : Registry ε V τ)
    (ops later : List (Operation ε V τ)) : r.after (ops ++ later) = (r.after ops).after later :=
  List.foldl_append

/-- Some run of operations leads from an empty registry to this one. -/
def Reachable [Typed V τ] [DecidableEq τ] (r : Registry ε V τ) : Prop :=
  ∃ ops : List (Operation ε V τ), r = (empty r.stamp r.settings).after ops

end Registry

end MultiDispatch

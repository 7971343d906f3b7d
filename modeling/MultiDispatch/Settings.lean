/-! Settings of a registry, and their written form. -/
namespace MultiDispatch

/-- How far conversion edges are followed when a parameter is widened. -/
inductive Reach where
  /-- Only edges that end at a declared type. -/
  | singleHop
  /-- Chains of edges of any length. -/
  | transitive
deriving DecidableEq

namespace Reach

def name : Reach → String
  | singleHop => "single-hop"
  | transitive => "transitive"

/-- Both, under their names. -/
def variants : List (String × Reach) :=
  [(singleHop.name, singleHop), (transitive.name, transitive)]

def ofName? (name : String) : Option Reach := variants.lookup name

theorem ofName?_eq_some {name : String} {reach : Reach} :
    ofName? name = some reach ↔ name = reach.name := by
  constructor
  · intro found
    obtain ⟨before, after, split, _⟩ := List.lookup_eq_some_iff.1 found
    have member : (name, reach) ∈ variants := split ▸ List.mem_append_right _ List.mem_cons_self
    simp only [variants, List.mem_cons, Prod.mk.injEq, List.not_mem_nil, or_false] at member
    rcases member with ⟨rfl, rfl⟩ | ⟨rfl, rfl⟩ <;> rfl
  · rintro rfl
    cases reach <;> rfl

end Reach

structure Settings where
  /-- Whether a nominal type without guards is recognised by its run-time type. -/
  autoRegister : Bool := false
  reach : Reach := .singleHop
deriving DecidableEq

/-- One `key = value` line for each setting. -/
def Settings.render (s : Settings) : String :=
  s!"auto-register = {s.autoRegister}\nconversion-reach = \"{s.reach.name}\"\n"

end MultiDispatch

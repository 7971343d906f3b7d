import MultiDispatch.Proofs.Wiring
import MultiDispatch.Proofs.Widening.Shortest

/-! Which edges widening looks at. A single hop looks at the edges into the declared types, chains of
any length look at the edges into all accepted types. Registries that agree on these edges widen the
declared types alike: in the same order and with the same conversions. -/
namespace MultiDispatch.Registry

variable {ε V τ : Type} {r s : Registry ε V τ} {declared : List Token}

/-- The types whose edges decide what the declared types are widened to. -/
def frontier (r : Registry ε V τ) (declared : List Token) : List Token :=
  match r.settings.reach with
  | .singleHop => declared
  | .transitive => r.acceptedTokens declared

theorem round_congr {found : List (Accepted ε V)}
    (same : ∀ a ∈ found, s.edgesInto a.token = r.edgesInto a.token) :
    s.round found = r.round found := by
  have offered : found.flatMap s.offers = found.flatMap r.offers :=
    List.flatMap_congr fun a member => by rw [offers, offers, same a member]
  rw [round, round, gained, gained, offered]

theorem rounds_congr (transitive : r.settings.reach = .transitive)
    (same : ∀ t ∈ r.acceptedTokens declared, s.edgesInto t = r.edgesInto t) (n : Nat) :
    s.rounds (Accepted.declared declared) n = r.rounds (Accepted.declared declared) n := by
  induction n with
  | zero => rfl
  | succ n ih =>
    have within := rounds_prefix_widening transitive declared n
    rw [rounds, ih, rounds]
    refine round_congr fun a member => same a.token ?_
    rw [acceptedTokens_eq]
    exact List.mem_map_of_mem (within.subset member)

theorem widening_congr (reach : s.settings.reach = r.settings.reach)
    (same : ∀ t ∈ r.frontier declared, s.edgesInto t = r.edgesInto t) :
    s.widening declared = r.widening declared := by
  unfold frontier at same
  cases reached : r.settings.reach with
  | singleHop =>
    rw [reached] at same
    rw [widening, widening, reach, reached]
    exact round_congr fun a member => same a.token (Accepted.mem_declared.1 member).1
  | transitive =>
    rw [reached] at same
    rw [widening_eq_rounds_of_le (reach.trans reached) (Nat.le_max_left _ r.edges.length),
      widening_eq_rounds_of_le reached (Nat.le_max_right s.edges.length _)]
    exact rounds_congr reached same _

theorem acceptedTokens_congr (same : s.widening declared = r.widening declared) :
    s.acceptedTokens declared = r.acceptedTokens declared := by
  rw [acceptedTokens_eq, acceptedTokens_eq, same]

end MultiDispatch.Registry

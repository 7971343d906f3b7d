import MultiDispatch.Proofs.Registry.Edges
import MultiDispatch.Proofs.Widening.Rounds
import Mathlib.Data.List.Nodup
import Mathlib.Logic.Function.Iterate

/-! Chains of registered edges. A round follows chains one edge further, and under transitive reach
the loop ends with all types from which a chain leads to a declared one. -/
namespace MultiDispatch

open Relation (TransGen)

variable {ε V τ : Type}

namespace Registry

/-- Some registered edge leads from one type to the other. -/
def Feeds (r : Registry ε V τ) (t u : Token) : Prop :=
  ∃ e ∈ r.edges, e.source = t ∧ e.target = u

/-- A chain of exactly so many registered edges leads from the type to a declared one. -/
inductive Leads (r : Registry ε V τ) (declared : List Token) : Nat → Token → Prop
  | here {t : Token} : t ∈ declared → Leads r declared 0 t
  | edge {n : Nat} {e : Edge ε V} : e ∈ r.edges → Leads r declared n e.target →
      Leads r declared (n + 1) e.source

theorem Leads.transGen {r : Registry ε V τ} {declared : List Token} {n : Nat} {t : Token}
    (leads : r.Leads declared n t) : t ∈ declared ∨ ∃ d ∈ declared, TransGen r.Feeds t d := by
  induction leads with
  | here member => exact .inl member
  | @edge n e registered _ ih =>
    have feeds : r.Feeds e.source e.target := ⟨e, registered, rfl, rfl⟩
    rcases ih with member | ⟨d, member, path⟩
    · exact .inr ⟨e.target, member, .single feeds⟩
    · exact .inr ⟨d, member, .head feeds path⟩

theorem leads_of_transGen {r : Registry ε V τ} {declared : List Token} {t d : Token}
    (member : d ∈ declared) (path : TransGen r.Feeds t d) : ∃ n, r.Leads declared n t := by
  induction path using TransGen.head_induction_on with
  | single feeds =>
    obtain ⟨e, registered, rfl, rfl⟩ := feeds
    exact ⟨1, .edge registered (.here member)⟩
  | head feeds _ ih =>
    obtain ⟨e, registered, rfl, rfl⟩ := feeds
    obtain ⟨n, leads⟩ := ih
    exact ⟨n + 1, .edge registered leads⟩

theorem prefix_round (r : Registry ε V τ) (found : List (Accepted ε V)) :
    found <+: r.round found := List.prefix_append _ _

theorem rounds_of_gained_eq_nil {r : Registry ε V τ} {found : List (Accepted ε V)} {n : Nat}
    (stopped : r.gained (r.rounds found n) = []) {m : Nat} (le : n ≤ m) :
    r.rounds found m = r.rounds found n := by
  induction le with
  | refl => rfl
  | step _ ih => rw [rounds, ih, round, stopped, List.append_nil]

theorem widening_of_singleHop {r : Registry ε V τ} (single : r.settings.reach = .singleHop)
    (declared : List Token) : r.widening declared = r.rounds (Accepted.declared declared) 1 := by
  rw [widening, single]
  rfl

theorem widening_eq_rounds (r : Registry ε V τ) (declared : List Token) :
    ∃ n, r.widening declared = r.rounds (Accepted.declared declared) n := by
  unfold widening
  cases r.settings.reach with
  | singleHop => exact ⟨1, rfl⟩
  | transitive => exact ⟨r.edges.length, rfl⟩

/-- As many rounds as there are edges reach all types, and further rounds change nothing. -/
theorem widening_eq_rounds_of_le {r : Registry ε V τ} {declared : List Token}
    (transitive : r.settings.reach = .transitive) {n : Nat} (enough : r.edges.length ≤ n) :
    r.widening declared = r.rounds (Accepted.declared declared) n := by
  rw [widening, transitive]
  exact (rounds_of_gained_eq_nil (r.gained_rounds_edges declared) enough).symm

/-- An accepted type is declared, or a round added it for an edge into a type accepted before. -/
theorem mem_rounds_succ {r : Registry ε V τ} {found : List (Accepted ε V)} {n : Nat}
    {a : Accepted ε V} (member : a ∈ r.rounds found (n + 1)) :
    a ∈ r.rounds found n ∨ ∃ b ∈ r.rounds found n, ∃ e ∈ r.edgesInto b.token,
      e.source = a.token ∧ a.convert? = some (e.through b.convert?) := by
  rcases List.mem_append.1 member with old | new
  · exact .inl old
  · have offered := List.mem_of_find?_eq_some (Accepted.find?_of_mem_fresh new)
    obtain ⟨b, held, offer⟩ := List.mem_flatMap.1 offered
    exact .inr ⟨b, held, mem_offers.1 offer⟩

theorem declared_of_convert?_eq_none {r : Registry ε V τ} {declared : List Token} {n : Nat}
    {a : Accepted ε V} (member : a ∈ r.rounds (Accepted.declared declared) n)
    (plain : a.convert? = none) : a.token ∈ declared := by
  induction n with
  | zero => exact (Accepted.mem_declared.1 member).1
  | succ n ih =>
    rcases mem_rounds_succ member with old | ⟨_, _, _, _, _, convert⟩
    · exact ih old
    · rw [plain] at convert
      cases convert

/-- One turn of the loop over the list that it extends: the type at the position adds the sources of
its edges. Past the end nothing happens. -/
def scan (r : Registry ε V τ) : Nat × List (Accepted ε V) → Nat × List (Accepted ε V)
  | (i, found) =>
    match found[i]? with
    | some a => (i + 1, found ++ r.reachedFrom (found.map (·.token)) a)
    | none => (i, found)

theorem scan_iterate (r : Registry ε V τ) (done pending : List (Accepted ε V)) :
    ∃ n, done.length + n = (r.widenAll done pending).length ∧
      r.scan^[n] (done.length, done ++ pending) =
        ((r.widenAll done pending).length, r.widenAll done pending) := by
  fun_induction widenAll r done pending with
  | case1 done => exact ⟨0, rfl, by simp⟩
  | case2 done a pending seen ih =>
    obtain ⟨n, length, turns⟩ := ih
    have turn : r.scan (done.length, done ++ a :: pending) =
        ((done ++ [a]).length, done ++ [a] ++ (pending ++ r.reachedFrom seen a)) := by
      simp [scan, seen]
    refine ⟨n + 1, ?_, ?_⟩
    · rw [← length, List.length_append, List.length_singleton]
      omega
    · rw [Function.iterate_succ_apply, turn, turns]

/-- The loop is over after one turn for each accepted type. -/
theorem scan_accepted {r : Registry ε V τ} (transitive : r.settings.reach = .transitive)
    (declared : List Token) :
    r.scan^[(r.accepted declared).length] (0, Accepted.declared declared) =
      ((r.accepted declared).length, r.accepted declared) := by
  obtain ⟨n, length, turns⟩ := r.scan_iterate [] (Accepted.declared declared)
  have loop : r.accepted declared = r.widenAll [] (Accepted.declared declared) := by
    rw [accepted, transitive]
  rw [List.length_nil, Nat.zero_add] at length
  rw [loop, ← length]
  exact turns.trans (by rw [length])

theorem declared_prefix_widening (r : Registry ε V τ) (declared : List Token) :
    Accepted.declared declared <+: r.widening declared := by
  obtain ⟨n, rounds⟩ := r.widening_eq_rounds declared
  rw [rounds]
  exact r.prefix_rounds _ (Nat.zero_le n)

theorem nodup_widening (r : Registry ε V τ) (declared : List Token) :
    ((r.widening declared).map (·.token)).Nodup := by
  obtain ⟨n, rounds⟩ := r.widening_eq_rounds declared
  rw [rounds]
  exact r.nodup_rounds declared n

/-- Exactly the declared ones among the accepted types have no conversion. -/
theorem convert?_eq_none_iff {r : Registry ε V τ} {declared : List Token} {a : Accepted ε V}
    (member : a ∈ r.widening declared) : a.convert? = none ↔ a.token ∈ declared := by
  constructor
  · intro plain
    obtain ⟨n, rounds⟩ := r.widening_eq_rounds declared
    exact declared_of_convert?_eq_none (rounds ▸ member) plain
  · intro listed
    have held : ⟨a.token, none⟩ ∈ r.widening declared :=
      (r.declared_prefix_widening declared).subset (Accepted.mem_declared.2 ⟨listed, rfl⟩)
    rw [List.inj_on_of_nodup_map (r.nodup_widening declared) member held rfl]

/-- Without conversions nothing is accepted but the declared types. -/
theorem forall_convert?_eq_none_iff {r : Registry ε V τ} {declared : List Token} :
    (∀ a ∈ r.widening declared, a.convert? = none) ↔
      (r.widening declared).length ≤ declared.eraseDups.length := by
  constructor
  · intro plain
    have listed : (r.widening declared).map (·.token) ⊆ declared.eraseDups := by
      intro t member
      obtain ⟨a, accepted, rfl⟩ := List.mem_map.1 member
      exact List.mem_eraseDups.2 ((convert?_eq_none_iff accepted).1 (plain a accepted))
    simpa using ((r.nodup_widening declared).subperm listed).length_le
  · intro few a member
    have whole : Accepted.declared declared = r.widening declared :=
      (r.declared_prefix_widening declared).eq_of_length_le (by simpa [Accepted.declared] using few)
    exact (Accepted.mem_declared.1 (whole ▸ member)).2

variable [Typed V τ] [DecidableEq τ]

/-- A round follows every chain one edge further. -/
theorem mem_map_rounds {r : Registry ε V τ} (reachable : r.Reachable) {declared : List Token}
    {n : Nat} {t : Token} : t ∈ (r.rounds (Accepted.declared declared) n).map (·.token) ↔
      ∃ m ≤ n, r.Leads declared m t := by
  induction n generalizing t with
  | zero =>
    rw [rounds, Accepted.map_declared, List.mem_eraseDups]
    constructor
    · intro member
      exact ⟨0, Nat.le_refl 0, .here member⟩
    · rintro ⟨m, le, leads⟩
      cases leads with
      | here member => exact member
      | edge => omega
  | succ n ih =>
    rw [rounds, mem_map_round, ih]
    constructor
    · rintro (⟨m, le, leads⟩ | ⟨a, found, e, into, rfl⟩)
      · exact ⟨m, Nat.le_succ_of_le le, leads⟩
      · obtain ⟨m, le, leads⟩ := ih.1 (List.mem_map_of_mem found)
        obtain ⟨registered, target⟩ := reachable.mem_edgesInto.1 into
        exact ⟨m + 1, Nat.succ_le_succ le, .edge registered (target ▸ leads)⟩
    · rintro ⟨m, le, leads⟩
      cases leads with
      | here member => exact .inl ⟨0, Nat.zero_le n, .here member⟩
      | @edge m e registered leads =>
        obtain ⟨a, found, same⟩ := List.mem_map.1 (ih.2 ⟨m, Nat.le_of_succ_le_succ le, leads⟩)
        exact .inr ⟨a, found, e, reachable.mem_edgesInto.2 ⟨registered, same.symm⟩, rfl⟩

theorem mem_map_widening {r : Registry ε V τ} (reachable : r.Reachable)
    (transitive : r.settings.reach = .transitive) (declared : List Token) {t : Token} :
    t ∈ (r.widening declared).map (·.token) ↔ ∃ n, r.Leads declared n t := by
  constructor
  · intro listed
    rw [widening_eq_rounds_of_le transitive (Nat.le_refl _), mem_map_rounds reachable] at listed
    obtain ⟨n, _, leads⟩ := listed
    exact ⟨n, leads⟩
  · rintro ⟨n, leads⟩
    rw [widening_eq_rounds_of_le transitive (Nat.le_max_right n _), mem_map_rounds reachable]
    exact ⟨n, Nat.le_max_left .., leads⟩

/-- Under transitive reach the loop is over after as many turns as there are accepted types. They
are the declared types and all others from which registered edges lead to one of them. -/
theorem accepted_closure (r : Registry ε V τ) (reachable : r.Reachable)
    (transitive : r.settings.reach = .transitive) (declared : List Token) :
    r.scan^[(r.accepted declared).length] (0, Accepted.declared declared) =
        ((r.accepted declared).length, r.accepted declared) ∧
      ((r.accepted declared).map (·.token)).Nodup ∧
      ∃ others, (r.accepted declared).map (·.token) = declared.eraseDups ++ others ∧
        ∀ t, t ∈ others ↔ t ∉ declared ∧ ∃ d ∈ declared, TransGen r.Feeds t d := by
  refine ⟨scan_accepted transitive declared, ?_, ?_⟩
  · rw [accepted_eq_widening]
    exact r.nodup_widening declared
  · rw [accepted_eq_widening]
    obtain ⟨others, split⟩ := r.declared_prefix_widening declared
    have tokens : (r.widening declared).map (·.token) =
        declared.eraseDups ++ others.map (·.token) := by
      rw [← split, List.map_append, Accepted.map_declared]
    have nodup := r.nodup_widening declared
    rw [tokens, List.nodup_append] at nodup
    refine ⟨others.map (·.token), tokens, fun t => ?_⟩
    have member := mem_map_widening reachable transitive declared (t := t)
    rw [tokens, List.mem_append, List.mem_eraseDups] at member
    constructor
    · intro other
      have new : t ∉ declared := fun old => nodup.2.2 t (List.mem_eraseDups.2 old) t other rfl
      obtain ⟨n, leads⟩ := member.1 (.inr other)
      exact ⟨new, leads.transGen.resolve_left new⟩
    · rintro ⟨new, d, old, path⟩
      exact (member.2 (leads_of_transGen old path)).resolve_left new

end Registry

namespace Amount

theorem accepted_closure_units :
    (units.accepted [⟨0, 0⟩, ⟨1, 0⟩, ⟨0, 0⟩]).map (·.token) =
        [⟨0, 0⟩, ⟨1, 0⟩] ++ [⟨0, 1⟩, ⟨0, 2⟩, ⟨0, 3⟩] ∧
      ∀ t, t ∈ [⟨0, 1⟩, ⟨0, 2⟩, ⟨0, 3⟩] ↔ t ∉ [⟨0, 0⟩, ⟨1, 0⟩, ⟨0, 0⟩] ∧
        ∃ d ∈ [⟨0, 0⟩, ⟨1, 0⟩, ⟨0, 0⟩], TransGen units.Feeds t d := by
  have listed : (units.accepted [⟨0, 0⟩, ⟨1, 0⟩, ⟨0, 0⟩]).map (·.token) =
      [⟨0, 0⟩, ⟨1, 0⟩] ++ [⟨0, 1⟩, ⟨0, 2⟩, ⟨0, 3⟩] := by
    rw [Registry.accepted_eq_widening]
    decide
  obtain ⟨_, _, others, tokens, member⟩ :=
    Registry.accepted_closure units units_reachable rfl [⟨0, 0⟩, ⟨1, 0⟩, ⟨0, 0⟩]
  have same := List.append_cancel_left (listed.symm.trans tokens)
  exact ⟨listed, same ▸ member⟩

end Amount

end MultiDispatch

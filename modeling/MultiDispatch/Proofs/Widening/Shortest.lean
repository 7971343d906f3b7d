import MultiDispatch.Proofs.Recognition

/-! Shortest chains. Under transitive reach types are accepted in the order of their distance from
the declared ones, and a value is converted along a chain of as few edges as there can be. Which one
of several such chains is taken depends on what was accepted, or registered, first. -/
namespace MultiDispatch

variable {ε V τ : Type}

/-- Runs the converters of a chain of edges, that of its first edge first. -/
def Edge.along : List (Edge ε V) → Conversion ε V
  | [], v => pure v
  | e :: es, v => e.converter.apply v >>= along es

/-- A chain without edges needs no conversion. -/
def Edge.conversion? : List (Edge ε V) → Option (Conversion ε V)
  | [] => none
  | es => some (along es)

theorem Edge.conversion?_cons (e : Edge ε V) (es : List (Edge ε V)) :
    conversion? (e :: es) = some (e.through (conversion? es)) := by
  cases es with
  | nil =>
    have last : along [e] = e.converter.apply := funext fun v => bind_pure (e.converter.apply v)
    simp only [conversion?, last, through]
  | cons => rfl

namespace Registry

/-- The least number of registered edges that lead from the type to a declared one. -/
def Distance (r : Registry ε V τ) (declared : List Token) (t : Token) (n : Nat) : Prop :=
  r.Leads declared n t ∧ ∀ m, r.Leads declared m t → n ≤ m

/-- The chain of a type goes on to the earliest accepted type that an edge leads to, by the earliest
such edge, until a declared type is reached. -/
inductive Route (r : Registry ε V τ) (declared accepted : List Token) :
    Token → List (Edge ε V) → Prop
  | arrive {t : Token} : t ∈ declared → Route r declared accepted t []
  | hop {e : Edge ε V} {es : List (Edge ε V)} : e.source ∉ declared →
      accepted.find? (fun u => (r.edgesInto u).any (·.source = e.source)) = some e.target →
      (r.edgesInto e.target).find? (·.source = e.source) = some e →
      Route r declared accepted e.target es → Route r declared accepted e.source (e :: es)

/-- A chain that does not end at once starts with the earliest edge to the earliest type. -/
theorem Route.head {r : Registry ε V τ} {declared accepted : List Token} {t : Token}
    {es : List (Edge ε V)} (route : r.Route declared accepted t es) (undeclared : t ∉ declared) :
    ∃ e rest, es = e :: rest ∧
      accepted.find? (fun u => (r.edgesInto u).any (·.source = t)) = some e.target ∧
      (r.edgesInto e.target).find? (·.source = t) = some e ∧
      r.Route declared accepted e.target rest := by
  cases route with
  | arrive listed => exact absurd listed undeclared
  | hop _ next edge rest => exact ⟨_, _, rfl, next, edge, rest⟩

theorem Route.unique {r : Registry ε V τ} {declared accepted : List Token} {t : Token}
    {es fs : List (Edge ε V)} (one : r.Route declared accepted t es)
    (other : r.Route declared accepted t fs) : es = fs := by
  induction one generalizing fs with
  | arrive listed =>
    cases other with
    | arrive => rfl
    | hop undeclared => exact absurd listed undeclared
  | @hop e es undeclared next edge _ ih =>
    obtain ⟨e', rest, rfl, next', edge', route⟩ := other.head undeclared
    obtain target : e.target = e'.target := Option.some.inj (next.symm.trans next')
    rw [← target] at edge' route
    obtain rfl : e = e' := Option.some.inj (edge.symm.trans edge')
    rw [ih route]

theorem rounds_prefix_widening {r : Registry ε V τ} (transitive : r.settings.reach = .transitive)
    (declared : List Token) (n : Nat) :
    r.rounds (Accepted.declared declared) n <+: r.widening declared := by
  rw [widening_eq_rounds_of_le transitive (Nat.le_max_right n _)]
  exact r.prefix_rounds _ (Nat.le_max_left ..)

theorem not_mem_of_mem_gained {r : Registry ε V τ} {found : List (Accepted ε V)}
    {a : Accepted ε V} (new : a ∈ r.gained found) : a.token ∉ found.map (·.token) :=
  (Accepted.mem_map_fresh.1 (List.mem_map_of_mem new)).1

/-- What a round adds comes from the earliest type that has an edge from it, by the earliest such
edge. -/
theorem first_of_mem_gained {r : Registry ε V τ} {found : List (Accepted ε V)} {a : Accepted ε V}
    (new : a ∈ r.gained found) : ∃ b ∈ found, ∃ e,
      (found.map (·.token)).find? (fun u => (r.edgesInto u).any (·.source = a.token)) =
        some b.token ∧
      (r.edgesInto b.token).find? (·.source = a.token) = some e ∧
      a = ⟨e.source, some (e.through b.convert?)⟩ := by
  have first := Accepted.find?_of_mem_fresh new
  rw [List.find?_flatMap] at first
  obtain ⟨before, b, after, split, offered, earlier⟩ := List.findSome?_eq_some_iff.1 first
  rw [offers, List.find?_map] at offered
  obtain ⟨e, edge, eq⟩ := Option.map_eq_some_iff.1 offered
  have edge : (r.edgesInto b.token).find? (·.source = a.token) = some e := edge
  refine ⟨b, by simp [split], e, ?_, edge, eq.symm⟩
  have skipped : (before.map (·.token)).find?
      (fun u => (r.edgesInto u).any (·.source = a.token)) = none := by
    refine List.find?_eq_none.2 fun t listed => ?_
    obtain ⟨x, held, rfl⟩ := List.mem_map.1 listed
    have nothing := earlier x held
    rw [offers, List.find?_map, Option.map_eq_none_iff, List.find?_eq_none] at nothing
    simpa using nothing
  have here : (r.edgesInto b.token).any (·.source = a.token) = true :=
    List.any_eq_true.2 ⟨e, List.mem_of_find?_eq_some edge, by simpa using List.find?_some edge⟩
  rw [split, List.map_append, List.find?_append, skipped, Option.none_or, List.map_cons]
  exact List.find?_cons_of_pos here

variable [Typed V τ] [DecidableEq τ]

/-- Conversions compose along routes, and no chain of edges is shorter than a route. -/
theorem route_of_prefix {r : Registry ε V τ} (reachable : r.Reachable) {declared : List Token}
    {n : Nat} (within : r.rounds (Accepted.declared declared) n <+: r.widening declared)
    {a : Accepted ε V} (member : a ∈ r.rounds (Accepted.declared declared) n) :
    ∃ chain, r.Route declared ((r.widening declared).map (·.token)) a.token chain ∧
      chain.length ≤ n ∧ r.Distance declared a.token chain.length ∧
      a.convert? = Edge.conversion? chain := by
  induction n generalizing a with
  | zero =>
    obtain ⟨listed, plain⟩ := Accepted.mem_declared.1 member
    exact ⟨[], .arrive listed, Nat.le_refl 0, ⟨.here listed, fun m _ => Nat.zero_le m⟩, plain⟩
  | succ n ih =>
    have within := (r.prefix_round _).trans within
    rcases List.mem_append.1 member with old | new
    · obtain ⟨chain, route, bound, distance, convert⟩ := ih within old
      exact ⟨chain, route, Nat.le_succ_of_le bound, distance, convert⟩
    · have later := not_mem_of_mem_gained new
      obtain ⟨b, held, e, first, edge, rfl⟩ := first_of_mem_gained new
      obtain ⟨chain, route, bound, distance, convert⟩ := ih within held
      obtain ⟨registered, target⟩ := reachable.mem_edgesInto.1 (List.mem_of_find?_eq_some edge)
      have far m (leads : r.Leads declared m e.source) : n < m := by
        by_contra near
        exact later ((mem_map_rounds reachable).2 ⟨m, Nat.le_of_not_lt near, leads⟩)
      have undeclared : e.source ∉ declared := fun listed =>
        absurd (far 0 (.here listed)) (Nat.not_lt_zero n)
      obtain ⟨others, split⟩ := within
      have next : ((r.widening declared).map (·.token)).find?
          (fun u => (r.edgesInto u).any (·.source = e.source)) = some e.target := by
        rw [← split, List.map_append, List.find?_append, first, target, Option.some_or]
      rw [← target] at route edge distance
      refine ⟨e :: chain, .hop undeclared next edge route, Nat.succ_le_succ bound, ?_, ?_⟩
      · exact ⟨.edge registered distance.1, fun m leads =>
          Nat.lt_of_le_of_lt bound (far m leads)⟩
      · rw [convert, Edge.conversion?_cons]

theorem route_of_mem_rounds {r : Registry ε V τ} (reachable : r.Reachable)
    (transitive : r.settings.reach = .transitive) {declared : List Token} {n : Nat}
    {a : Accepted ε V} (member : a ∈ r.rounds (Accepted.declared declared) n) :
    ∃ chain, r.Route declared ((r.widening declared).map (·.token)) a.token chain ∧
      chain.length ≤ n ∧ r.Distance declared a.token chain.length ∧
      a.convert? = Edge.conversion? chain :=
  route_of_prefix reachable (rounds_prefix_widening transitive declared n) member

/-- Under either reach the conversion of an accepted type is that of its route. -/
theorem exists_route {r : Registry ε V τ} (reachable : r.Reachable) {declared : List Token}
    {a : Accepted ε V} (member : a ∈ r.widening declared) :
    ∃ chain, r.Route declared ((r.widening declared).map (·.token)) a.token chain ∧
      a.convert? = Edge.conversion? chain := by
  obtain ⟨n, rounds⟩ := r.widening_eq_rounds declared
  obtain ⟨chain, route, _, _, convert⟩ :=
    route_of_prefix reachable (rounds ▸ List.prefix_rfl) (rounds ▸ member)
  exact ⟨chain, route, convert⟩

/-- What some rounds accept is at most as far away as what the last of them adds. -/
theorem le_of_mem_gained {r : Registry ε V τ} (reachable : r.Reachable) {declared : List Token}
    {n : Nat} {a b : Accepted ε V} (found : a ∈ r.rounds (Accepted.declared declared) (n + 1))
    (new : b ∈ r.gained (r.rounds (Accepted.declared declared) n)) {k l : Nat}
    (near : r.Distance declared a.token k) (far : r.Distance declared b.token l) : k ≤ l := by
  obtain ⟨m, within, leads⟩ := (mem_map_rounds reachable).1 (List.mem_map_of_mem found)
  have later : n < l := by
    by_contra early
    exact not_mem_of_mem_gained new
      ((mem_map_rounds reachable).2 ⟨l, Nat.le_of_not_lt early, far.1⟩)
  calc
    k ≤ m := near.2 m leads
    _ ≤ n + 1 := within
    _ ≤ l := later

theorem pairwise_rounds {r : Registry ε V τ} (reachable : r.Reachable) (declared : List Token)
    (n : Nat) : (r.rounds (Accepted.declared declared) n).Pairwise fun a b =>
      ∀ k l, r.Distance declared a.token k → r.Distance declared b.token l → k ≤ l := by
  induction n with
  | zero =>
    refine List.pairwise_of_forall_mem_list fun a found b _ k l distance _ => ?_
    have listed := (Accepted.mem_declared.1 found).1
    exact Nat.le_trans (distance.2 0 (.here listed)) (Nat.zero_le l)
  | succ n ih =>
    refine List.pairwise_append.2 ⟨ih, ?_, ?_⟩
    · exact List.pairwise_of_forall_mem_list fun a found b new k l near far =>
        le_of_mem_gained reachable (List.mem_append_right _ found) new near far
    · exact fun a found b new k l near far =>
        le_of_mem_gained reachable (List.mem_append_left _ found) new near far

end Registry

/-- A slot lists the accepted types nearest first and converts each along a shortest chain: to the
earliest accepted type that it can be converted to at once, by the edge registered first. -/
theorem Slot.shortest_chains [Typed V τ] [DecidableEq τ] (r : Registry ε V τ)
    (reachable : r.Reachable) (transitive : r.settings.reach = .transitive)
    (declared : List Token) (s : Slot ε V) (compiled : Slot.compile r declared = .ok s) :
    (s.accepted.Pairwise fun t u =>
        ∀ k l, r.Distance declared t k → r.Distance declared u l → k ≤ l) ∧
      ∀ m ∈ s.members, ∃ chain, r.Route declared s.accepted m.token chain ∧
        r.Distance declared m.token chain.length ∧ m.convert? = Edge.conversion? chain := by
  have entries := entries_of_compile compiled
  obtain ⟨n, rounds⟩ := r.widening_eq_rounds declared
  rw [accepted_of_compile compiled]
  constructor
  · rw [rounds, List.pairwise_map]
    exact Registry.pairwise_rounds reachable declared n
  · intro m member
    have listed : m.entry ∈ r.rounds (Accepted.declared declared) n := by
      rw [← rounds, ← entries]
      exact List.mem_map_of_mem member
    obtain ⟨chain, route, _, distance, convert⟩ :=
      Registry.route_of_mem_rounds reachable transitive listed
    exact ⟨chain, route, distance, convert⟩

theorem Amount.shortest_chains_units :
    ∃ s, Slot.compile units [⟨0, 0⟩] = .ok s ∧ s.accepted = [⟨0, 0⟩, ⟨0, 1⟩, ⟨0, 2⟩, ⟨0, 3⟩] ∧
      units.Route [⟨0, 0⟩] s.accepted ⟨0, 3⟩ [exchange 3 1 5, exchange 1 0 2] ∧
      units.Distance [⟨0, 0⟩] ⟨0, 3⟩ 2 ∧
      ∃ m ∈ s.members, m.token = ⟨0, 3⟩ ∧
        m.convert? = some (Edge.along [exchange 3 1 5, exchange 1 0 2]) ∧
        (Edge.along [exchange 3 1 5, exchange 1 0 2] ⟨3, 1⟩).val = ⟨0, 10⟩ := by
  have compiles : ∃ s, Slot.compile units [⟨0, 0⟩] = .ok s := by
    unfold Slot.compile
    simp only [Registry.accepted_eq_widening]
    exact ⟨_, rfl⟩
  obtain ⟨s, compiled⟩ := compiles
  have tokens : s.accepted = [⟨0, 0⟩, ⟨0, 1⟩, ⟨0, 2⟩, ⟨0, 3⟩] :=
    (Slot.accepted_of_compile compiled).trans (by decide)
  have named : units.Route [⟨0, 0⟩] s.accepted ⟨0, 3⟩ [exchange 3 1 5, exchange 1 0 2] := by
    rw [tokens]
    exact .hop (e := exchange 3 1 5) (by decide) (by decide) rfl
      (.hop (e := exchange 1 0 2) (by decide) (by decide) rfl (.arrive (by decide)))
  have last : ⟨0, 3⟩ ∈ s.accepted := by simp [tokens]
  obtain ⟨m, member, token⟩ := List.mem_map.1 last
  obtain ⟨chain, route, distance, converts⟩ :=
    (Slot.shortest_chains units units_reachable rfl [⟨0, 0⟩] s compiled).2 m member
  rw [token] at route distance
  obtain rfl := route.unique named
  exact ⟨s, compiled, tokens, named, distance, m, member, token, converts, rfl⟩

end MultiDispatch

import MultiDispatch.Proofs.Layout

/-! Widening by a single hop, in closed form. The declared types are gone through in order, and the
edges into each in the order of their registration. Whatever source is met first is accepted next,
and is converted by the edge that it was met on. -/
namespace MultiDispatch

variable {ε V τ : Type}

/-- Entries of tokens that are not seen are kept in order, each at its first occurrence. -/
theorem Accepted.map_token_fresh (seen : List Token) (as : List (Accepted ε V)) :
    (fresh seen as).map (·.token) = ((as.map (·.token)).filter (· ∉ seen)).eraseDups := by
  induction as generalizing seen with
  | nil => simp [fresh]
  | cons a as ih =>
    by_cases held : a.token ∈ seen
    · simp [fresh, held, ih]
    · have rest : ((as.map (·.token)).filter (· ∉ seen)).filter (fun t => !t == a.token) =
          (as.map (·.token)).filter (· ∉ a.token :: seen) := by
        rw [List.filter_filter]
        apply List.filter_congr
        intro t _
        by_cases same : t = a.token <;> simp [same]
      rw [fresh, if_neg held, List.map_cons, ih, List.map_cons,
        List.filter_cons_of_pos (by simpa using held), List.eraseDups_cons, rest]

namespace Registry

/-- The edges into the declared types: one type after the other, those of each as registered. -/
def inbound (r : Registry ε V τ) (declared : List Token) : List (Edge ε V) :=
  declared.eraseDups.flatMap r.edgesInto

/-- The sources of these edges that are not declared, in the order of their first occurrence. -/
def feeders (r : Registry ε V τ) (declared : List Token) : List Token :=
  (((r.inbound declared).map (·.source)).filter (· ∉ declared)).eraseDups

theorem flatMap_offers_declared (r : Registry ε V τ) (declared : List Token) :
    (Accepted.declared declared).flatMap r.offers =
      (r.inbound declared).map fun e => ⟨e.source, some e.converter.apply⟩ := by
  rw [Accepted.declared, List.flatMap_map, inbound, List.map_flatMap]
  rfl

theorem gained_declared (r : Registry ε V τ) (declared : List Token) :
    r.gained (Accepted.declared declared) = Accepted.fresh declared.eraseDups
      ((r.inbound declared).map fun e => ⟨e.source, some e.converter.apply⟩) := by
  rw [gained, flatMap_offers_declared, Accepted.map_declared]

theorem map_token_gained_declared (r : Registry ε V τ) (declared : List Token) :
    (r.gained (Accepted.declared declared)).map (·.token) = r.feeders declared := by
  rw [gained_declared, Accepted.map_token_fresh, List.map_map, feeders]
  simp only [List.mem_eraseDups]
  rfl

/-- A source is converted by the first of the edges that it has into declared types. -/
theorem first_of_mem_gained_declared {r : Registry ε V τ} {declared : List Token}
    {a : Accepted ε V} (new : a ∈ r.gained (Accepted.declared declared)) :
    ∃ e, (r.inbound declared).find? (·.source = a.token) = some e ∧
      a.convert? = some e.converter.apply := by
  rw [gained_declared] at new
  have first := Accepted.find?_of_mem_fresh new
  rw [List.find?_map] at first
  obtain ⟨e, edge, eq⟩ := Option.map_eq_some_iff.1 first
  exact ⟨e, edge, by rw [← eq]⟩

theorem mem_feeders {r : Registry ε V τ} {declared : List Token} {t : Token} :
    t ∈ r.feeders declared ↔ t ∉ declared ∧ ∃ e ∈ r.inbound declared, e.source = t := by
  simp only [feeders, List.mem_eraseDups, List.mem_filter, List.mem_map, decide_eq_true_eq,
    and_comm]

theorem widening_singleHop {r : Registry ε V τ} (single : r.settings.reach = .singleHop)
    (declared : List Token) : r.widening declared =
      Accepted.declared declared ++ r.gained (Accepted.declared declared) := by
  rw [widening, single]
  rfl

theorem map_token_widening_singleHop {r : Registry ε V τ}
    (single : r.settings.reach = .singleHop) (declared : List Token) :
    (r.widening declared).map (·.token) = declared.eraseDups ++ r.feeders declared := by
  rw [widening_singleHop single, List.map_append, Accepted.map_declared, map_token_gained_declared]

/-- What is not declared comes from an edge into a declared type. -/
theorem first_of_mem_widening_singleHop {r : Registry ε V τ}
    (single : r.settings.reach = .singleHop) {declared : List Token} {a : Accepted ε V}
    (accepted : a ∈ r.widening declared) (other : a.token ∉ declared) :
    ∃ e, (r.inbound declared).find? (·.source = a.token) = some e ∧
      a.convert? = some e.converter.apply := by
  rw [widening_singleHop single] at accepted
  rcases List.mem_append.1 accepted with here | new
  · exact absurd (Accepted.mem_declared.1 here).1 other
  · exact first_of_mem_gained_declared new

variable [Typed V τ] [DecidableEq τ]

theorem Reachable.mem_inbound {r : Registry ε V τ} (reachable : r.Reachable)
    {declared : List Token} {e : Edge ε V} :
    e ∈ r.inbound declared ↔ e ∈ r.edges ∧ e.target ∈ declared := by
  simp only [inbound, List.mem_flatMap, List.mem_eraseDups, reachable.mem_edgesInto]
  constructor
  · rintro ⟨t, listed, registered, rfl⟩
    exact ⟨registered, listed⟩
  · rintro ⟨registered, listed⟩
    exact ⟨e.target, listed, registered, rfl⟩

theorem Reachable.mem_declared_or_feeders {r : Registry ε V τ} (reachable : r.Reachable)
    {declared : List Token} {t : Token} : t ∈ declared ∨ t ∈ r.feeders declared ↔
      t ∈ declared ∨ ∃ e ∈ r.edges, e.source = t ∧ e.target ∈ declared := by
  simp only [mem_feeders, reachable.mem_inbound]
  constructor
  · rintro (listed | ⟨_, e, ⟨registered, target⟩, source⟩)
    · exact .inl listed
    · exact .inr ⟨e, registered, source, target⟩
  · rintro (listed | ⟨e, registered, source, target⟩)
    · exact .inl listed
    · by_cases listed : t ∈ declared
      · exact .inl listed
      · exact .inr ⟨listed, e, ⟨registered, target⟩, source⟩

end Registry

namespace Slot

/-- Under a single hop a slot accepts its declared types and then the sources of the edges into
them, each once and in the order in which it is met. A source is converted by the edge on which it
is met, and a declared type is not converted, whatever edges there are between declared types. -/
theorem single_hop [Typed V τ] [DecidableEq τ] (r : Registry ε V τ) (reachable : r.Reachable)
    (single : r.settings.reach = .singleHop) (declared : List Token) (s : Slot ε V)
    (compiled : Slot.compile r declared = .ok s) :
    s.accepted = declared.eraseDups ++ r.feeders declared ∧ s.accepted.Nodup ∧
      (∀ m ∈ s.members, m.token ∈ declared → m.convert? = none) ∧
      (∀ m ∈ s.members, m.token ∉ declared → ∃ e,
        (r.inbound declared).find? (·.source = m.token) = some e ∧
        m.convert? = some e.converter.apply) ∧
      (∀ t, t ∈ s.accepted ↔
        t ∈ declared ∨ ∃ e ∈ r.edges, e.source = t ∧ e.target ∈ declared) ∧
      (s.widened = true ↔ r.feeders declared ≠ []) ∧
      s.label = " | ".intercalate (declared.eraseDups.map r.name) := by
  have tokens : s.accepted = declared.eraseDups ++ r.feeders declared :=
    (accepted_of_compile compiled).trans (Registry.map_token_widening_singleHop single declared)
  have entry (m : Member ε V) (member : m ∈ s.members) : m.entry ∈ r.widening declared :=
    entries_of_compile compiled ▸ List.mem_map_of_mem member
  obtain ⟨plain, widened, layout⟩ := exists_layout compiled
  refine ⟨tokens, nodup_accepted compiled, fun m member listed => ?_, fun m member other => ?_,
    fun t => ?_, ?_, (compile_eq_ok.1 compiled).1⟩
  · exact (Registry.convert?_eq_none_iff (entry m member)).2 listed
  · exact Registry.first_of_mem_widening_singleHop single (entry m member) other
  · rw [tokens, List.mem_append, List.mem_eraseDups]
    exact reachable.mem_declared_or_feeders
  · rw [layout.widened_iff, ← List.append_cancel_left (layout.accepted.symm.trans tokens), ne_eq,
      ne_eq, List.map_eq_nil_iff]

end Slot

namespace Amount

/-- Unit 2 has edges into units 0 and 1, and unit 0 has one into unit 1. An edge into unit 0 was the
first to be registered, but that does not count where unit 1 is declared before it. -/
def yard : Registry String Amount Nat :=
  (Registry.empty 0 { autoRegister := true }).after
    [.nominal 0, .nominal 1, .nominal 2, .nominal 3, .nominal 4,
      .registerConversion (exchange 3 0 7), .registerConversion (exchange 2 0 3),
      .registerConversion (exchange 2 1 5), .registerConversion (exchange 2 1 11),
      .registerConversion (exchange 0 1 2), .registerConversion (exchange 0 0 13),
      .registerConversion (exchange 4 2 17)]

theorem single_hop_yard : ∃ s, Slot.compile yard [⟨0, 1⟩, ⟨0, 0⟩, ⟨0, 1⟩] = .ok s ∧
    s.accepted = [⟨0, 1⟩, ⟨0, 0⟩, ⟨0, 2⟩, ⟨0, 3⟩] ∧ s.widened = true ∧
    (∃ m ∈ s.members, m.token = ⟨0, 2⟩ ∧ m.convert? = some (exchange 2 1 5).converter.apply) ∧
    ∀ m ∈ s.members, m.token = ⟨0, 0⟩ → m.convert? = none := by
  have compiles : ∃ s, Slot.compile yard [⟨0, 1⟩, ⟨0, 0⟩, ⟨0, 1⟩] = .ok s := by
    unfold Slot.compile
    simp only [Registry.accepted_eq_widening]
    exact ⟨_, rfl⟩
  obtain ⟨s, compiled⟩ := compiles
  have feeders : yard.feeders [⟨0, 1⟩, ⟨0, 0⟩, ⟨0, 1⟩] = [⟨0, 2⟩, ⟨0, 3⟩] := by decide
  obtain ⟨tokens, _, plain, sources, _, widened, _⟩ :=
    Slot.single_hop yard ⟨_, rfl⟩ rfl [⟨0, 1⟩, ⟨0, 0⟩, ⟨0, 1⟩] s compiled
  rw [feeders] at tokens widened
  have accepted : s.accepted = [⟨0, 1⟩, ⟨0, 0⟩, ⟨0, 2⟩, ⟨0, 3⟩] := tokens
  have listed : ⟨0, 2⟩ ∈ s.accepted := by simp [accepted]
  obtain ⟨m, member, two⟩ := List.mem_map.1 listed
  obtain ⟨e, first, converts⟩ := sources m member (by rw [two]; decide)
  rw [two] at first
  cases first
  exact ⟨s, compiled, accepted, widened.2 (by decide), ⟨m, member, two, converts⟩,
    fun m member one => plain m member (by rw [one]; decide)⟩

end Amount

end MultiDispatch

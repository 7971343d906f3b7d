import MultiDispatch.Proofs.Layout
import MultiDispatch.Proofs.Occurrence
import MultiDispatch.Proofs.Wiring

/-! A parameter declares a set of types. Repetitions in the declared list are left out before
anything else is done. The order counts for the order of the slot and for the conversions, but which
types are accepted, and so which values, depends on what is declared alone. -/
namespace MultiDispatch

variable {ε V τ : Type}

namespace Registry

variable {r : Registry ε V τ} {declared other : List Token}

theorem accepted_eraseDups (r : Registry ε V τ) (declared : List Token) :
    r.accepted declared.eraseDups = r.accepted declared := by
  simp only [accepted_eq_widening, widening, Accepted.declared, eraseDups_eraseDups]

theorem Leads.mono {n : Nat} {t : Token} (leads : r.Leads declared n t)
    (more : ∀ u ∈ declared, u ∈ other) : r.Leads other n t := by
  induction leads with
  | here listed => exact .here (more _ listed)
  | edge registered _ ih => exact .edge registered ih

theorem widens_congr (same : ∀ t, t ∈ declared ↔ t ∈ other) (t : Token) :
    r.Widens declared t ↔ r.Widens other t := by
  constructor
  · rintro ⟨n, bound, leads⟩
    exact ⟨n, bound, leads.mono fun u => (same u).1⟩
  · rintro ⟨n, bound, leads⟩
    exact ⟨n, bound, leads.mono fun u => (same u).2⟩

variable [Typed V τ] [DecidableEq τ]

/-- Which types are accepted depends on which are declared, and not on their order. -/
theorem mem_acceptedTokens_congr (reachable : r.Reachable)
    (same : ∀ t, t ∈ declared ↔ t ∈ other) (t : Token) :
    t ∈ r.acceptedTokens declared ↔ t ∈ r.acceptedTokens other := by
  rw [mem_acceptedTokens reachable, mem_acceptedTokens reachable, widens_congr same]

end Registry

namespace Slot

variable [Typed V τ] [DecidableEq τ] {r : Registry ε V τ} {declared other : List Token}

theorem compile_eraseDups (r : Registry ε V τ) (declared : List Token) :
    Slot.compile r declared.eraseDups = Slot.compile r declared := by
  rw [compile, compile, eraseDups_eraseDups, Registry.accepted_eraseDups]

theorem exists_compile_iff : (∃ s, Slot.compile r declared = .ok s) ↔
    ∀ t ∈ r.acceptedTokens declared, ¬ r.Miswired t := by
  rw [← failure?_eq_none, failure?_compile, List.findSome?_eq_none_iff]
  simp only [Registry.failure?_resolve_eq_none]

theorem val_guard_iff_exists {s : Slot ε V} (compiled : Slot.compile r declared = .ok s) (v : V) :
    (s.guard.test v).val = true ↔ ∃ t ∈ s.accepted, r.recognises t v = true := by
  rw [val_guard compiled, accepted_of_compile compiled]
  simp only [List.mem_map, exists_exists_and_eq_and]

/-- To leave out repetitions from the declared types is no change at all: the parameter fails with
the same error, or makes the same slot. To list the types in another order neither makes it fail nor
saves it from failing. The slot accepts the same types and the same values, and it is widened if it
was before. -/
theorem compile_as_set (r : Registry ε V τ) (reachable : r.Reachable) (declared : List Token) :
    Slot.compile r declared.eraseDups = Slot.compile r declared ∧
    ∀ other, declared.Perm other →
      ((∃ s, Slot.compile r declared = .ok s) ↔ ∃ u, Slot.compile r other = .ok u) ∧
      ∀ s u, Slot.compile r declared = .ok s → Slot.compile r other = .ok u →
        s.accepted.Perm u.accepted ∧ s.widened = u.widened ∧
        ∀ v, (s.guard.test v).val = (u.guard.test v).val := by
  refine ⟨compile_eraseDups r declared, fun other perm => ?_⟩
  have accepts := Registry.mem_acceptedTokens_congr reachable fun t => perm.mem_iff (a := t)
  refine ⟨?_, fun s u left right => ?_⟩
  · rw [exists_compile_iff, exists_compile_iff]
    simp only [accepts]
  · have member (t : Token) : t ∈ s.accepted ↔ t ∈ u.accepted := by
      rw [accepted, accepted, map_token_members left, map_token_members right, accepts]
    refine ⟨?_, ?_, fun v => ?_⟩
    · rw [List.perm_ext_iff_of_nodup (nodup_accepted left) (nodup_accepted right)]
      exact member
    · rw [Bool.eq_iff_iff, widened_iff_exists left, widened_iff_exists right]
      simp only [member, perm.mem_iff]
    · rw [Bool.eq_iff_iff, val_guard_iff_exists left, val_guard_iff_exists right]
      simp only [member]

end Slot

/-- The order of the slot does change with the order of the declared types. -/
theorem Amount.compile_as_set_units : ∃ s u,
    Slot.compile units [⟨0, 4⟩, ⟨0, 0⟩, ⟨0, 4⟩] = .ok s ∧
    Slot.compile units [⟨0, 4⟩, ⟨0, 0⟩] = .ok s ∧
    Slot.compile units [⟨0, 0⟩, ⟨0, 4⟩, ⟨0, 4⟩] = .ok u ∧
    s.accepted.Perm u.accepted ∧ s.accepted ≠ u.accepted ∧ s.widened = u.widened ∧
    (s.guard.test ⟨3, 1⟩).val = (u.guard.test ⟨3, 1⟩).val := by
  have compiles : ∃ s u, Slot.compile units [⟨0, 4⟩, ⟨0, 0⟩, ⟨0, 4⟩] = .ok s ∧
      Slot.compile units [⟨0, 0⟩, ⟨0, 4⟩, ⟨0, 4⟩] = .ok u := by
    unfold Slot.compile
    simp only [Registry.accepted_eq_widening]
    exact ⟨_, _, rfl, rfl⟩
  obtain ⟨s, u, left, right⟩ := compiles
  obtain ⟨once, anyOrder⟩ :=
    Slot.compile_as_set units units_reachable [⟨0, 4⟩, ⟨0, 0⟩, ⟨0, 4⟩]
  obtain ⟨perm, widened, values⟩ :=
    (anyOrder [⟨0, 0⟩, ⟨0, 4⟩, ⟨0, 4⟩] (by decide)).2 s u left right
  refine ⟨s, u, left, once.trans left, right, perm, ?_, widened, values _⟩
  rw [Slot.accepted_of_compile left, Slot.accepted_of_compile right]
  decide

end MultiDispatch

import MultiDispatch.Proofs.Combination
import MultiDispatch.Proofs.Compiled
import MultiDispatch.Proofs.Widening.Chains

/-! Which values a compiled parameter takes, and what becomes of them, read off the registry. The
guards that slots are built from are replaced by the registered guards themselves, and the shortcuts
that spare a slot its second search by the search. -/
namespace MultiDispatch

variable {ε V τ : Type} [Typed V τ] [DecidableEq τ]

namespace Registry

/-- Whether a value belongs to a type: all guards of the type accept it, or the type has none and
stands for the value's run-time type in a registry that allows that. -/
def recognises (r : Registry ε V τ) (t : Token) (v : V) : Bool :=
  match r.get? t with
  | none => false
  | some { kind := .structural, guards := [], .. } => false
  | some { kind := .nominal type, guards := [], .. } =>
    r.settings.autoRegister && decide (Typed.typeOf v = type)
  | some { guards, .. } => guards.all fun g => (g.test v).val

/-- What a parameter makes of a value: the first accepted type that recognises the value has it
converted, unless that type is declared. -/
def handOver (r : Registry ε V τ) (declared : List Token) (v : V) : V :=
  match ((r.widening declared).find? (r.recognises ·.token v)).bind (·.convert?) with
  | some conversion => (conversion v).val
  | none => v

theorem recognises_of_guarded {r : Registry ε V τ} {t : Token} (guarded : r.guards t ≠ []) (v : V) :
    r.recognises t v = (r.guards t).all fun g => (g.test v).val := by
  unfold guards at guarded ⊢
  unfold recognises
  cases entry : r.get? t with
  | none => simp [entry] at guarded
  | some e =>
    obtain ⟨name, kind, guards, incoming⟩ := e
    cases guards with
    | nil => simp [entry] at guarded
    | cons first rest => cases kind <;> rfl

theorem val_resolve {r : Registry ε V τ} {t : Token} {g : Combined ε V}
    (resolved : r.resolve t = .ok g) (v : V) : (g.test v).val = r.recognises t v := by
  unfold resolve at resolved
  unfold recognises
  cases entry : r.get? t with
  | none => simp [entry] at resolved
  | some e =>
    obtain ⟨name, kind, guards, incoming⟩ := e
    rw [entry] at resolved
    cases guards with
    | cons first rest =>
      cases resolved
      simp only [Combined.intersect_test, Traced.val_allM]
      cases kind <;> simp [List.all_map, Function.comp_def]
    | nil =>
      cases kind with
      | structural => cases resolved
      | nominal type =>
        cases allowed : r.settings.autoRegister <;> simp [allowed] at resolved
        subst resolved
        simp [instanceTest]

theorem recognises_iff {r : Registry ε V τ} {t : Token} {v : V} :
    r.recognises t v = true ↔ ∃ g, r.resolve t = .ok g ∧ (g.test v).val = true := by
  constructor
  · intro accepts
    have resolved : ∃ g, r.resolve t = .ok g := by
      unfold recognises at accepts
      unfold resolve
      cases entry : r.get? t with
      | none => simp [entry] at accepts
      | some e =>
        obtain ⟨name, kind, guards, incoming⟩ := e
        cases guards with
        | cons => exact ⟨_, rfl⟩
        | nil =>
          cases kind with
          | structural => simp [entry] at accepts
          | nominal type =>
            cases allowed : r.settings.autoRegister with
            | false => simp [entry, allowed] at accepts
            | true => exact ⟨_, rfl⟩
    obtain ⟨g, eq⟩ := resolved
    exact ⟨g, eq, (val_resolve eq v).trans accepts⟩
  · rintro ⟨g, eq, accepts⟩
    exact (val_resolve eq v).symm.trans accepts

end Registry

namespace Slot

variable {r : Registry ε V τ} {declared : List Token} {s : Slot ε V}

theorem entries_of_compile (compiled : Slot.compile r declared = .ok s) :
    s.members.map Member.entry = r.widening declared := by
  obtain ⟨-, -, entries, -⟩ := compile_eq_ok.1 compiled
  rw [entries, r.accepted_eq_widening]

theorem accepted_of_compile (compiled : Slot.compile r declared = .ok s) :
    s.accepted = (r.widening declared).map (·.token) := by
  rw [← entries_of_compile compiled, List.map_map]
  rfl

theorem nodup_accepted (compiled : Slot.compile r declared = .ok s) : s.accepted.Nodup := by
  rw [accepted_of_compile compiled]
  exact r.nodup_widening declared

theorem val_test_of_compile (compiled : Slot.compile r declared = .ok s) (v : V)
    {m : Member ε V} (member : m ∈ s.members) :
    (m.guard.test v).val = r.recognises m.token v :=
  Registry.val_resolve (resolve_of_compile compiled member) v

theorem find?_members (compiled : Slot.compile r declared = .ok s) (v : V) :
    (s.members.find? fun m => (m.guard.test v).val).map Member.entry =
      (r.widening declared).find? (r.recognises ·.token v) := by
  have agree : s.members.find? (fun m => (m.guard.test v).val) =
      s.members.find? (fun m => r.recognises m.token v) := by
    rw [← List.head?_filter, ← List.head?_filter]
    congr 1
    exact List.filter_congr fun m member => val_test_of_compile compiled v member
  rw [← entries_of_compile compiled, List.find?_map, agree]
  rfl

omit [Typed V τ] [DecidableEq τ] in
theorem val_guard_iff (s : Slot ε V) (v : V) :
    (s.guard.test v).val = true ↔ ∃ m ∈ s.members, (m.guard.test v).val = true := by
  rw [guard, Combined.union_test, Traced.val_anyM, List.any_map, List.any_eq_true]
  rfl

theorem val_guard (compiled : Slot.compile r declared = .ok s) (v : V) :
    (s.guard.test v).val = true ↔ ∃ a ∈ r.widening declared, r.recognises a.token v := by
  rw [← entries_of_compile compiled, val_guard_iff]
  constructor
  · rintro ⟨m, member, accepts⟩
    exact ⟨m.entry, List.mem_map_of_mem member, val_test_of_compile compiled v member ▸ accepts⟩
  · rintro ⟨a, listed, accepts⟩
    obtain ⟨m, member, rfl⟩ := List.mem_map.1 listed
    exact ⟨m, member, (val_test_of_compile compiled v member).trans accepts⟩

/-- The slot is marked as widened when some member has a conversion. -/
def Marked (s : Slot ε V) : Prop := s.widened = s.members.any (·.convert?.isSome)

theorem marked_of_compile (compiled : Slot.compile r declared = .ok s) : s.Marked := by
  obtain ⟨-, more, -, -⟩ := compile_eq_ok.1 compiled
  have entries := entries_of_compile compiled
  have length : s.members.length = (r.widening declared).length := by
    rw [← entries, List.length_map]
  have conversions : s.members.any (·.convert?.isSome) =
      (r.widening declared).any (·.convert?.isSome) := by
    rw [← entries, List.any_map]
    rfl
  rw [Marked, more, length, conversions, Bool.eq_iff_iff, decide_eq_true_iff, ← not_iff_not,
    Nat.not_lt, ← Registry.forall_convert?_eq_none_iff]
  simp

omit [Typed V τ] [DecidableEq τ] in
/-- A slot without conversions would find none either. -/
theorem Marked.val_conversionFor?_eq_find? (marked : s.Marked) (v : V) : (s.conversionFor? v).val =
    (s.members.find? fun m => (m.guard.test v).val).bind (·.convert?) := by
  unfold conversionFor?
  split
  · rw [Traced.val_bind, Traced.val_findM?, Traced.val_pure]
  · rename_i plain
    cases first : s.members.find? fun m => (m.guard.test v).val with
    | none => rfl
    | some m =>
      have member := List.mem_of_find?_eq_some first
      have : m.convert? = none := by
        rw [Marked] at marked
        simp only [marked, List.any_eq_true, not_exists, not_and] at plain
        simpa using plain m member
      simp [this]

theorem val_conversionFor? (compiled : Slot.compile r declared = .ok s) (v : V) :
    (s.conversionFor? v).val =
      ((r.widening declared).find? (r.recognises ·.token v)).bind (·.convert?) := by
  rw [← find?_members compiled v, (marked_of_compile compiled).val_conversionFor?_eq_find?,
    Option.bind_map]
  rfl

theorem val_convert (compiled : Slot.compile r declared = .ok s) (v : V) :
    (s.convert v).val = r.handOver declared v := by
  rw [convert, Traced.val_bind, val_conversionFor? compiled, Registry.handOver]
  cases ((r.widening declared).find? (r.recognises ·.token v)).bind (·.convert?) <;> rfl

end Slot

/-- Each argument belongs to an accepted type of the parameter at its place. -/
def Registry.Fits (r : Registry ε V τ) : List (List Token) → List V → Prop :=
  List.Forall₂ fun declared v => ∃ a ∈ r.widening declared, r.recognises a.token v

instance (r : Registry ε V τ) (params : List (List Token)) (args : List V) :
    Decidable (r.Fits params args) :=
  inferInstanceAs (Decidable (List.Forall₂ _ params args))

section Parameters

variable {r : Registry ε V τ} {params : List (List Token)} {slots : List (Slot ε V)}

theorem fits_iff
    (compiled : List.Forall₂ (fun declared slot => Slot.compile r declared = .ok slot) params slots)
    (args : List V) : r.Fits params args ↔
      List.Forall₂ (fun s v => (s.guard.test v).val = true) slots args := by
  induction compiled generalizing args with
  | nil => simp [Registry.Fits]
  | cons slot _ ih =>
    cases args with
    | nil => simp [Registry.Fits]
    | cons v args =>
      rw [List.forall₂_cons, ← ih, Slot.val_guard slot, Registry.Fits, List.forall₂_cons]

theorem Signature.val_accepts {s : Signature ε V}
    (compiled : List.Forall₂ (fun declared slot => Slot.compile r declared = .ok slot) params
      s.slots) (args : List V) : (s.accepts args).val = true ↔ r.Fits params args := by
  rw [accepts, val_tuple, List.forall₂_map_left_iff, fits_iff compiled]

theorem val_convertAll
    (compiled : List.Forall₂ (fun declared slot => Slot.compile r declared = .ok slot) params slots)
    (args : List V) : (Slot.convertAll slots args).val =
      List.zipWith r.handOver params args ++ args.drop params.length := by
  induction compiled generalizing args with
  | nil => simp [Slot.convertAll]
  | cons slot _ ih =>
    cases args with
    | nil => simp [Slot.convertAll]
    | cons v args => simp [Slot.convertAll, Slot.val_convert slot, ih]

end Parameters

end MultiDispatch

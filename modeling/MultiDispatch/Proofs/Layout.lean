import MultiDispatch.Proofs.Selection

/-! When arguments are converted. A slot lists its declared types before all others, and exactly the
others have conversions. So a value needs a conversion when the slot takes it and no declared type
does, and it gets that of the first of the others that takes it. In a list of arguments each is
converted for itself. -/
namespace MultiDispatch

variable {ε V τ : Type}

namespace Slot

/-- A type of the list, which the slot accepts, takes the value. -/
def TakesAs (s : Slot ε V) (types : List Token) (v : V) : Prop :=
  ∃ m ∈ s.members, m.token ∈ types ∧ (m.guard.test v).val = true

/-- The slot takes the value, but none of its declared types does. -/
def Needs (s : Slot ε V) (declared : List Token) (v : V) : Prop :=
  (s.guard.test v).val = true ∧ ¬ s.TakesAs declared v

/-- The first type beyond the declared ones that takes the value. -/
def widenedTaker? (s : Slot ε V) (declared : List Token) (v : V) : Option (Member ε V) :=
  s.members.find? fun m => decide (m.token ∉ declared) && (m.guard.test v).val

/-- What a row of slots makes of the value at one position. Positions beyond it are left alone. -/
def changeAt (slots : List (Slot ε V)) (i : Nat) (v : V) : V :=
  match slots[i]? with
  | some s => (s.convert v).val
  | none => v

theorem getElem?_convertAll (slots : List (Slot ε V)) (args : List V) (i : Nat) :
    (convertAll slots args).val[i]? = args[i]?.map (changeAt slots i) := by
  induction slots generalizing args i with
  | nil => exact (Option.map_id_apply).symm
  | cons s slots ih =>
    cases args with
    | nil => simp [convertAll]
    | cons v args =>
      cases i with
      | zero => rfl
      | succ i => exact ih args i

theorem length_convertAll (slots : List (Slot ε V)) (args : List V) :
    (convertAll slots args).val.length = args.length := by
  induction slots generalizing args with
  | nil => simp [convertAll]
  | cons s slots ih =>
    cases args with
    | nil => simp [convertAll]
    | cons v args => simp [convertAll, ih]

theorem changeAt_of_le {slots : List (Slot ε V)} {i : Nat} (beyond : slots.length ≤ i) (v : V) :
    changeAt slots i v = v := by
  rw [changeAt, List.getElem?_eq_none beyond]

theorem changeAt_of_slot {slots : List (Slot ε V)} {i : Nat} {s : Slot ε V}
    (here : slots[i]? = some s) (v : V) : changeAt slots i v =
      match (s.conversionFor? v).val with
      | some conversion => (conversion v).val
      | none => v := by
  rw [changeAt, here]
  show (s.convert v).val = _
  rw [convert, Traced.val_bind]
  cases (s.conversionFor? v).val <;> rfl

/-- Declared members come before the others, and only the others have conversions. -/
structure Layout (s : Slot ε V) (declared : List Token) (plain widened : List (Member ε V)) :
    Prop where
  members : s.members = plain ++ widened
  tokens : plain.map (·.token) = declared.eraseDups
  plain : ∀ m ∈ plain, m.token ∈ declared ∧ m.convert? = none
  widened : ∀ m ∈ widened, m.token ∉ declared ∧ ∃ conversion, m.convert? = some conversion
  marked : s.Marked

namespace Layout

variable {s : Slot ε V} {declared : List Token} {plain widened : List (Member ε V)}
  (layout : s.Layout declared plain widened)

include layout

theorem takesAs_iff {v : V} :
    s.TakesAs declared v ↔ ∃ m ∈ plain, (m.guard.test v).val = true := by
  unfold TakesAs
  rw [layout.members]
  constructor
  · rintro ⟨m, member, listed, takes⟩
    rcases List.mem_append.1 member with here | there
    · exact ⟨m, here, takes⟩
    · exact absurd listed (layout.widened m there).1
  · rintro ⟨m, member, takes⟩
    exact ⟨m, List.mem_append_left _ member, (layout.plain m member).1, takes⟩

theorem widenedTaker?_eq (v : V) :
    s.widenedTaker? declared v = widened.find? fun m => (m.guard.test v).val := by
  have skipped : plain.find? (fun m => decide (m.token ∉ declared) && (m.guard.test v).val) =
      none := List.find?_eq_none.2 fun m member => by simp [(layout.plain m member).1]
  have undeclared : widened.find? (fun m => decide (m.token ∉ declared) && (m.guard.test v).val) =
      widened.find? fun m => (m.guard.test v).val := by
    rw [← List.head?_filter, ← List.head?_filter]
    congr 1
    exact List.filter_congr fun m member => by simp [(layout.widened m member).1]
  rw [widenedTaker?, layout.members, List.find?_append, skipped, Option.none_or, undeclared]

theorem accepted : s.accepted = declared.eraseDups ++ widened.map (·.token) := by
  rw [Slot.accepted, layout.members, List.map_append, layout.tokens]

theorem widened_iff : s.widened = true ↔ widened ≠ [] := by
  have mark : s.widened = s.members.any (·.convert?.isSome) := layout.marked
  rw [mark, layout.members, List.any_append, Bool.or_eq_true, List.any_eq_true,
    List.any_eq_true]
  constructor
  · rintro (⟨m, member, converts⟩ | ⟨m, member, _⟩)
    · rw [(layout.plain m member).2] at converts
      cases converts
    · exact List.ne_nil_of_mem member
  · intro some
    obtain ⟨m, member⟩ := List.exists_mem_of_ne_nil _ some
    obtain ⟨_, conversion, converts⟩ := layout.widened m member
    exact .inr ⟨m, member, by rw [converts]; rfl⟩

/-- A declared type that takes the value is found before any other, and has no conversion. -/
theorem conversionFor?_of_takesAs {v : V} (takes : s.TakesAs declared v) :
    (s.conversionFor? v).val = none := by
  obtain ⟨m, member, accepts⟩ := layout.takesAs_iff.1 takes
  have found : (plain.find? fun m => (m.guard.test v).val).isSome :=
    List.find?_isSome.2 ⟨m, member, accepts⟩
  obtain ⟨first, eq⟩ := Option.isSome_iff_exists.1 found
  rw [layout.marked.val_conversionFor?_eq_find?, layout.members, List.find?_append, eq,
    Option.some_or]
  exact (layout.plain first (List.mem_of_find?_eq_some eq)).2

theorem conversionFor?_of_not_needs {v : V} (unneeded : ¬ s.Needs declared v) :
    (s.conversionFor? v).val = none := by
  by_cases takes : s.TakesAs declared v
  · exact layout.conversionFor?_of_takesAs takes
  · have nobody : s.members.find? (fun m => (m.guard.test v).val) = none := by
      refine List.find?_eq_none.2 fun m member accepts => unneeded ⟨?_, takes⟩
      exact (s.val_guard_iff v).2 ⟨m, member, accepts⟩
    rw [layout.marked.val_conversionFor?_eq_find?, nobody]
    rfl

theorem conversionFor?_of_needs {v : V} (needs : s.Needs declared v) :
    ∃ m conversion, s.widenedTaker? declared v = some m ∧ m.convert? = some conversion ∧
      (s.conversionFor? v).val = some conversion := by
  obtain ⟨accepted, refused⟩ := needs
  have nobody : plain.find? (fun m => (m.guard.test v).val) = none :=
    List.find?_eq_none.2 fun m member takes => refused (layout.takesAs_iff.2 ⟨m, member, takes⟩)
  have search : s.members.find? (fun m => (m.guard.test v).val) = s.widenedTaker? declared v := by
    rw [layout.members, List.find?_append, nobody, Option.none_or, layout.widenedTaker?_eq]
  have found : (s.members.find? fun m => (m.guard.test v).val).isSome :=
    List.find?_isSome.2 ((s.val_guard_iff v).1 accepted)
  obtain ⟨m, first⟩ := Option.isSome_iff_exists.1 found
  have taker : s.widenedTaker? declared v = some m := search.symm.trans first
  have member : m ∈ widened :=
    List.mem_of_find?_eq_some ((layout.widenedTaker?_eq v).symm.trans taker)
  obtain ⟨_, conversion, converts⟩ := layout.widened m member
  refine ⟨m, conversion, taker, converts, ?_⟩
  rw [layout.marked.val_conversionFor?_eq_find?, first]
  exact converts

end Layout

section Compiled

variable [Typed V τ] [DecidableEq τ] {r : Registry ε V τ} {declared : List Token} {s : Slot ε V}
  (compiled : Slot.compile r declared = .ok s)

include compiled

theorem exists_layout : ∃ plain widened, s.Layout declared plain widened := by
  have entries := entries_of_compile compiled
  have nodup := r.nodup_widening declared
  obtain ⟨others, split⟩ := r.declared_prefix_widening declared
  rw [← split] at entries
  rw [← split, List.map_append, Accepted.map_declared, List.nodup_append] at nodup
  obtain ⟨plain, widened, members, first, rest⟩ := List.map_eq_append_iff.1 entries
  refine ⟨plain, widened, members, ?_, fun m member => ?_, fun m member => ?_,
    marked_of_compile compiled⟩
  · rw [← Accepted.map_declared (ε := ε) (V := V), ← first, List.map_map]
    rfl
  · exact Accepted.mem_declared.1 (first ▸ List.mem_map_of_mem member)
  · have other : m.entry ∈ others := rest ▸ List.mem_map_of_mem member
    have undeclared : m.token ∉ declared := fun listed =>
      nodup.2.2 m.token (List.mem_eraseDups.2 listed) m.token (List.mem_map_of_mem other) rfl
    have accepted : m.entry ∈ r.widening declared := split ▸ List.mem_append_right _ other
    have converts := (not_congr (Registry.convert?_eq_none_iff accepted)).2 undeclared
    exact ⟨undeclared, Option.ne_none_iff_exists'.1 converts⟩

/-- A slot is widened when it accepts a type that is not declared. -/
theorem widened_iff_exists : s.widened = true ↔ ∃ t ∈ s.accepted, t ∉ declared := by
  obtain ⟨plain, widened, layout⟩ := exists_layout compiled
  rw [layout.widened_iff, layout.accepted]
  constructor
  · intro some
    obtain ⟨m, member⟩ := List.exists_mem_of_ne_nil _ some
    exact ⟨m.token, List.mem_append_right _ (List.mem_map_of_mem member),
      (layout.widened m member).1⟩
  · rintro ⟨t, accepted, other⟩
    rcases List.mem_append.1 accepted with listed | beyond
    · exact absurd (List.mem_eraseDups.1 listed) other
    · exact List.map_eq_nil_iff.not.1 (List.ne_nil_of_mem beyond)

/-- Whether a value needs a conversion, read off the registry. -/
theorem needs_iff (v : V) : s.Needs declared v ↔
    (∃ a ∈ r.widening declared, r.recognises a.token v) ∧
      ∀ t ∈ declared, r.recognises t v = false := by
  have takes : s.TakesAs declared v ↔ ∃ t ∈ declared, r.recognises t v = true := by
    constructor
    · rintro ⟨m, member, listed, accepts⟩
      exact ⟨m.token, listed, (val_test_of_compile compiled v member).symm.trans accepts⟩
    · rintro ⟨t, listed, accepts⟩
      have accepted : t ∈ s.accepted := by
        rw [accepted_of_compile compiled]
        refine ((r.declared_prefix_widening declared).map (·.token)).subset ?_
        rwa [Accepted.map_declared, List.mem_eraseDups]
      obtain ⟨m, member, rfl⟩ := List.mem_map.1 accepted
      exact ⟨m, member, listed, (val_test_of_compile compiled v member).trans accepts⟩
  rw [Needs, val_guard compiled, takes]
  simp only [not_exists, not_and, Bool.not_eq_true]

theorem needs_of_conversionFor? {v : V} {conversion : Conversion ε V}
    (converts : (s.conversionFor? v).val = some conversion) : s.Needs declared v := by
  obtain ⟨plain, widened, layout⟩ := exists_layout compiled
  by_contra unneeded
  rw [layout.conversionFor?_of_not_needs unneeded] at converts
  cases converts

theorem exists_conversionFor?_iff (v : V) :
    (∃ conversion, (s.conversionFor? v).val = some conversion) ↔ s.Needs declared v := by
  obtain ⟨plain, widened, layout⟩ := exists_layout compiled
  constructor
  · rintro ⟨conversion, converts⟩
    exact needs_of_conversionFor? compiled converts
  · intro needs
    obtain ⟨_, conversion, _, _, converts⟩ := layout.conversionFor?_of_needs needs
    exact ⟨conversion, converts⟩

theorem widenedTaker?_of_conversionFor? {v : V} {conversion : Conversion ε V}
    (converts : (s.conversionFor? v).val = some conversion) :
    ∃ m, s.widenedTaker? declared v = some m ∧ m.convert? = some conversion := by
  obtain ⟨plain, widened, layout⟩ := exists_layout compiled
  obtain ⟨m, _, taker, found, same⟩ :=
    layout.conversionFor?_of_needs (needs_of_conversionFor? compiled converts)
  exact ⟨m, taker, found.trans (same.symm.trans converts)⟩

variable {slots : List (Slot ε V)} {i : Nat} (here : slots[i]? = some s) {v : V}

include here

theorem changeAt_of_not_needs (unneeded : ¬ s.Needs declared v) : changeAt slots i v = v := by
  obtain ⟨plain, widened, layout⟩ := exists_layout compiled
  rw [changeAt_of_slot here, layout.conversionFor?_of_not_needs unneeded]

theorem changeAt_of_needs (needs : s.Needs declared v) : ∃ m conversion,
    s.widenedTaker? declared v = some m ∧ m.convert? = some conversion ∧
      changeAt slots i v = (conversion v).val := by
  obtain ⟨plain, widened, layout⟩ := exists_layout compiled
  obtain ⟨m, conversion, taker, found, converts⟩ := layout.conversionFor?_of_needs needs
  exact ⟨m, conversion, taker, found, by rw [changeAt_of_slot here, converts]⟩

end Compiled

end Slot

/-- A slot converts a value exactly when it takes the value and none of its declared types does, and
then by the conversion of the first other type that takes it. A candidate keeps the length of an
argument list, whether it accepts the list or not, and changes each argument without regard to the
others: not at all beyond its last parameter, where the slot refuses the argument, or where a
declared type takes it. -/
theorem Candidate.convertArgs_pointwise [Typed V τ] [DecidableEq τ] (r : Registry ε V τ) :
    (∀ declared s, Slot.compile r declared = .ok s → declared.eraseDups <+: s.accepted ∧ ∀ v,
      ((∃ conversion, (s.conversionFor? v).val = some conversion) ↔ s.Needs declared v) ∧
      ∀ conversion, (s.conversionFor? v).val = some conversion →
        ∃ m, s.widenedTaker? declared v = some m ∧ m.convert? = some conversion) ∧
    ∀ o c, Candidate.compile r o = .ok c → ∃ change : Nat → V → V,
      (∀ args, (c.convertArgs args).val.length = args.length ∧
        ∀ i : Nat, (c.convertArgs args).val[i]? = args[i]?.map (change i)) ∧
      (∀ i v, c.arity ≤ i → change i v = v) ∧
      ∀ (i : Nat) s, c.signature.slots[i]? = some s → ∃ declared,
        o.params[i]? = some declared ∧ Slot.compile r declared = .ok s ∧ ∀ v,
          ((s.guard.test v).val = false → change i v = v) ∧
          (s.TakesAs declared v → change i v = v) ∧
          (s.Needs declared v → ∃ m conversion, s.widenedTaker? declared v = some m ∧
            m.convert? = some conversion ∧ change i v = (conversion v).val) := by
  constructor
  · intro declared s compiled
    obtain ⟨plain, widened, layout⟩ := Slot.exists_layout compiled
    exact ⟨⟨_, layout.accepted.symm⟩, fun v => ⟨Slot.exists_conversionFor?_iff compiled v,
      fun _ => Slot.widenedTaker?_of_conversionFor? compiled⟩⟩
  · intro o c compiled
    refine ⟨Slot.changeAt c.signature.slots, fun args => ⟨Slot.length_convertAll _ args, fun i =>
      Slot.getElem?_convertAll _ args i⟩, fun i v beyond => Slot.changeAt_of_le beyond v,
      fun i s here => ?_⟩
    obtain ⟨declared, param, slot⟩ :=
      exists_getElem?_of_forall₂ (Candidate.compile_eq_ok.1 compiled).2.flip here
    refine ⟨declared, param, slot, fun v => ⟨fun refused => ?_, fun takes => ?_, fun needs => ?_⟩⟩
    · refine Slot.changeAt_of_not_needs slot here fun needs => ?_
      rw [needs.1] at refused
      cases refused
    · exact Slot.changeAt_of_not_needs slot here fun needs => needs.2 takes
    · exact Slot.changeAt_of_needs slot here needs

namespace Amount

/-- The first argument needs a conversion. The second suits no type of its parameter, and for the
third there is no parameter. -/
theorem convertArgs_pointwise_units :
    ∃ c s, Candidate.compile units measure.overloads[1] = .ok c ∧
      Slot.compile units [⟨0, 0⟩] = .ok s ∧
      (∃ conversion, (s.conversionFor? ⟨3, 1⟩).val = some conversion) ∧
      ¬ (∃ conversion, (s.conversionFor? ⟨0, 1⟩).val = some conversion) ∧
      (c.convertArgs [⟨3, 1⟩, ⟨7, 1⟩, ⟨3, 1⟩]).val.length = 3 ∧
      (c.convertArgs [⟨3, 1⟩, ⟨7, 1⟩, ⟨3, 1⟩]).val[1]? = some ⟨7, 1⟩ ∧
      (c.convertArgs [⟨3, 1⟩, ⟨7, 1⟩, ⟨3, 1⟩]).val[2]? = some ⟨3, 1⟩ := by
  have compiles : ∃ c s, Candidate.compile units measure.overloads[1] = .ok c ∧
      Slot.compile units [⟨0, 0⟩] = .ok s := by
    unfold Candidate.compile Signature.compile Slot.compile
    simp only [Registry.accepted_eq_widening]
    exact ⟨_, _, rfl, rfl⟩
  obtain ⟨c, s, candidate, slot⟩ := compiles
  obtain ⟨slots, candidates⟩ := Candidate.convertArgs_pointwise units
  have converts := (slots [⟨0, 0⟩] s slot).2
  obtain ⟨change, pointwise, beyond, kept⟩ := candidates _ c candidate
  obtain ⟨length, each⟩ := pointwise [⟨3, 1⟩, ⟨7, 1⟩, ⟨3, 1⟩]
  have parameters := (Candidate.compile_eq_ok.1 candidate).2
  obtain ⟨u, here, _⟩ := exists_getElem?_of_forall₂ parameters (k := 1) rfl
  obtain ⟨_, ⟨⟩, other, same⟩ := kept 1 u here
  have refused : (u.guard.test ⟨7, 1⟩).val = false := by
    rw [← Bool.not_eq_true, Slot.val_guard other]
    decide
  have arity : c.arity ≤ 2 := Nat.le_of_eq parameters.length_eq.symm
  refine ⟨c, s, candidate, slot, (converts _).1.2 ?_, fun found => ?_, length, ?_, ?_⟩
  · rw [Slot.needs_iff slot]
    decide
  · have needs := (converts _).1.1 found
    rw [Slot.needs_iff slot] at needs
    revert needs
    decide
  · rw [each]
    exact congrArg some ((same _).1 refused)
  · rw [each]
    exact congrArg some (beyond 2 _ arity)

end Amount

end MultiDispatch

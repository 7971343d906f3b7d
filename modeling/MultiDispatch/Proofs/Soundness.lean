import MultiDispatch.Proofs.Selection

/-! Conversions keep their promise. When every edge turns values of its source into values of its
target, whatever a candidate accepts is handed over as values of declared types, along chains of any
length. -/
namespace MultiDispatch

variable {ε V τ : Type} [Typed V τ] [DecidableEq τ] {r : Registry ε V τ}

namespace Registry

/-- Every registered edge turns what the guard of its source accepts into what the guard of its
target accepts. Nothing is asked of edges from or to types without a guard. -/
def SoundEdges (r : Registry ε V τ) : Prop :=
  ∀ e ∈ r.edges, ∀ source target, r.resolve e.source = .ok source →
    r.resolve e.target = .ok target → ∀ v, (source.test v).val = true →
      (target.test (e.converter.apply v).val).val = true

theorem recognises_apply (reachable : r.Reachable) (sound : r.SoundEdges) {t : Token}
    (resolves : ∃ g, r.resolve t = .ok g) {e : Edge ε V} (into : e ∈ r.edgesInto t) {v : V}
    (accepts : r.recognises e.source v = true) :
    r.recognises t (e.converter.apply v).val = true := by
  obtain ⟨registered, rfl⟩ := reachable.mem_edgesInto.1 into
  obtain ⟨source, resolved, passes⟩ := recognises_iff.1 accepts
  obtain ⟨target, eq⟩ := resolves
  exact recognises_iff.2 ⟨target, eq, sound e registered source target resolved eq v passes⟩

/-- The conversion of an accepted type leads from its values to values of a declared type. -/
theorem recognises_convert (reachable : r.Reachable) (sound : r.SoundEdges)
    {declared : List Token} {n : Nat}
    (resolves : ∀ a ∈ r.rounds (Accepted.declared declared) n, ∃ g, r.resolve a.token = .ok g)
    {a : Accepted ε V} (member : a ∈ r.rounds (Accepted.declared declared) n)
    {conversion : Conversion ε V} (convert : a.convert? = some conversion) {v : V}
    (accepts : r.recognises a.token v = true) :
    ∃ t ∈ declared, r.recognises t (conversion v).val = true := by
  induction n generalizing a conversion v with
  | zero =>
    have plain := (Accepted.mem_declared.1 member).2
    rw [convert] at plain
    cases plain
  | succ n ih =>
    have before : ∀ b ∈ r.rounds (Accepted.declared declared) n, ∃ g, r.resolve b.token = .ok g :=
      fun b held => resolves b ((r.prefix_round _).subset held)
    rcases mem_rounds_succ member with old | ⟨b, held, e, into, source, through⟩
    · exact ih before old convert accepts
    · have arrives := recognises_apply reachable sound (before b held) into (source ▸ accepts)
      obtain rfl := Option.some.inj (convert.symm.trans through)
      cases onward : b.convert? with
      | none => exact ⟨b.token, declared_of_convert?_eq_none held onward, arrives⟩
      | some next => exact ih before held onward arrives

theorem recognises_handOver (reachable : r.Reachable) (sound : r.SoundEdges)
    {declared : List Token} (resolves : ∀ a ∈ r.widening declared, ∃ g, r.resolve a.token = .ok g)
    {v : V} (accepted : ∃ a ∈ r.widening declared, r.recognises a.token v = true) :
    ∃ t ∈ declared, r.recognises t (r.handOver declared v) = true := by
  obtain ⟨n, eq⟩ := r.widening_eq_rounds declared
  unfold handOver
  cases first : (r.widening declared).find? (r.recognises ·.token v) with
  | none =>
    obtain ⟨a, member, accepts⟩ := accepted
    exact absurd accepts (List.find?_eq_none.1 first a member)
  | some a =>
    have accepts : r.recognises a.token v = true := by simpa using List.find?_some first
    have member := List.mem_of_find?_eq_some first
    rw [eq] at member resolves
    rw [Option.bind_some]
    cases convert : a.convert? with
    | none => exact ⟨a.token, declared_of_convert?_eq_none member convert, accepts⟩
    | some conversion =>
      exact recognises_convert reachable sound resolves member convert accepts

/-- What a declared type recognises is handed over as it is: declared types are asked first. -/
theorem handOver_of_declared {declared : List Token} {v : V}
    (accepted : ∃ t ∈ declared, r.recognises t v = true) : r.handOver declared v = v := by
  obtain ⟨others, split⟩ := r.declared_prefix_widening declared
  obtain ⟨t, member, accepts⟩ := accepted
  have listed : ⟨t, none⟩ ∈ (Accepted.declared declared : List (Accepted ε V)) :=
    Accepted.mem_declared.2 ⟨member, rfl⟩
  unfold handOver
  rw [← split, List.find?_append]
  cases first : (Accepted.declared declared).find? (r.recognises ·.token v) with
  | none => exact absurd accepts (List.find?_eq_none.1 first _ listed)
  | some a =>
    have plain := (Accepted.mem_declared.1 (List.mem_of_find?_eq_some first)).2
    simp [plain]

end Registry

theorem Slot.resolves_of_compile {declared : List Token} {s : Slot ε V}
    (compiled : Slot.compile r declared = .ok s) {a : Accepted ε V}
    (member : a ∈ r.widening declared) : ∃ g, r.resolve a.token = .ok g := by
  rw [← entries_of_compile compiled] at member
  obtain ⟨m, listed, rfl⟩ := List.mem_map.1 member
  exact ⟨m.guard, resolve_of_compile compiled listed⟩

theorem declared_of_fits {params : List (List Token)} {slots : List (Slot ε V)} {args : List V}
    (compiled : List.Forall₂ (fun declared slot => Slot.compile r declared = .ok slot) params slots)
    (reachable : r.Reachable) (sound : r.SoundEdges) (fits : r.Fits params args) :
    List.Forall₂ (fun declared v => ∃ t ∈ declared, r.recognises t v = true) params
      (List.zipWith r.handOver params args) := by
  induction compiled generalizing args with
  | nil => cases fits; exact .nil
  | cons slot _ ih =>
    cases fits with
    | cons accepted fits =>
      have resolves a member := Slot.resolves_of_compile slot (a := a) member
      exact .cons (Registry.recognises_handOver reachable sound resolves accepted) (ih fits)

section Declared

variable {params : List (List Token)} {args : List V}
  (declared : List.Forall₂ (fun ts v => ∃ t ∈ ts, r.recognises t v = true) params args)

include declared

theorem fits_of_declared : r.Fits params args := by
  refine declared.imp fun ts v ⟨t, member, accepts⟩ => ?_
  have listed := Accepted.mem_declared (ε := ε) (V := V) (a := ⟨t, none⟩).2 ⟨member, rfl⟩
  exact ⟨_, (r.declared_prefix_widening ts).subset listed, accepts⟩

theorem zipWith_handOver_of_declared : List.zipWith r.handOver params args = args := by
  induction declared with
  | nil => rfl
  | cons accepted _ ih => rw [List.zipWith_cons_cons, Registry.handOver_of_declared accepted, ih]

end Declared

/-- Where all edges are sound, the arguments that a candidate accepts become values of types that
its parameters declare. The candidate accepts these again and would not change them. -/
theorem Candidate.convertArgs_sound (r : Registry ε V τ) (reachable : r.Reachable)
    (sound : r.SoundEdges) (o : Overload ε V) (c : Candidate ε V)
    (compiled : Candidate.compile r o = .ok c) (args : List V)
    (accepted : (c.accepts args).val = true) :
    List.Forall₂ (fun declared v => ∃ t ∈ declared, ∃ g, r.resolve t = .ok g ∧
        (g.test v).val = true) o.params (c.convertArgs args).val ∧
      (c.accepts (c.convertArgs args).val).val = true ∧
      (c.convertArgs (c.convertArgs args).val).val = (c.convertArgs args).val := by
  have slots := (Candidate.compile_eq_ok.1 compiled).2
  have fits := (Candidate.val_accepts compiled args).1 accepted
  have converted := Candidate.val_convertArgs compiled (List.Forall₂.length_eq fits)
  have declared := declared_of_fits slots reachable sound fits
  rw [← converted] at declared
  refine ⟨?_, ?_, ?_⟩
  · exact declared.imp fun ts v ⟨t, member, accepts⟩ =>
      ⟨t, member, Registry.recognises_iff.1 accepts⟩
  · exact (Candidate.val_accepts compiled _).2 (fits_of_declared declared)
  · rw [Candidate.val_convertArgs compiled declared.length_eq,
      zipWith_handOver_of_declared declared]

namespace Amount

theorem soundEdges_units : units.SoundEdges := by
  have arrives : units.edges.Forall fun e =>
      ∀ v, units.recognises e.target (e.converter.apply v).val = true :=
    ⟨fun _ => rfl, fun _ => rfl, fun _ => rfl, fun _ => rfl, fun _ => rfl, fun _ => rfl,
      fun _ => rfl⟩
  intro e registered source target _ resolved v _
  rw [Registry.val_resolve resolved]
  exact List.forall_iff_forall_mem.1 arrives e registered v

theorem convertArgs_sound_units :
    ∃ c, Candidate.compile units measure.overloads[1] = .ok c ∧
      (c.convertArgs [⟨3, 1⟩, ⟨3, 1⟩]).val = [⟨0, 10⟩, ⟨4, 17⟩] ∧
      (c.accepts [⟨0, 10⟩, ⟨4, 17⟩]).val = true ∧
      (c.convertArgs [⟨0, 10⟩, ⟨4, 17⟩]).val = [⟨0, 10⟩, ⟨4, 17⟩] := by
  have compiles : ∃ c, Candidate.compile units measure.overloads[1] = .ok c := by
    unfold Candidate.compile Signature.compile Slot.compile
    simp only [Registry.accepted_eq_widening]
    exact ⟨_, rfl⟩
  obtain ⟨c, compiled⟩ := compiles
  have accepted : (c.accepts [⟨3, 1⟩, ⟨3, 1⟩]).val = true :=
    (Candidate.val_accepts compiled _).2 (by decide)
  have converted : (c.convertArgs [⟨3, 1⟩, ⟨3, 1⟩]).val = [⟨0, 10⟩, ⟨4, 17⟩] :=
    (Candidate.val_convertArgs compiled rfl).trans (by decide)
  have sound := Candidate.convertArgs_sound units units_reachable soundEdges_units _ c compiled
    [⟨3, 1⟩, ⟨3, 1⟩] accepted
  rw [converted] at sound
  exact ⟨c, compiled, converted, sound.2⟩

end Amount

end MultiDispatch

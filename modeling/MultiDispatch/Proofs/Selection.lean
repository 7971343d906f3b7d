import MultiDispatch.Proofs.Pointwise
import MultiDispatch.Proofs.Recognition

/-! Which candidate a call runs. The arity index hands out the candidates of one arity in their
order, and no other candidate could accept, so the winner is the first of all that accepts. -/
namespace MultiDispatch

variable {ε V τ : Type}

namespace ArityIndex

theorem lookup_fileAll (x : ArityIndex) (arities : List Nat) (position k : Nat) :
    (x.fileAll arities position).lookup k =
      x.lookup k ++ ((arities.zipIdx position).filter (·.1 = k)).map (·.2) := by
  induction arities generalizing x position with
  | nil => simp [fileAll]
  | cons arity arities ih =>
    rw [fileAll, ih, lookup_insert, List.zipIdx_cons]
    by_cases same : k = arity
    · subst same; simp
    · simp [same, Ne.symm same]

theorem lookup_ofArities (arities : List Nat) (k : Nat) :
    (ofArities arities).lookup k = (arities.zipIdx.filter (·.1 = k)).map (·.2) := by
  rw [ofArities, lookup_fileAll, lookup_empty, List.nil_append]

end ArityIndex

theorem Signature.length_of_accepts {s : Signature ε V} {args : List V}
    (accepted : (s.accepts args).val = true) : s.arity = args.length := by
  have := (val_tuple.1 accepted).length_eq
  simpa [arity] using this

theorem find?_zipIdx {α : Type} (p : α → Bool) {xs : List α} {a : α} {k : Nat} :
    xs.zipIdx.find? (fun x => p x.1) = some (a, k) ↔
      xs[k]? = some a ∧ p a = true ∧ ∀ j b, j < k → xs[j]? = some b → p b = false := by
  rw [List.find?_eq_some_iff_getElem]
  constructor
  · rintro ⟨accepts, i, bound, here, before⟩
    rw [List.length_zipIdx] at bound
    simp only [List.getElem_zipIdx, Nat.zero_add, Prod.mk.injEq] at here before
    obtain ⟨rfl, rfl⟩ := here
    refine ⟨List.getElem?_eq_getElem bound, accepts, fun j b lt at_ => ?_⟩
    obtain ⟨_, rfl⟩ := List.getElem?_eq_some_iff.1 at_
    simpa using before j lt
  · rintro ⟨here, accepts, before⟩
    obtain ⟨bound, rfl⟩ := List.getElem?_eq_some_iff.1 here
    refine ⟨accepts, k, by rwa [List.length_zipIdx], by simp, fun j lt => ?_⟩
    simpa using before j _ lt (List.getElem?_eq_getElem (Nat.lt_trans lt bound))

theorem fst_find?_zipIdx {α : Type} (p : α → Bool) (xs : List α) :
    (xs.zipIdx.find? fun x => p x.1).map Prod.fst = xs.find? p := by
  conv_rhs => rw [← List.zipIdx_map_fst 0 xs, List.find?_map]
  rfl

namespace Dispatcher

/-- The candidates of one arity with their positions, as a search through all of them finds them. -/
theorem ofArity_eq {f : Dispatcher ε V}
    (indexed : f.index = .ofArities (f.candidates.map (·.arity))) (k : Nat) :
    f.ofArity k = (f.candidates.zipIdx.filter (·.1.arity = k)).map Prod.swap := by
  have placed (cs : List (Candidate ε V × Nat))
      (each : ∀ p ∈ cs, f.candidates[p.2]? = some p.1) :
      cs.filterMap (fun p => f.candidates[p.2]?.map (p.2, ·)) = cs.map Prod.swap := by
    induction cs with
    | nil => rfl
    | cons p cs ih =>
      rw [List.filterMap_cons, each p List.mem_cons_self, ih fun q member =>
        each q (List.mem_cons_of_mem _ member)]
      rfl
  rw [ofArity, indexed, ArityIndex.lookup_ofArities, List.zipIdx_map, List.filter_map,
    List.map_map, List.filterMap_map]
  exact placed _ fun p member => List.mem_zipIdx_iff_getElem?.1 (List.mem_of_mem_filter member)

variable [Typed V τ]

theorem val_select {f : Dispatcher ε V}
    (indexed : f.index = .ofArities (f.candidates.map (·.arity))) (args : List V) :
    (f.select args).val =
      match f.candidates.zipIdx.find? fun p => (p.1.accepts args).val with
      | some (c, i) => .ok (i, c)
      | none => .error (f.noMatch args).val := by
  have asked (p : Candidate ε V × Nat) :
      decide (decide (p.1.arity = args.length) = true ∧ (p.1.accepts args).val = true) =
        (p.1.accepts args).val := by
    rw [Bool.eq_iff_iff, decide_eq_true_iff, decide_eq_true_iff, and_iff_right_iff_imp]
    exact fun accepted => Signature.length_of_accepts accepted
  have winner : (f.ofArity args.length).find? (fun p => (p.2.accepts args).val) =
      (f.candidates.zipIdx.find? fun p => (p.1.accepts args).val).map Prod.swap := by
    rw [ofArity_eq indexed, List.find?_map, List.find?_filter]
    simp only [Function.comp_def, Prod.snd_swap, asked]
  rw [select, Traced.val_bind, Traced.val_findM?, winner]
  cases f.candidates.zipIdx.find? fun p => (p.1.accepts args).val <;> rfl

theorem select_eq_ok {f : Dispatcher ε V}
    (indexed : f.index = .ofArities (f.candidates.map (·.arity))) {args : List V} {k : Nat}
    {c : Candidate ε V} : (f.select args).val = .ok (k, c) ↔ f.candidates[k]? = some c ∧
      (c.accepts args).val = true ∧
      ∀ j b, j < k → f.candidates[j]? = some b → (b.accepts args).val = false := by
  rw [val_select indexed, ← find?_zipIdx fun c : Candidate ε V => (c.accepts args).val]
  split
  · rename_i b i found
    rw [found, Except.ok.injEq, Option.some.injEq, Prod.mk.injEq, Prod.mk.injEq, and_comm]
  · rename_i nothing
    simp [nothing]

/-- The winner is never later than a candidate that accepts. -/
theorem exists_select {f : Dispatcher ε V}
    (indexed : f.index = .ofArities (f.candidates.map (·.arity))) {args : List V} {k : Nat}
    {c : Candidate ε V} (here : f.candidates[k]? = some c) (accepts : (c.accepts args).val = true) :
    ∃ j b, (f.select args).val = .ok (j, b) ∧ j ≤ k := by
  have placed : (c, k) ∈ f.candidates.zipIdx := List.mem_zipIdx_iff_getElem?.2 here
  have some : (f.candidates.zipIdx.find? fun p => (p.1.accepts args).val).isSome :=
    List.find?_isSome.2 ⟨(c, k), placed, accepts⟩
  obtain ⟨⟨b, j⟩, found⟩ := Option.isSome_iff_exists.1 some
  obtain ⟨_, _, before⟩ := (find?_zipIdx fun c : Candidate ε V => (c.accepts args).val).1 found
  refine ⟨j, b, ?_, ?_⟩
  · rw [val_select indexed, found]
  · by_contra later
    rw [before k c (Nat.lt_of_not_le later) here] at accepts
    cases accepts

theorem val_call {f : Dispatcher ε V}
    (indexed : f.index = .ofArities (f.candidates.map (·.arity))) (receiver : Option V)
    (args : List V) :
    (f.call receiver args).val =
      match f.candidates.find? fun c => (c.accepts args).val with
      | some c => .ok (c.method receiver (c.convertArgs args).val).val
      | none => .error (f.noMatch args).val := by
  rw [call, Traced.val_bind, val_select indexed,
    ← fst_find?_zipIdx fun c : Candidate ε V => (c.accepts args).val]
  cases f.candidates.zipIdx.find? fun p => (p.1.accepts args).val <;> rfl

end Dispatcher

section Meaning

variable [Typed V τ] [DecidableEq τ] {r : Registry ε V τ}

theorem Candidate.val_accepts {o : Overload ε V} {c : Candidate ε V}
    (compiled : Candidate.compile r o = .ok c) (args : List V) :
    (c.accepts args).val = true ↔ r.Fits o.params args :=
  Signature.val_accepts (Candidate.compile_eq_ok.1 compiled).2 args

theorem Candidate.val_convertArgs {o : Overload ε V} {c : Candidate ε V}
    (compiled : Candidate.compile r o = .ok c) {args : List V}
    (length : o.params.length = args.length) :
    (c.convertArgs args).val = List.zipWith r.handOver o.params args := by
  have exhausted : args.drop o.params.length = [] :=
    List.drop_eq_nil_of_le (Nat.le_of_eq length.symm)
  have converted := val_convertAll (Candidate.compile_eq_ok.1 compiled).2 args
  rwa [exhausted, List.append_nil] at converted

/-- The whole way of a call, read off the registry and the overloads: a call succeeds when the
arguments fit some overload. It then runs the method of the first one they fit, on the arguments
that the accepted types hand over. -/
theorem Dispatcher.call_meaning (r : Registry ε V τ)
    (d : Definition ε V) (f : Dispatcher ε V) (built : Dispatcher.build r d = .ok f)
    (receiver : Option V) (args : List V) :
    ((∃ v, (f.call receiver args).val = .ok v) ↔ ∃ o ∈ d.overloads, r.Fits o.params args) ∧
      (∀ earlier o later, d.overloads = earlier ++ o :: later → r.Fits o.params args →
        (∀ p ∈ earlier, ¬ r.Fits p.params args) →
        (f.call receiver args).val =
          .ok (o.method receiver (List.zipWith r.handOver o.params args)).val) ∧
      ((∀ o ∈ d.overloads, ¬ r.Fits o.params args) →
        ∃ e : NoMatch, (f.call receiver args).val = .error e) := by
  obtain ⟨_, _, _, compiled, indexed, _⟩ := Dispatcher.build_eq_ok.1 built
  have agree (o : Overload ε V) (c : Candidate ε V) (made : Candidate.compile r o = .ok c) :
      (c.accepts args).val = true ↔ r.Fits o.params args := Candidate.val_accepts made args
  have nothing := find?_eq_none_of_forall₂ agree compiled
  rw [Dispatcher.val_call indexed]
  refine ⟨?_, ?_, ?_⟩
  · cases winner : f.candidates.find? fun c => (c.accepts args).val with
    | none =>
      have unfit := nothing.1 winner
      constructor
      · rintro ⟨v, eq⟩; cases eq
      · rintro ⟨o, member, fits⟩; exact absurd fits (unfit o member)
    | some c =>
      constructor
      · intro _
        by_contra unfit
        have := nothing.2 fun o member fits => unfit ⟨o, member, fits⟩
        rw [winner] at this
        cases this
      · intro _
        exact ⟨_, rfl⟩
  · intro earlier o later split fits before
    obtain ⟨c, made, winner⟩ := find?_of_forall₂ agree compiled split fits before
    have same : c.method = o.method := (Candidate.compile_eq_ok.1 made).1
    have converted := Candidate.val_convertArgs made (List.Forall₂.length_eq fits)
    rw [winner]
    simp only [same, converted]
  · intro unfit
    rw [nothing.2 unfit]
    exact ⟨_, rfl⟩

end Meaning

namespace Amount

def measure : Definition String Amount where
  overloads := [
    ⟨[[⟨0, 4⟩]], fun _ args => pure ⟨0, args.length⟩⟩,
    ⟨[[⟨0, 0⟩], [⟨0, 4⟩, ⟨0, 0⟩]], fun _ args => pure ⟨0, args.foldl (· + ·.count) 0⟩⟩]

theorem measure_builds : ∃ f, Dispatcher.build units measure = .ok f := by
  unfold Dispatcher.build Candidate.compile Signature.compile Slot.compile
  simp only [Registry.accepted_eq_widening]
  exact ⟨_, rfl⟩

theorem call_meaning_units : ∃ f, Dispatcher.build units measure = .ok f ∧
    (f.call none [⟨3, 1⟩, ⟨3, 1⟩]).val = .ok ⟨0, 27⟩ ∧
    ∃ e : NoMatch, (f.call none []).val = .error e := by
  obtain ⟨f, built⟩ := measure_builds
  have success := (Dispatcher.call_meaning units measure f built none [⟨3, 1⟩, ⟨3, 1⟩]).2.1
  have failure := (Dispatcher.call_meaning units measure f built none []).2.2
  exact ⟨f, built, success [measure.overloads[0]] measure.overloads[1] [] rfl (by decide)
    (by decide), failure (by decide)⟩

end Amount

end MultiDispatch

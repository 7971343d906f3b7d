import MultiDispatch.Proofs.Registry.Growth
import MultiDispatch.Proofs.Widening.Frontier

/-! What a compiled function answers, read off the registry that it was compiled against. Which
overload wins, which arguments it gets and what a failed call reports depend on three things only:
what parameters are widened to, which values belong to a type, and what types are called.
Registries that agree on these compile functions that nobody can tell apart. -/
namespace MultiDispatch

variable {ε V τ : Type} [Typed V τ]

/-- The position of the winner with the arguments it gets, or the report that there is none. -/
def Dispatcher.dispatch (f : Dispatcher ε V) (args : List V) : Except NoMatch (Nat × List V) :=
  (f.select args).val.map fun (k, c) => (k, (c.convertArgs args).val)

/-- Both fail with the same error, or both are functions that answer every call alike. -/
inductive Dispatcher.SameOutcome :
    Except ConfigError (Dispatcher ε V) → Except ConfigError (Dispatcher ε V) → Prop
  | error (e : ConfigError) : SameOutcome (.error e) (.error e)
  | ok {f g : Dispatcher ε V} (dispatch : ∀ args, f.dispatch args = g.dispatch args)
      (call : ∀ receiver args, (f.call receiver args).val = (g.call receiver args).val) :
      SameOutcome (.ok f) (.ok g)

theorem toOption_map {κ α β : Type} (f : α → β) (x : Except κ α) :
    (x.map f).toOption = x.toOption.map f := by
  cases x <;> rfl

variable [DecidableEq τ]

namespace Registry

/-- The declared types by name, as in `number | Pair`. -/
def label (r : Registry ε V τ) (declared : List Token) : String :=
  " | ".intercalate (declared.eraseDups.map r.name)

def render (r : Registry ε V τ) (params : List (List Token)) : String :=
  "(" ++ ", ".intercalate (params.map r.label) ++ ")"

/-- The name of the first of the types that recognises the value, else its run-time type. -/
def describe (r : Registry ε V τ) (types : List Token) (v : V) : String :=
  ((types.find? (r.recognises · v)).map r.name).getD (Typed.pathOf v)

def noMatch (r : Registry ε V τ) (d : Definition ε V) (args : List V) : NoMatch where
  function := d.name
  argTypes := args.map (r.describe (d.reached r).eraseDups)
  candidates := d.overloads.map fun o => d.name ++ r.render o.params

/-- The first overload that the arguments fit, with its position. -/
def winner? (r : Registry ε V τ) (d : Definition ε V) (args : List V) :
    Option (Overload ε V × Nat) :=
  d.overloads.zipIdx.find? fun p => decide (r.Fits p.1.params args)

def dispatch (r : Registry ε V τ) (d : Definition ε V) (args : List V) :
    Except NoMatch (Nat × List V) :=
  match r.winner? d args with
  | some (o, k) => .ok (k, List.zipWith r.handOver o.params args)
  | none => .error (r.noMatch d args)

end Registry

theorem Signature.render_of_compile {r : Registry ε V τ} {params : List (List Token)}
    {s : Signature ε V}
    (compiled : List.Forall₂ (fun types slot => Slot.compile r types = .ok slot) params s.slots) :
    s.render = r.render params := by
  have labels : s.slots.map (·.label) = params.map r.label :=
    (map_eq_of_forall₂ compiled fun _ _ slot => (Slot.compile_eq_ok.1 slot).1.symm).symm
  rw [render, labels, Registry.render]

namespace Dispatcher

section Built

variable {r : Registry ε V τ} {d : Definition ε V} {f : Dispatcher ε V}
  (built : build r d = .ok f)

include built

theorem val_describe (v : V) :
    (f.describe v).val = r.describe (d.reached r).eraseDups v := by
  obtain ⟨_, _, _, compiled, _, known⟩ := build_eq_ok.1 built
  rw [accepted_of_candidates compiled] at known
  have found := rel_find?_of_forall₂ (p := (r.recognises · v)) (q := (·.guard.test v |>.val)) known
    fun t k made => by
      obtain ⟨rfl, _, resolved⟩ := KnownType.ofToken_eq_ok.1 made
      exact (Registry.val_resolve resolved v).symm
  rw [describe, Traced.val_bind, Traced.val_findM?, Registry.describe]
  revert found
  generalize List.find? _ f.known = k?
  generalize List.find? _ (d.reached r).eraseDups = t?
  rintro (made | _)
  · exact (KnownType.ofToken_eq_ok.1 made).2.1
  · rfl

theorem val_noMatch (args : List V) : (f.noMatch args).val = r.noMatch d args := by
  obtain ⟨_, _, named, compiled, _, _⟩ := build_eq_ok.1 built
  have rendered : f.candidates.map (fun c => f.name ++ c.signature.render) =
      d.overloads.map fun o => d.name ++ r.render o.params :=
    (map_eq_of_forall₂ compiled fun o c made => by
      rw [named, Signature.render_of_compile (Candidate.compile_eq_ok.1 made).2]).symm
  rw [noMatch, Traced.val_bind, Traced.val_mapM, Traced.val_pure, rendered, named,
    Registry.noMatch]
  simp only [val_describe built]

theorem rel_placed (args : List V) :
    Option.Rel (fun p q => Candidate.compile r p.1 = .ok q.1 ∧ p.2 = q.2) (r.winner? d args)
      (f.candidates.zipIdx.find? fun q => (q.1.accepts args).val) := by
  obtain ⟨_, _, _, compiled, _, _⟩ := build_eq_ok.1 built
  refine rel_find?_of_forall₂ (forall₂_zipIdx compiled 0) fun p q made => ?_
  rw [Bool.eq_iff_iff, decide_eq_true_iff, Candidate.val_accepts made.1]

theorem dispatch_eq (args : List V) : f.dispatch args = r.dispatch d args := by
  obtain ⟨_, _, _, _, indexed, _⟩ := build_eq_ok.1 built
  have winner := rel_placed built args
  have fits (o : Overload ε V) (k : Nat) (won : r.winner? d args = some (o, k)) :
      r.Fits o.params args := of_decide_eq_true (List.find?_some won :)
  rw [dispatch, val_select indexed, Registry.dispatch]
  revert winner fits
  generalize r.winner? d args = o?
  generalize List.find? _ f.candidates.zipIdx = c?
  rintro (made | _) fits
  · rename_i p q
    obtain ⟨o, k⟩ := p
    obtain ⟨c, j⟩ := q
    obtain ⟨compiled, rfl⟩ := made
    have length := List.Forall₂.length_eq (fits o k rfl)
    simp only [Except.map, Candidate.val_convertArgs compiled length]
  · simp only [Except.map, val_noMatch built]

/-- A call runs the method of the overload that wins on the arguments that this one gets. -/
theorem val_call_eq_dispatch (receiver : Option V) (args : List V) :
    (f.call receiver args).val.map some = (f.dispatch args).map fun (k, handed) =>
      d.overloads[k]?.map fun o => (o.method receiver handed).val := by
  obtain ⟨_, _, _, compiled, indexed, _⟩ := build_eq_ok.1 built
  rw [dispatch, call, Traced.val_bind]
  cases selected : (f.select args).val with
  | error e => rfl
  | ok winner =>
    obtain ⟨k, c⟩ := winner
    have here := ((select_eq_ok indexed).1 selected).1
    have made := List.Forall₂.flip (R := flip fun o c => Candidate.compile r o = .ok c) compiled
    obtain ⟨o, listed, same⟩ := exists_getElem?_of_forall₂ made here
    simp only [Except.map, listed, Option.map_some, ← (Candidate.compile_eq_ok.1 same).1]
    rfl

section Outcomes

variable {args : List V}

/-- The winner is the first overload that the arguments fit. -/
theorem dispatch_eq_ok {k : Nat} {handed : List V} : f.dispatch args = .ok (k, handed) ↔
    ∃ o, d.overloads[k]? = some o ∧ r.Fits o.params args ∧
      (∀ j p, j < k → d.overloads[j]? = some p → ¬ r.Fits p.params args) ∧
      handed = List.zipWith r.handOver o.params args := by
  have first (o : Overload ε V) : _ ↔ d.overloads[k]? = some o ∧ _ :=
    find?_zipIdx fun o => decide (r.Fits o.params args)
  simp only [decide_eq_true_eq, decide_eq_false_iff_not] at first
  rw [dispatch_eq built, Registry.dispatch, Registry.winner?]
  constructor
  · cases won : d.overloads.zipIdx.find? fun p => decide (r.Fits p.1.params args) with
    | none => simp
    | some winner =>
      rintro ⟨rfl, rfl⟩
      obtain ⟨here, fits, before⟩ := (first winner.1).1 won
      exact ⟨winner.1, here, fits, before, rfl⟩
  · rintro ⟨o, here, fits, before, rfl⟩
    rw [(first o).2 ⟨here, fits, before⟩]

theorem dispatch_eq_error {e : NoMatch} : f.dispatch args = .error e ↔
    (∀ o ∈ d.overloads, ¬ r.Fits o.params args) ∧ e = r.noMatch d args := by
  have nobody : (d.overloads.zipIdx.find? fun p => decide (r.Fits p.1.params args)) = none ↔
      ∀ o ∈ d.overloads, ¬ r.Fits o.params args := by
    conv_rhs => rw [← List.zipIdx_map_fst 0 d.overloads, List.forall_mem_map]
    simp
  rw [dispatch_eq built, Registry.dispatch, Registry.winner?, ← nobody]
  cases d.overloads.zipIdx.find? fun p => decide (r.Fits p.1.params args) <;> simp [eq_comm]

theorem val_call_of_ok {k : Nat} {handed : List V} {o : Overload ε V}
    (won : f.dispatch args = .ok (k, handed)) (here : d.overloads[k]? = some o)
    (receiver : Option V) : (f.call receiver args).val = .ok (o.method receiver handed).val := by
  have call := val_call_eq_dispatch built receiver args
  rw [won] at call
  cases answer : (f.call receiver args).val <;> simp_all [Except.map]

theorem val_call_of_error {e : NoMatch} (lost : f.dispatch args = .error e)
    (receiver : Option V) : (f.call receiver args).val = .error e := by
  have call := val_call_eq_dispatch built receiver args
  rw [lost] at call
  cases answer : (f.call receiver args).val <;> simp_all [Except.map]

end Outcomes

end Built

end Dispatcher

/-- Parameters are widened alike, the same values belong to each type, and the same types are
unknown. What the types are called is left open. -/
structure Registry.Agrees (r s : Registry ε V τ) : Prop where
  widening : ∀ declared, s.widening declared = r.widening declared
  recognises : ∀ t v, s.recognises t v = r.recognises t v
  miswired : ∀ t, s.Miswired t ↔ r.Miswired t

namespace Registry.Agrees

theorem refl (r : Registry ε V τ) : r.Agrees r := ⟨fun _ => rfl, fun _ _ => rfl, fun _ => .rfl⟩

theorem trans {r s u : Registry ε V τ} (first : r.Agrees s) (next : s.Agrees u) : r.Agrees u where
  widening declared := (next.widening declared).trans (first.widening declared)
  recognises t v := (next.recognises t v).trans (first.recognises t v)
  miswired t := (next.miswired t).trans (first.miswired t)

variable {r s : Registry ε V τ} (agree : r.Agrees s)

include agree

/-- A type that can be used still can be, and its guards accept the same values together. -/
theorem resolve {t : Token} {c : Combined ε V} (resolved : r.resolve t = .ok c) :
    ∃ again, s.resolve t = .ok again ∧ ∀ v, (again.test v).val = (c.test v).val := by
  have wired : ¬ s.Miswired t := by
    rw [agree.miswired]
    exact wired_of_resolve resolved
  obtain ⟨again, later⟩ := failure?_eq_none.1 (failure?_resolve_eq_none.2 wired)
  exact ⟨again, later, fun v => by rw [val_resolve later, val_resolve resolved, agree.recognises]⟩

theorem fits (params : List (List Token)) (args : List V) :
    s.Fits params args ↔ r.Fits params args := by
  simp only [Fits, agree.widening, agree.recognises]

theorem handOver (declared : List Token) (v : V) :
    s.handOver declared v = r.handOver declared v := by
  simp only [Registry.handOver, agree.widening, agree.recognises]

section Renamed

variable {d e : Definition ε V} (same : e.overloads = d.overloads)

include same

theorem reached : e.reached s = d.reached r := by
  simp only [Definition.reached, Overload.reached, same, funext fun types =>
    show s.acceptedTokens types = r.acceptedTokens types by
      rw [acceptedTokens_eq, acceptedTokens_eq, agree.widening]]

theorem winner? (args : List V) : s.winner? e args = r.winner? d args := by
  simp only [Registry.winner?, same, agree.fits]

/-- Names apart, dispatch is the same. -/
theorem toOption_dispatch (args : List V) :
    (s.dispatch e args).toOption = (r.dispatch d args).toOption := by
  rw [Registry.dispatch, Registry.dispatch, agree.winner? same, funext₂ agree.handOver]
  cases r.winner? d args <;> rfl

end Renamed

theorem dispatch (names : ∀ t, s.name t = r.name t) (d : Definition ε V) (args : List V) :
    s.dispatch d args = r.dispatch d args := by
  have label : s.label = r.label := funext fun types => by
    rw [Registry.label, Registry.label, funext names]
  have describe : s.describe = r.describe := funext₂ fun types v => by
    rw [Registry.describe, Registry.describe, funext names, funext fun t => agree.recognises t v]
  have noMatch : s.noMatch d args = r.noMatch d args := by
    simp only [Registry.noMatch, agree.reached rfl, describe, render, label]
  rw [Registry.dispatch, Registry.dispatch, agree.winner? rfl, funext₂ agree.handOver, noMatch]

/-- Registries that agree and call the types by the same names build functions with the same
outcome. -/
theorem sameOutcome (names : ∀ t, s.name t = r.name t) (d : Definition ε V) :
    Dispatcher.SameOutcome (Dispatcher.build r d) (Dispatcher.build s d) := by
  have failures : failure? (Dispatcher.build s d) = failure? (Dispatcher.build r d) := by
    have resolve (t : Token) : failure? (s.resolve t) = failure? (r.resolve t) := by
      refine Option.ext fun e => ?_
      simp only [failure?_eq_some, resolve_eq_error, agree.miswired, unknown, names]
    simp only [Dispatcher.failure?_build, agree.reached rfl, resolve]
  cases before : Dispatcher.build r d with
  | error e =>
    rw [before] at failures
    rw [failure?_eq_some.1 failures]
    exact .error e
  | ok f =>
    rw [before] at failures
    obtain ⟨g, after⟩ := failure?_eq_none.1 failures
    have dispatch (args : List V) : f.dispatch args = g.dispatch args := by
      rw [Dispatcher.dispatch_eq before, Dispatcher.dispatch_eq after, agree.dispatch names]
    rw [after]
    refine .ok dispatch fun receiver args => ?_
    have call : (f.call receiver args).val.map some = (g.call receiver args).val.map some := by
      rw [Dispatcher.val_call_eq_dispatch before, Dispatcher.val_call_eq_dispatch after, dispatch]
    revert call
    cases (f.call receiver args).val <;> cases (g.call receiver args).val <;> simp [Except.map]

end Registry.Agrees

namespace Registry

variable {r s : Registry ε V τ} {t : Token}

theorem recognises_of_bare (bare : r.guards t = []) (v : V) : r.recognises t v = true ↔
    r.settings.autoRegister = true ∧ r.kind? t = some (.nominal (Typed.typeOf v)) := by
  unfold guards at bare
  unfold recognises kind?
  cases entry : r.get? t with
  | none => simp
  | some e =>
    obtain ⟨name, kind, guards, incoming⟩ := e
    rw [entry] at bare
    cases guards with
    | cons => cases bare
    | nil => cases kind <;> simp [@eq_comm _ (Typed.typeOf v)]

omit [Typed V τ] [DecidableEq τ] in
theorem miswired_iff : r.Miswired t ↔ r.guards t = [] ∧
    ¬ (r.settings.autoRegister = true ∧ ∃ type, r.kind? t = some (.nominal type)) := by
  unfold Miswired guards kind?
  rw [← isSome_get?]
  cases r.get? t <;> simp

/-- The same types with the same edges, and with the same guards in whatever order. -/
structure Resembles (r s : Registry ε V τ) : Prop where
  settings : s.settings = r.settings
  kind? : ∀ t, s.kind? t = r.kind? t
  guards : ∀ t g, g ∈ s.guards t ↔ g ∈ r.guards t
  edgesInto : ∀ t, s.edgesInto t = r.edgesInto t

namespace Resembles

variable (alike : r.Resembles s)

include alike

omit [Typed V τ] [DecidableEq τ] in
theorem bare : s.guards t = [] ↔ r.guards t = [] := by
  simp only [List.eq_nil_iff_forall_not_mem, alike.guards]

theorem recognises (t : Token) (v : V) : s.recognises t v = r.recognises t v := by
  rw [Bool.eq_iff_iff]
  by_cases none : r.guards t = []
  · rw [recognises_of_bare none, recognises_of_bare (alike.bare.2 none), alike.settings,
      alike.kind?]
  · rw [recognises_of_guarded none, recognises_of_guarded fun bare => none (alike.bare.1 bare)]
    simp only [List.all_eq_true, alike.guards]

/-- What a type is for does not depend on the order of its guards. -/
theorem agrees : r.Agrees s where
  widening declared := widening_congr (by rw [alike.settings]) fun t _ => alike.edgesInto t
  recognises := alike.recognises
  miswired t := by rw [miswired_iff, miswired_iff, alike.bare, alike.settings, alike.kind?]

end Resembles

end Registry

end MultiDispatch

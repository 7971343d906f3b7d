import MultiDispatch.Proofs.Registry.Effects
import MultiDispatch.Proofs.Widening.Frontier

/-! What further guards do to a function. They never keep it from building again with the same
parameters and conversions. Where a type must have a guard to be used at all, each further guard is
one more condition on its values, so the function takes less. Otherwise a type may have been used
without any, and its first guard replaces the test for its run-time type. -/
namespace MultiDispatch

variable {ε V τ : Type}

/-- No part of the operation registers a conversion. -/
def Operation.KeepsEdges (op : Operation ε V τ) : Prop := ∀ part ∈ op.parts, part.fed? = none

/-- All of a slot but its guards: its label, the types it accepts, and their conversions. -/
def Slot.outline (s : Slot ε V) : String × List (Accepted ε V) :=
  (s.label, s.members.map Member.entry)

def Candidate.outline (c : Candidate ε V) : List (String × List (Accepted ε V)) :=
  c.signature.slots.map Slot.outline

namespace Registry

/-- Guards and types may have been added, but no edges. -/
structure Guarded (r s : Registry ε V τ) : Prop where
  growth : r.Grows s
  edgesInto : ∀ t, s.edgesInto t = r.edgesInto t

theorem guarded_after [Typed V τ] [DecidableEq τ] {ops : List (Operation ε V τ)}
    (edges : ∀ op ∈ ops, op.KeepsEdges) (r : Registry ε V τ) : r.Guarded (r.after ops) where
  growth := r.grows_after ops
  edgesInto t := edgesInto_after fun op listed part entry => by simp [edges op listed part entry]

namespace Guarded

variable {r s : Registry ε V τ} (guarded : r.Guarded s)

include guarded

theorem widening (declared : List Token) : s.widening declared = r.widening declared :=
  widening_congr (by rw [guarded.growth.settings]) fun t _ => guarded.edgesInto t

theorem acceptedTokens (declared : List Token) :
    s.acceptedTokens declared = r.acceptedTokens declared :=
  acceptedTokens_congr (guarded.widening declared)

theorem reached (d : Definition ε V) : d.reached s = d.reached r := by
  simp only [Definition.reached, Overload.reached, funext guarded.acceptedTokens]

theorem wired {t : Token} (wired : ¬ r.Miswired t) : ¬ s.Miswired t := by
  intro miswired
  apply wired
  rcases miswired with foreign | ⟨bare, unseeded⟩
  · left
    by_contra owned
    have still := guarded.growth.owns (by simpa using owned)
    simp [still] at foreign
  · right
    refine ⟨List.prefix_nil.1 (bare ▸ guarded.growth.guards t), ?_⟩
    rintro ⟨allowed, e, type, held, nominal⟩
    obtain ⟨f, later, more⟩ := guarded.growth.entries t e held
    exact unseeded ⟨by rw [guarded.growth.settings, allowed], f, type, later,
      more.kind.trans nominal⟩

section Strict

variable [Typed V τ] [DecidableEq τ] (strict : r.settings.autoRegister = false)

include strict

/-- A type that may be used has a guard, so what it has now is no more than what it had. -/
theorem recognises {t : Token} (wired : ¬ r.Miswired t) {v : V}
    (accepts : s.recognises t v = true) : r.recognises t v = true := by
  -- No type may do without guards here, so the test for the run-time type has no part in this.
  have some : r.guards t ≠ [] := fun bare => wired (.inr ⟨bare, by simp [strict]⟩)
  have more := guarded.growth.guards t
  have still : s.guards t ≠ [] := fun bare => some (List.prefix_nil.1 (bare ▸ more))
  rw [recognises_of_guarded still, List.all_eq_true] at accepts
  rw [recognises_of_guarded some, List.all_eq_true]
  exact fun g member => accepts g (more.subset member)

theorem fits {params : List (List Token)}
    (wired : ∀ types ∈ params, ∀ t ∈ r.acceptedTokens types, ¬ r.Miswired t) {args : List V}
    (fits : s.Fits params args) : r.Fits params args := by
  refine forall₂_imp_of_mem fits fun types param v ⟨a, listed, accepts⟩ => ?_
  rw [guarded.widening] at listed
  have member : a.token ∈ r.acceptedTokens types := by
    rw [acceptedTokens_eq]
    exact List.mem_map_of_mem listed
  exact ⟨a, listed, guarded.recognises strict (wired types param _ member) accepts⟩

end Strict

end Guarded

end Registry

variable [Typed V τ] [DecidableEq τ]

theorem Slot.outline_of_compile {r : Registry ε V τ} {declared : List Token} {s : Slot ε V}
    (compiled : Slot.compile r declared = .ok s) :
    s.outline = (" | ".intercalate (declared.eraseDups.map r.name), r.widening declared) := by
  rw [outline, (compile_eq_ok.1 compiled).1, entries_of_compile compiled]

namespace Registry.Guarded

variable {r s : Registry ε V τ} (guarded : r.Guarded s)

include guarded

theorem outline_slot {declared : List Token} {old new : Slot ε V}
    (before : Slot.compile r declared = .ok old) (after : Slot.compile s declared = .ok new) :
    new.outline = old.outline := by
  have owned (t : Token) (member : t ∈ declared.eraseDups) : r.owns t = true := by
    have listed := (r.declared_prefix_acceptedTokens declared).subset member
    exact owns_of_wired (Slot.wired_of_compile before t listed)
  have names : declared.eraseDups.map s.name = declared.eraseDups.map r.name :=
    List.map_congr_left fun t member => guarded.growth.name fun _ => owned t member
  rw [Slot.outline_of_compile after, Slot.outline_of_compile before, names, guarded.widening]

theorem outline_candidate {o : Overload ε V} {old new : Candidate ε V}
    (before : Candidate.compile r o = .ok old) (after : Candidate.compile s o = .ok new) :
    new.outline = old.outline :=
  map_eq_of_common (Candidate.compile_eq_ok.1 after).2 (Candidate.compile_eq_ok.1 before).2
    fun _ _ _ is was => guarded.outline_slot was is

end Registry.Guarded

namespace Dispatcher

theorem arities_of_outline {f g : Dispatcher ε V}
    (same : g.candidates.map Candidate.outline = f.candidates.map Candidate.outline) :
    g.candidates.map (·.arity) = f.candidates.map (·.arity) := by
  have arity (c : Candidate ε V) : c.arity = c.outline.length := by
    rw [Candidate.outline, List.length_map]
    rfl
  have lengths := congrArg (List.map List.length) same
  simpa only [List.map_map, Function.comp_def, ← arity] using lengths

/-- A function that builds still builds after further guards and types, with the same name, arities,
accepted types, labels and conversions. In a registry that takes no type without a guard, its
candidates then accept at most what they accepted, so calls without a match stay without one, and
the winner of any other call is the same or a later one. -/
theorem build_of_guards (r : Registry ε V τ) (ops : List (Operation ε V τ))
    (edges : ∀ op ∈ ops, op.KeepsEdges) (d : Definition ε V) (f : Dispatcher ε V)
    (built : build r d = .ok f) :
    ∃ g, build (r.after ops) d = .ok g ∧ g.name = f.name ∧
      g.minArity = f.minArity ∧ g.maxArity = f.maxArity ∧
      g.candidates.map Candidate.outline = f.candidates.map Candidate.outline ∧
      (r.settings.autoRegister = false →
        List.Forall₂ (fun b c => ∀ args, (b.accepts args).val = true → (c.accepts args).val = true)
            g.candidates f.candidates ∧
          (∀ args e, (f.select args).val = .error e → ∃ e, (g.select args).val = .error e) ∧
          ∀ args k b, (g.select args).val = .ok (k, b) →
            ∃ j c, (f.select args).val = .ok (j, c) ∧ j ≤ k) := by
  have guarded := Registry.guarded_after edges r
  obtain ⟨some, few, wired⟩ := exists_build.1 ⟨f, built⟩
  have still : ∀ t ∈ d.reached (r.after ops), ¬ (r.after ops).Miswired t := by
    rw [guarded.reached]
    exact fun t member => guarded.wired (wired t member)
  obtain ⟨g, again⟩ := exists_build.2 ⟨some, few, still⟩
  obtain ⟨_, _, name, old, placed, _⟩ := build_eq_ok.1 built
  obtain ⟨_, _, named, new, indexed, _⟩ := build_eq_ok.1 again
  have outline : g.candidates.map Candidate.outline = f.candidates.map Candidate.outline :=
    map_eq_of_common new old fun _ _ _ is was => guarded.outline_candidate was is
  have arities := arities_of_outline outline
  refine ⟨g, again, named.trans name.symm, by rw [minArity, arities, minArity],
    by rw [maxArity, arities, maxArity], outline, fun strict => ?_⟩
  have accepting : List.Forall₂
      (fun b c => ∀ args, (b.accepts args).val = true → (c.accepts args).val = true)
      g.candidates f.candidates := by
    have before := forall₂_imp_of_mem old fun o listed c made => And.intro listed made
    refine forall₂_of_common new before fun o b c is ⟨listed, was⟩ args accepts => ?_
    have fits := (Candidate.val_accepts is args).1 accepts
    have used : ∀ types ∈ o.params, ∀ t ∈ r.acceptedTokens types, ¬ r.Miswired t :=
      fun types param t member => wired t (Definition.mem_reached_of_param listed param member)
    exact (Candidate.val_accepts was args).2 (guarded.fits strict used fits)
  have winners (args : List V) (k : Nat) (b : Candidate ε V)
      (selected : (g.select args).val = .ok (k, b)) :
      ∃ j c, (f.select args).val = .ok (j, c) ∧ j ≤ k := by
    obtain ⟨here, accepts, _⟩ := (select_eq_ok indexed).1 selected
    obtain ⟨c, there, fewer⟩ := exists_getElem?_of_forall₂ accepting here
    exact exists_select placed there (fewer args accepts)
  refine ⟨accepting, fun args e nothing => ?_, winners⟩
  cases later : (g.select args).val with
  | error e => exact ⟨e, rfl⟩
  | ok winner =>
    obtain ⟨j, c, won, _⟩ := winners args winner.1 winner.2 later
    rw [nothing] at won
    cases won

end Dispatcher

namespace Amount

def scales : Registry String Amount Nat :=
  (Registry.empty 0 {}).after
    [.declare "light", .declare "any", .nominal 2, .registerGuard ⟨0, 0⟩ ⟨.made 0, instanceTest 1⟩,
      .registerGuard ⟨0, 1⟩ ⟨.made 0, instanceTest 1⟩,
      .registerGuard ⟨0, 2⟩ ⟨.made 1, instanceTest 2⟩, .registerConversion (exchange 2 0 3)]

def weigh : Definition String Amount where
  overloads := [
    ⟨[[⟨0, 0⟩]], fun _ args => pure (args.headD ⟨0, 0⟩)⟩,
    ⟨[[⟨0, 1⟩]], fun _ args => pure (args.headD ⟨0, 0⟩)⟩]

/-- Sets a limit to what is light. The last rule is about a token of another registry. -/
def rules : List (Operation String Amount Nat) :=
  [.declare "stall", .nominal 7, .autoRegister ⟨0, 2⟩,
    .add (.guards [(⟨0, 0⟩, ⟨.made 2, fun v => pure (v.count < 10)⟩),
      (⟨0, 1⟩, ⟨.made 0, instanceTest 1⟩)]),
    .registerGuard ⟨1, 1⟩ ⟨.made 2, fun v => pure (v.count < 10)⟩]

theorem weigh_builds : ∃ f, Dispatcher.build scales weigh = .ok f ∧
    (∃ c, (f.select [⟨1, 20⟩]).val = .ok (0, c)) ∧ ∃ e, (f.select [⟨5, 1⟩]).val = .error e := by
  unfold Dispatcher.build Candidate.compile Signature.compile Slot.compile
  simp only [Registry.accepted_eq_widening]
  exact ⟨_, rfl, ⟨_, rfl⟩, _, rfl⟩

theorem weigh_builds_again : ∃ g, Dispatcher.build (scales.after rules) weigh = .ok g ∧
    ∃ b, (g.select [⟨1, 20⟩]).val = .ok (1, b) := by
  unfold Dispatcher.build Candidate.compile Signature.compile Slot.compile
  simp only [Registry.accepted_eq_widening]
  exact ⟨_, rfl, _, rfl⟩

theorem build_of_guards_scales : ∃ f g, Dispatcher.build scales weigh = .ok f ∧
    Dispatcher.build (scales.after rules) weigh = .ok g ∧
    g.candidates.map Candidate.outline = f.candidates.map Candidate.outline ∧
    (∃ c, (f.select [⟨1, 20⟩]).val = .ok (0, c)) ∧
    (∃ b, (g.select [⟨1, 20⟩]).val = .ok (1, b)) ∧ ∃ e, (g.select [⟨5, 1⟩]).val = .error e := by
  obtain ⟨f, before, winner, e, nothing⟩ := weigh_builds
  obtain ⟨g, after, later⟩ := weigh_builds_again
  have edges : ∀ op ∈ rules, op.KeepsEdges := by
    unfold Operation.KeepsEdges
    decide
  obtain ⟨_, built, _, _, _, outline, narrower⟩ :=
    Dispatcher.build_of_guards scales rules edges weigh f before
  obtain rfl := Except.ok.inj (after.symm.trans built)
  exact ⟨f, g, before, after, outline, winner, later, (narrower rfl).2.1 _ e nothing⟩

end Amount

end MultiDispatch

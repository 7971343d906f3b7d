import MultiDispatch.Proofs.Guarding
import MultiDispatch.Proofs.Meaning
import MultiDispatch.Proofs.Registry.Repetition
import MultiDispatch.Proofs.Widening.Monotone

/-! Guards that say nothing new. What a type resolves to may be registered as a guard of that type.
A type with one guard resolves to this very guard and does not take it twice. Several guards are
combined anew on each occasion, and the combination is put behind them. The test for a run-time type
that has no guard becomes its first. In each case the same values belong to the type as before, so
functions do what they did, however often this is done and for however many types. -/
namespace MultiDispatch

variable {ε V τ : Type} [Typed V τ] [DecidableEq τ]

namespace Registry

/-- Resolves a type and registers the result as a guard of this type. The number is for a result
that is a new guard. A type that cannot be used is left alone. -/
def restate (r : Registry ε V τ) (t : Token) (serial : Nat) : Registry ε V τ :=
  match r.resolve t with
  | .ok c => ((Operation.registerGuard t (c.named serial)).perform r).2
  | .error _ => r

/-- Types are resolved when their turn comes, each with all that was registered before. -/
def restateAll (r : Registry ε V τ) (turns : List (Token × Nat)) : Registry ε V τ :=
  turns.foldl (fun r (t, serial) => r.restate t serial) r

section Attach

omit [Typed V τ] [DecidableEq τ] in
theorem guarded_attach (r : Registry ε V τ) (t : Token) (g : Guard ε V) :
    r.Guarded (r.update t (·.attach g)) where
  growth := r.grows_update t (Entry.grows_attach g)
  edgesInto := r.edgesInto_attach t g

variable {r : Registry ε V τ} {t : Token} {g : Guard ε V}
  (same : ∀ v, (g.test v).val = r.recognises t v)

include same

/-- A guard that accepts the values of a type, and no others, changes nothing about which values
these are, whether it is the first guard of the type or one more. -/
theorem recognises_attach (owned : r.owns t = true) (u : Token) (v : V) :
    (r.update t (·.attach g)).recognises u v = r.recognises u v := by
  by_cases here : u = t
  · subst here
    have more := guards_attach_self owned g
    by_cases bare : r.guards u = []
    · -- The test for the run-time type, which decided until now, gives way to the guard.
      have first : (r.update u (·.attach g)).guards u = [g] := by simpa [bare] using more
      rw [recognises_of_guarded (by simp [first]), first]
      simpa using same v
    · split at more
      · rw [recognises_of_guarded (more ▸ bare), more, recognises_of_guarded bare]
      · rw [recognises_of_guarded (by simp [more]), more, List.all_append,
          ← recognises_of_guarded bare]
        simp [same]
  · rw [recognises, get?_update, if_neg here, settings_update, recognises]

theorem agrees_attach (wired : ¬ r.Miswired t) : r.Agrees (r.update t (·.attach g)) where
  widening := (guarded_attach r t g).widening
  recognises := recognises_attach same (owns_of_wired wired)
  miswired u := by
    by_cases here : u = t
    · subst here
      exact iff_of_false ((guarded_attach r u g).wired wired) wired
    · rw [miswired_iff, miswired_iff, guards_attach r g here, settings_update,
        kind?_update r t u (Entry.grows_attach g)]

end Attach

/-- A type resolves to a guard that has an identity only if this is its one guard. -/
theorem resolve_eq_same {r : Registry ε V τ} {t : Token} {g : Guard ε V} :
    r.resolve t = .ok (.same g) ↔ r.guards t = [g] := by
  unfold resolve guards
  cases r.get? t with
  | none => simp
  | some e =>
    obtain ⟨name, kind, guards, incoming⟩ := e
    match guards with
    | [] =>
      cases kind with
      | structural => simp
      | nominal type => cases r.settings.autoRegister <;> simp
    | [h] => simp [Combined.intersect]
    | _ :: _ :: _ => simp [Combined.intersect]

section Turn

variable {r : Registry ε V τ} {t : Token} {c : Combined ε V} (resolved : r.resolve t = .ok c)
  (serial : Nat)

include resolved

theorem restate_eq : r.restate t serial = r.update t (·.attach (c.named serial)) := by
  rw [restate, resolved]
  simp only [Operation.perform_registerGuard, owns_of_resolve resolved, if_pos]

theorem run_registerGuard_of_resolve :
    (Edit.registerGuard t (c.named serial)).run r = .ok () (r.restate t serial) := by
  rw [restate_eq resolved, Edit.run_registerGuard, if_pos (owns_of_resolve resolved)]

theorem restate_of_single (single : (r.guards t).length = 1) : r.restate t serial = r := by
  obtain ⟨g, held⟩ := List.length_eq_one_iff.1 single
  obtain rfl : c = .same g := Except.ok.inj (resolved.symm.trans (resolve_eq_same.2 held))
  rw [restate_eq resolved]
  refine update_eq_self fun e entry => ?_
  have one : e.guards = [g] := by simpa [guards, entry] using held
  have member : g ∈ e.guards := by simp [one]
  exact Entry.attach_of_held member rfl

theorem guards_restate (other : (r.guards t).length ≠ 1)
    (fresh : ∀ g ∈ r.guards t, g.identity ≠ .made serial) :
    (r.restate t serial).guards t = r.guards t ++ [c.named serial] := by
  have made : (c.named serial).identity = .made serial := by
    cases c with
    | same g => simp [resolve_eq_same.1 resolved] at other
    | new test => rfl
  rw [restate_eq resolved, guards_attach_self (owns_of_resolve resolved), if_neg]
  intro held
  obtain ⟨g, member, same⟩ := List.any_eq_true.1 held
  exact fresh g member ((of_decide_eq_true same).trans made)

theorem resolve_restate_of_ne {u : Token} (other : u ≠ t) :
    (r.restate t serial).resolve u = r.resolve u := by
  rw [restate_eq resolved]
  exact resolve_congr (settings_update ..) (by rw [get?_update, if_neg other])

end Turn

theorem agrees_restate (r : Registry ε V τ) (t : Token) (serial : Nat) :
    r.Agrees (r.restate t serial) := by
  cases resolved : r.resolve t with
  | error e =>
    rw [restate, resolved]
    exact .refl r
  | ok c =>
    rw [restate_eq resolved]
    refine agrees_attach (fun v => ?_) (wired_of_resolve resolved)
    rw [Combined.test_named, val_resolve resolved]

theorem name_restate (r : Registry ε V τ) (t : Token) (serial : Nat) (u : Token) :
    (r.restate t serial).name u = r.name u := by
  cases resolved : r.resolve t with
  | error e => rw [restate, resolved]
  | ok c =>
    rw [restate_eq resolved]
    exact (guarded_attach r t _).growth.name fun owned => by simpa using owned

theorem agrees_restateAll (r : Registry ε V τ) (turns : List (Token × Nat)) :
    r.Agrees (r.restateAll turns) := by
  induction turns generalizing r with
  | nil => exact .refl r
  | cons turn turns ih => exact (r.agrees_restate turn.1 turn.2).trans (ih _)

theorem name_restateAll (r : Registry ε V τ) (turns : List (Token × Nat)) (u : Token) :
    (r.restateAll turns).name u = r.name u := by
  induction turns generalizing r with
  | nil => rfl
  | cons turn turns ih => exact (ih _).trans (r.name_restate turn.1 turn.2 u)

end Registry

namespace Dispatcher

/-- What a type resolves to can be registered as a guard of that type, which then resolves to a
guard that accepts the same values, while all other types resolve as they did. If the type has
exactly one guard, the registry stays as it is. Otherwise the type has one guard more, as long as
none of its guards is known by the number. After any such registrations, each guard being resolved
and registered in its turn, a function fails to build with the same error, or answers every call
alike. -/
theorem build_restated (r : Registry ε V τ) :
    (∀ t c, r.resolve t = .ok c → ∀ serial,
      (Edit.registerGuard t (c.named serial)).run r = .ok () (r.restate t serial) ∧
      (∃ again, (r.restate t serial).resolve t = .ok again ∧
        ∀ v, (again.test v).val = (c.test v).val) ∧
      (∀ u, u ≠ t → (r.restate t serial).resolve u = r.resolve u) ∧
      ((r.guards t).length = 1 → r.restate t serial = r) ∧
      ((r.guards t).length ≠ 1 → (∀ g ∈ r.guards t, g.identity ≠ .made serial) →
        (r.restate t serial).guards t = r.guards t ++ [c.named serial])) ∧
    ∀ turns d, SameOutcome (build r d) (build (r.restateAll turns) d) := by
  refine ⟨fun t c resolved serial => ⟨?_, ?_, ?_, ?_, ?_⟩, fun turns d => ?_⟩
  · exact Registry.run_registerGuard_of_resolve resolved serial
  · exact (r.agrees_restate t serial).resolve resolved
  · exact fun u => Registry.resolve_restate_of_ne resolved serial
  · exact Registry.restate_of_single resolved serial
  · exact Registry.guards_restate resolved serial
  · exact (r.agrees_restateAll turns).sameOutcome (r.name_restateAll turns) d

end Dispatcher

namespace Amount

/-- Unit 0 has no guard, parcels have two and letters have one. -/
def counter : Registry String Amount Nat :=
  (Registry.empty 0 { autoRegister := true, reach := .transitive }).after
    [.nominal 0, .declare "parcel", .declare "letter",
      .registerGuard ⟨0, 1⟩ ⟨.made 0, instanceTest 1⟩,
      .registerGuard ⟨0, 1⟩ ⟨.made 1, fun v => pure (decide (v.count < 10))⟩,
      .registerGuard ⟨0, 2⟩ ⟨.made 2, instanceTest 2⟩, .registerConversion (exchange 1 0 2)]

def post : Definition String Amount where
  overloads := [⟨[[⟨0, 0⟩], [⟨0, 2⟩]], fun _ args => pure (args.headD ⟨0, 0⟩)⟩]

/-- Parcels and unit 0 have their turn twice. -/
def queue : List (Token × Nat) :=
  [(⟨0, 1⟩, 3), (⟨0, 0⟩, 4), (⟨0, 2⟩, 5), (⟨0, 1⟩, 6), (⟨0, 0⟩, 7)]

theorem post_builds : ∃ f, Dispatcher.build counter post = .ok f ∧
    (f.call none [⟨1, 4⟩, ⟨2, 1⟩]).val = .ok ⟨0, 8⟩ ∧
    ∃ e, (f.call none [⟨1, 10⟩, ⟨2, 1⟩]).val = .error e := by
  unfold Dispatcher.build Candidate.compile Signature.compile Slot.compile
  simp only [Registry.accepted_eq_widening]
  exact ⟨_, rfl, rfl, _, rfl⟩

theorem build_restated_counter :
    ((counter.restate ⟨0, 1⟩ 3).guards ⟨0, 1⟩).map (·.identity) = [.made 0, .made 1, .made 3] ∧
    ((counter.restate ⟨0, 0⟩ 4).guards ⟨0, 0⟩).map (·.identity) = [.made 4] ∧
    counter.restate ⟨0, 2⟩ 5 = counter ∧
    ((counter.restateAll queue).guards ⟨0, 1⟩).map (·.identity) =
      [.made 0, .made 1, .made 3, .made 6] ∧
    ∃ g, Dispatcher.build (counter.restateAll queue) post = .ok g ∧
      (g.call none [⟨1, 4⟩, ⟨2, 1⟩]).val = .ok ⟨0, 8⟩ ∧
      ∃ e, (g.call none [⟨1, 10⟩, ⟨2, 1⟩]).val = .error e := by
  obtain ⟨turn, outcome⟩ := Dispatcher.build_restated counter
  obtain ⟨_, _, _, _, several⟩ := turn ⟨0, 1⟩ _ rfl 3
  obtain ⟨_, _, _, _, bare⟩ := turn ⟨0, 0⟩ _ rfl 4
  obtain ⟨_, _, _, single, _⟩ := turn ⟨0, 2⟩ _ rfl 5
  obtain ⟨f, built, result, e, refused⟩ := post_builds
  have same := outcome queue post
  rw [built] at same
  generalize again : Dispatcher.build (counter.restateAll queue) post = x at same
  cases same with
  | ok _ call =>
    refine ⟨?_, ?_, single rfl, rfl, _, rfl, (call _ _).symm.trans result, e,
      (call _ _).symm.trans refused⟩
    · rw [several (by decide) (by decide)]
      rfl
    · rw [bare (by decide) (by decide)]
      rfl

end Amount

end MultiDispatch

import MultiDispatch.Proofs.Registry.Effects
import MultiDispatch.Proofs.Soundness
import MultiDispatch.Proofs.Widening.Shortest

/-! What more conversions do to a function. A new edge may change the order in which a parameter
lists its types, and the chain along which a value is converted, so a function that is built again
is no extension of the one built before. But a parameter accepts all it accepted, and the types it
declares still come first. -/
namespace MultiDispatch

variable {ε V τ : Type}

/-- The operation registers conversions and does nothing else. -/
def Operation.Converts (op : Operation ε V τ) : Prop :=
  ∀ part ∈ op.parts, ∃ edge, part = .registerConversion edge

/-- All of an entry that tells which values belong to the type. -/
def Entry.face (e : Entry ε V τ) : String × Kind τ × List (Guard ε V) := (e.name, e.kind, e.guards)

theorem Entry.face_connect (edge : Edge ε V) (e : Entry ε V τ) :
    (e.connect edge).face = e.face := by
  unfold connect
  split <;> rfl

variable [Typed V τ] [DecidableEq τ]

namespace Registry

/-- Types are recognised as before, and each has all the edges that it had. -/
structure Rewired (r s : Registry ε V τ) : Prop where
  settings : s.settings = r.settings
  resolve : ∀ t, s.resolve t = r.resolve t
  edgesInto : ∀ t, r.edgesInto t ⊆ s.edgesInto t

theorem resolve_congr {r s : Registry ε V τ} (settings : s.settings = r.settings) {t : Token}
    (same : (s.get? t).map Entry.face = (r.get? t).map Entry.face) : s.resolve t = r.resolve t := by
  unfold resolve unknown name
  rw [settings]
  cases old : r.get? t with
  | none =>
    rw [old, Option.map_none, Option.map_eq_none_iff] at same
    rw [same]
  | some e =>
    rw [old, Option.map_some] at same
    obtain ⟨f, new, face⟩ := Option.map_eq_some_iff.1 same
    obtain ⟨name, kind, guards, incoming⟩ := e
    obtain ⟨_, _, _, later⟩ := f
    cases face
    rw [new]
    cases guards <;> rfl

theorem resolve_connect (r : Registry ε V τ) (u : Token) (edge : Edge ε V) (t : Token) :
    (r.update u (·.connect edge)).resolve t = r.resolve t := by
  apply resolve_congr (settings_update ..)
  rw [get?_update]
  split
  · rw [Option.map_map]
    exact congrArg (Option.map · (r.get? t)) (funext fun e => e.face_connect edge)
  · rfl

namespace Rewired

theorem refl (r : Registry ε V τ) : r.Rewired r := ⟨rfl, fun _ => rfl, fun _ _ into => into⟩

theorem trans {r s u : Registry ε V τ} (first : r.Rewired s) (next : s.Rewired u) :
    r.Rewired u where
  settings := next.settings.trans first.settings
  resolve t := (next.resolve t).trans (first.resolve t)
  edgesInto t := List.Subset.trans (first.edgesInto t) (next.edgesInto t)

theorem perform (edge : Edge ε V) (r : Registry ε V τ) :
    r.Rewired ((Operation.registerConversion edge).perform r).2 := by
  rw [Operation.perform_registerConversion]
  split
  · have growth := r.grows_update edge.target (Entry.grows_connect edge)
    exact ⟨growth.settings, r.resolve_connect edge.target edge,
      fun t => (growth.edgesInto t).subset⟩
  · exact refl r

theorem after {ops : List (Operation ε V τ)} (conversions : ∀ op ∈ ops, op.Converts)
    (r : Registry ε V τ) : r.Rewired (r.after ops) := by
  refine after_keeps (fun op listed part entry s rewired => ?_) (refl r)
  obtain ⟨edge, rfl⟩ := conversions op listed part entry
  exact rewired.trans (perform edge s)

variable {r s : Registry ε V τ} (rewired : r.Rewired s)

include rewired

theorem recognises (t : Token) (v : V) : s.recognises t v = r.recognises t v := by
  rw [Bool.eq_iff_iff, recognises_iff, recognises_iff, rewired.resolve]

/-- As many rounds over more edges reach at least as much. -/
theorem rounds (declared : List Token) (n : Nat) :
    (r.rounds (Accepted.declared declared) n).map (·.token) ⊆
      (s.rounds (Accepted.declared declared) n).map (·.token) := by
  induction n with
  | zero => exact fun t listed => listed
  | succ n ih =>
    intro t listed
    rcases mem_map_round.1 listed with old | ⟨a, found, e, into, source⟩
    · exact mem_map_round.2 (.inl (ih old))
    · obtain ⟨b, held, same⟩ := List.mem_map.1 (ih (List.mem_map_of_mem found))
      exact mem_map_round.2 (.inr ⟨b, held, e, same ▸ rewired.edgesInto a.token into, source⟩)

theorem widening (declared : List Token) :
    (r.widening declared).map (·.token) ⊆ (s.widening declared).map (·.token) := by
  cases reach : r.settings.reach with
  | singleHop =>
    have single : s.settings.reach = .singleHop := by rw [rewired.settings, reach]
    rw [widening_of_singleHop reach, widening_of_singleHop single]
    exact rewired.rounds declared 1
  | transitive =>
    have transitive : s.settings.reach = .transitive := by rw [rewired.settings, reach]
    obtain ⟨n, rounds⟩ := r.widening_eq_rounds declared
    rw [rounds]
    exact List.Subset.trans (rewired.rounds declared n)
      ((rounds_prefix_widening transitive declared n).map _).subset

theorem fits {params : List (List Token)} {args : List V} (fits : r.Fits params args) :
    s.Fits params args := by
  refine fits.imp fun declared v ⟨a, listed, accepts⟩ => ?_
  obtain ⟨b, held, same⟩ := List.mem_map.1 (rewired.widening declared (List.mem_map_of_mem listed))
  refine ⟨b, held, ?_⟩
  rw [same, rewired.recognises]
  exact accepts

theorem accepts {o : Overload ε V} {c b : Candidate ε V} (before : Candidate.compile r o = .ok c)
    (after : Candidate.compile s o = .ok b) {args : List V}
    (accepted : (c.accepts args).val = true) : (b.accepts args).val = true := by
  have fits := (Candidate.val_accepts before args).1 accepted
  exact (Candidate.val_accepts after args).2 (rewired.fits fits)

end Rewired

end Registry

/-- An argument that a declared type recognises stays as it is. -/
theorem Candidate.getElem?_convertArgs {r : Registry ε V τ} {o : Overload ε V} {c : Candidate ε V}
    (compiled : Candidate.compile r o = .ok c) {args : List V}
    (accepted : (c.accepts args).val = true) {i : Nat} {declared : List Token} {v : V}
    (param : o.params[i]? = some declared) (arg : args[i]? = some v)
    (recognised : ∃ t ∈ declared, r.recognises t v = true) :
    (c.convertArgs args).val[i]? = some v := by
  have fits := (Candidate.val_accepts compiled args).1 accepted
  rw [Candidate.val_convertArgs compiled (List.Forall₂.length_eq fits), List.getElem?_zipWith,
    param, arg]
  exact congrArg some (Registry.handOver_of_declared recognised)

namespace Dispatcher

/-- Where further conversions are registered before a function is built again, every candidate
accepts what it accepted, so what one candidate won is won by the same or an earlier one. The winner
still gets as they are the arguments that its parameters declare the types of. -/
theorem select_of_conversions (r : Registry ε V τ) (ops : List (Operation ε V τ))
    (conversions : ∀ op ∈ ops, op.Converts) (d : Definition ε V) (f g : Dispatcher ε V)
    (before : build r d = .ok f) (after : build (r.after ops) d = .ok g) :
    List.Forall₂ (fun c b => ∀ args, (c.accepts args).val = true → (b.accepts args).val = true)
        f.candidates g.candidates ∧
      (∀ args k c, (f.select args).val = .ok (k, c) →
        ∃ j b, (g.select args).val = .ok (j, b) ∧ j ≤ k) ∧
      ∀ receiver args j b, (g.select args).val = .ok (j, b) → ∃ o, d.overloads[j]? = some o ∧
        (g.call receiver args).val = .ok (o.method receiver (b.convertArgs args).val).val ∧
        ∀ (i : Nat) declared v, o.params[i]? = some declared → args[i]? = some v →
          (∃ t ∈ declared, ∃ guard, (r.after ops).resolve t = .ok guard ∧
            (guard.test v).val = true) →
          (b.convertArgs args).val[i]? = some v := by
  have rewired := Registry.Rewired.after conversions r
  obtain ⟨_, _, _, old, placed, _⟩ := build_eq_ok.1 before
  obtain ⟨_, _, _, new, indexed, _⟩ := build_eq_ok.1 after
  have accepting : List.Forall₂
      (fun c b => ∀ args, (c.accepts args).val = true → (b.accepts args).val = true)
      f.candidates g.candidates :=
    forall₂_of_common old new fun o c b was is args => rewired.accepts was is
  refine ⟨accepting, fun args k c selected => ?_, fun receiver args j b selected => ?_⟩
  · obtain ⟨here, accepts, _⟩ := (select_eq_ok placed).1 selected
    obtain ⟨b, there, more⟩ := exists_getElem?_of_forall₂ accepting here
    obtain ⟨j, winner, won, earlier⟩ := exists_select indexed there (more args accepts)
    exact ⟨j, winner, won, earlier⟩
  · obtain ⟨here, accepts, _⟩ := (select_eq_ok indexed).1 selected
    have made := List.Forall₂.flip (R := flip fun o c => Candidate.compile _ o = .ok c) new
    obtain ⟨o, listed, compiled⟩ := exists_getElem?_of_forall₂ made here
    refine ⟨o, listed, ?_, fun i declared v param arg recognised => ?_⟩
    · rw [call, Traced.val_bind, selected, ← (Candidate.compile_eq_ok.1 compiled).1]
      rfl
    · refine Candidate.getElem?_convertArgs compiled accepts param arg ?_
      obtain ⟨t, member, accepting⟩ := recognised
      exact ⟨t, member, Registry.recognises_iff.2 accepting⟩

end Dispatcher

namespace Amount

def market : Registry String Amount Nat :=
  (Registry.empty 0 { autoRegister := true, reach := .transitive }).after
    [.nominal 0, .nominal 1, .nominal 2, .registerConversion (exchange 2 1 5)]

/-- One of the conversions repeats an edge of the market. -/
def listings : List (Operation String Amount Nat) :=
  [.add (.conversions [exchange 2 1 5, exchange 2 0 7]), .registerConversion (exchange 0 1 11)]

def trade : Definition String Amount where
  overloads := [
    ⟨[[⟨0, 0⟩], [⟨0, 2⟩]], fun _ args => pure (args.headD ⟨0, 0⟩)⟩,
    ⟨[[⟨0, 1⟩], [⟨0, 2⟩]], fun _ args => pure (args.headD ⟨0, 0⟩)⟩]

theorem converts_listings : ∀ op ∈ listings, op.Converts := by
  intro op member
  rcases List.mem_cons.1 member with rfl | last
  · intro part listed
    obtain ⟨edge, _, same⟩ := List.mem_map.1 listed
    exact ⟨edge, same.symm⟩
  · rw [List.mem_singleton.1 last]
    intro part listed
    exact ⟨_, List.mem_singleton.1 listed⟩

theorem trade_builds : ∃ f, Dispatcher.build market trade = .ok f ∧
    ∃ c, (f.select [⟨2, 3⟩, ⟨2, 4⟩]).val = .ok (1, c) := by
  unfold Dispatcher.build Candidate.compile Signature.compile Slot.compile
  simp only [Registry.accepted_eq_widening]
  exact ⟨_, rfl, _, rfl⟩

theorem trade_builds_again : ∃ g, Dispatcher.build (market.after listings) trade = .ok g ∧
    ∃ b, (g.select [⟨2, 3⟩, ⟨2, 4⟩]).val = .ok (0, b) := by
  unfold Dispatcher.build Candidate.compile Signature.compile Slot.compile
  simp only [Registry.accepted_eq_widening]
  exact ⟨_, rfl, _, rfl⟩

theorem select_of_conversions_market : ∃ f g, Dispatcher.build market trade = .ok f ∧
    Dispatcher.build (market.after listings) trade = .ok g ∧
    (∃ c, (f.select [⟨2, 3⟩, ⟨2, 4⟩]).val = .ok (1, c)) ∧
    ∃ b, (g.select [⟨2, 3⟩, ⟨2, 4⟩]).val = .ok (0, b) ∧
      (b.convertArgs [⟨2, 3⟩, ⟨2, 4⟩]).val[1]? = some ⟨2, 4⟩ := by
  obtain ⟨f, before, c, selected⟩ := trade_builds
  obtain ⟨g, after, b, won⟩ := trade_builds_again
  obtain ⟨_, _, kept⟩ :=
    Dispatcher.select_of_conversions market listings converts_listings trade f g before after
  obtain ⟨o, here, _, same⟩ := kept none _ 0 b won
  cases here
  refine ⟨f, g, before, after, ⟨c, selected⟩, b, won, same 1 [⟨0, 2⟩] ⟨2, 4⟩ rfl rfl ?_⟩
  exact ⟨⟨0, 2⟩, List.mem_cons_self, _, rfl, rfl⟩

end Amount

end MultiDispatch

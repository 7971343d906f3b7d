import MultiDispatch.Proofs.Wiring
import MultiDispatch.Proofs.Widening.Shortest

/-! From single hop to transitive reach. The first round is the same under both, and transitive
reach only lists more types behind it. So a slot converts what it took before as before, and a call
that went to some candidate still goes to that one or to an earlier one. -/
namespace MultiDispatch

variable {ε V τ : Type}

namespace Registry

/-- The same types with the same guards and edges, under settings that may differ in reach. -/
structure Alike (r s : Registry ε V τ) : Prop where
  stamp : r.stamp = s.stamp
  entries : r.entries = s.entries
  autoRegister : r.settings.autoRegister = s.settings.autoRegister

namespace Alike

variable {r s : Registry ε V τ} (alike : r.Alike s)

include alike

theorem get? (t : Token) : r.get? t = s.get? t := by
  rw [Registry.get?, Registry.get?, alike.stamp, alike.entries]

theorem name (t : Token) : r.name t = s.name t := by
  rw [Registry.name, Registry.name, alike.get?]

theorem resolve [Typed V τ] [DecidableEq τ] (t : Token) : r.resolve t = s.resolve t := by
  rw [Registry.resolve, Registry.resolve, alike.get?, alike.autoRegister, unknown, unknown,
    alike.name]

theorem round (found : List (Accepted ε V)) : r.round found = s.round found := by
  have offers (a : Accepted ε V) : r.offers a = s.offers a := by
    rw [Registry.offers, Registry.offers, edgesInto, edgesInto, alike.get?]
  rw [Registry.round, Registry.round, gained, gained, funext offers]

theorem widening_prefix (single : r.settings.reach = .singleHop)
    (transitive : s.settings.reach = .transitive) (declared : List Token) :
    r.widening declared <+: s.widening declared := by
  have once : r.rounds (Accepted.declared declared) 1 = s.rounds (Accepted.declared declared) 1 :=
    alike.round _
  rw [widening_of_singleHop single, once]
  exact rounds_prefix_widening transitive declared 1

end Alike

end Registry

namespace Slot

/-- The larger slot lists more types behind those of the smaller, and agrees with it on all values
that the smaller takes. -/
def Extends (small large : Slot ε V) : Prop :=
  small.label = large.label ∧ small.members <+: large.members ∧
    ∀ v, (small.guard.test v).val = true → (large.guard.test v).val = true ∧
      (large.conversionFor? v).val = (small.conversionFor? v).val

theorem extends_of_prefix {small large : Slot ε V} (here : small.Marked) (there : large.Marked)
    (label : small.label = large.label) (more : small.members <+: large.members) :
    small.Extends large := by
  refine ⟨label, more, fun v accepts => ?_⟩
  obtain ⟨m, member, accepting⟩ := (small.val_guard_iff v).1 accepts
  refine ⟨(large.val_guard_iff v).2 ⟨m, more.subset member, accepting⟩, ?_⟩
  have some : (small.members.find? fun m => (m.guard.test v).val).isSome :=
    List.find?_isSome.2 ⟨m, member, accepting⟩
  obtain ⟨first, found⟩ := Option.isSome_iff_exists.1 some
  rw [there.val_conversionFor?_eq_find?, here.val_conversionFor?_eq_find?, found,
    more.find?_eq_some found]

/-- A parameter that compiles under transitive reach compiles under single hop. -/
theorem exists_compile [Typed V τ] [DecidableEq τ] {r s : Registry ε V τ} (alike : r.Alike s)
    (single : r.settings.reach = .singleHop) (transitive : s.settings.reach = .transitive)
    {declared : List Token} {large : Slot ε V} (compiled : Slot.compile s declared = .ok large) :
    ∃ small, Slot.compile r declared = .ok small ∧ small.Extends large := by
  obtain ⟨label, -, -, resolved⟩ := compile_eq_ok.1 compiled
  have first := alike.widening_prefix single transitive declared
  obtain ⟨members, kept, listed⟩ : ∃ members, members <+: large.members ∧
      members.map Member.entry = r.accepted declared := by
    refine ⟨large.members.take (r.widening declared).length, List.take_prefix _ _, ?_⟩
    rw [Registry.accepted_eq_widening, List.map_take, entries_of_compile compiled]
    exact (List.prefix_iff_eq_take.1 first).symm
  have made : Slot.compile r declared =
      .ok ⟨large.label, decide (declared.eraseDups.length < members.length), members⟩ := by
    refine compile_eq_ok.2 ⟨?_, rfl, listed, fun m member => ?_⟩
    · rw [label, funext alike.name]
    · rw [alike.resolve]
      exact resolved m (kept.subset member)
  exact ⟨_, made, extends_of_prefix (marked_of_compile made) (marked_of_compile compiled) rfl kept⟩

end Slot

namespace Candidate

/-- The same method behind slots that take more. -/
def Extends (small large : Candidate ε V) : Prop :=
  small.method = large.method ∧
    List.Forall₂ Slot.Extends small.signature.slots large.signature.slots

theorem exists_compile [Typed V τ] [DecidableEq τ] {r s : Registry ε V τ} (alike : r.Alike s)
    (single : r.settings.reach = .singleHop) (transitive : s.settings.reach = .transitive)
    {o : Overload ε V} {large : Candidate ε V} (compiled : Candidate.compile s o = .ok large) :
    ∃ small, Candidate.compile r o = .ok small ∧ small.Extends large := by
  obtain ⟨method, slots⟩ := compile_eq_ok.1 compiled
  obtain ⟨smaller, made, extending⟩ := exists_forall₂_between slots fun _ _ slot =>
    Slot.exists_compile alike single transitive slot
  exact ⟨⟨⟨smaller⟩, o.method⟩, compile_eq_ok.2 ⟨rfl, made⟩, method.symm, extending⟩

theorem accepts_iff (c : Candidate ε V) (args : List V) : (c.accepts args).val = true ↔
    List.Forall₂ (fun s v => (s.guard.test v).val = true) c.signature.slots args := by
  rw [accepts, Signature.accepts, val_tuple, List.forall₂_map_left_iff]

section Slots

variable {smaller larger : List (Slot ε V)} {args : List V}
  (extending : List.Forall₂ Slot.Extends smaller larger)
  (accepted : List.Forall₂ (fun s v => (s.guard.test v).val = true) smaller args)

include extending accepted

theorem forall₂_accepts : List.Forall₂ (fun s v => (s.guard.test v).val = true) larger args := by
  induction extending generalizing args with
  | nil => exact accepted
  | cons slot _ ih =>
    cases accepted with
    | cons here rest => exact .cons (slot.2.2 _ here).1 (ih rest)

theorem val_convertAll_extends :
    (Slot.convertAll larger args).val = (Slot.convertAll smaller args).val := by
  induction extending generalizing args with
  | nil => rfl
  | @cons small large _ _ slot _ ih =>
    cases accepted with
    | @cons _ v _ _ here rest =>
      have same : (large.convert v).val = (small.convert v).val := by
        rw [Slot.convert, Slot.convert, Traced.val_bind, Traced.val_bind, (slot.2.2 v here).2]
      simp [Slot.convertAll, same, ih rest]

end Slots

variable {small large : Candidate ε V} (growth : small.Extends large) {args : List V}
  (accepted : (small.accepts args).val = true)

include growth accepted

theorem Extends.accepts : (large.accepts args).val = true :=
  (large.accepts_iff args).2 (forall₂_accepts growth.2 ((small.accepts_iff args).1 accepted))

theorem Extends.convertArgs : (large.convertArgs args).val = (small.convertArgs args).val :=
  val_convertAll_extends growth.2 ((small.accepts_iff args).1 accepted)

end Candidate

namespace Dispatcher

variable [Typed V τ] [DecidableEq τ]

theorem exists_build_of_alike {r s : Registry ε V τ} (alike : r.Alike s)
    (single : r.settings.reach = .singleHop) (transitive : s.settings.reach = .transitive)
    {d : Definition ε V} {g : Dispatcher ε V} (built : build s d = .ok g) :
    ∃ f, build r d = .ok f ∧ List.Forall₂ Candidate.Extends f.candidates g.candidates := by
  obtain ⟨some, few, _, larger, _, _⟩ := build_eq_ok.1 built
  obtain ⟨smaller, compiled, extending⟩ := exists_forall₂_between larger fun _ _ candidate =>
    Candidate.exists_compile alike single transitive candidate
  obtain ⟨known, resolved⟩ := exists_known (mapM_eq_ok.2 compiled)
  exact ⟨⟨d.name, smaller, .ofArities (smaller.map (·.arity)), known⟩,
    build_eq_ok.2 ⟨some, few, rfl, compiled, rfl, mapM_eq_ok.1 resolved⟩, extending⟩

/-- What builds under transitive reach builds under single hop, with slots that are the beginning of
the transitive ones and convert what they take alike. The winner under transitive reach is the same
or an earlier one, and the same winner gets the same arguments. -/
theorem transitive_extends (r s : Registry ε V τ) (alike : r.Alike s)
    (single : r.settings.reach = .singleHop) (transitive : s.settings.reach = .transitive)
    (d : Definition ε V) (g : Dispatcher ε V) (built : build s d = .ok g) :
    ∃ f, build r d = .ok f ∧ List.Forall₂ Candidate.Extends f.candidates g.candidates ∧
      ∀ args k c, (f.select args).val = .ok (k, c) →
        ∃ j b, (g.select args).val = .ok (j, b) ∧ j ≤ k ∧
          (j = k → (b.convertArgs args).val = (c.convertArgs args).val) := by
  obtain ⟨f, smaller, extending⟩ := exists_build_of_alike alike single transitive built
  obtain ⟨_, _, _, _, placed, _⟩ := build_eq_ok.1 smaller
  obtain ⟨_, _, _, _, indexed, _⟩ := build_eq_ok.1 built
  refine ⟨f, smaller, extending, fun args k c selected => ?_⟩
  obtain ⟨here, accepts, _⟩ := (select_eq_ok placed).1 selected
  obtain ⟨large, there, growth⟩ := exists_getElem?_of_forall₂ extending here
  obtain ⟨j, b, winner, earlier⟩ := exists_select indexed there (growth.accepts accepts)
  refine ⟨j, b, winner, earlier, ?_⟩
  rintro rfl
  obtain rfl := Option.some.inj (there.symm.trans ((select_eq_ok indexed).1 winner).1)
  exact growth.convertArgs accepts

end Dispatcher

namespace Amount

/-- The same units where only one exchange may be made. -/
def spot : Registry String Amount Nat :=
  { units with settings := { units.settings with reach := .singleHop } }

/-- Unit 3 is exchanged for unit 0 by way of unit 1 or 2. -/
def gauge : Definition String Amount where
  overloads := [
    ⟨[[⟨0, 0⟩]], fun _ _ => pure ⟨0, 1⟩⟩,
    ⟨[[⟨0, 3⟩]], fun _ _ => pure ⟨0, 2⟩⟩]

theorem gauge_spots : ∃ f k c, Dispatcher.build spot gauge = .ok f ∧
    (f.select [⟨3, 1⟩]).val = .ok (1, k) ∧ (f.select [⟨1, 1⟩]).val = .ok (0, c) ∧
    (c.convertArgs [⟨1, 1⟩]).val = [⟨0, 2⟩] := by
  unfold Dispatcher.build Candidate.compile Signature.compile Slot.compile
  simp only [Registry.accepted_eq_widening]
  exact ⟨_, _, _, rfl, rfl, rfl, rfl⟩

theorem gauge_selects : ∃ g c, Dispatcher.build units gauge = .ok g ∧
    (g.select [⟨3, 1⟩]).val = .ok (0, c) := by
  unfold Dispatcher.build Candidate.compile Signature.compile Slot.compile
  simp only [Registry.accepted_eq_widening]
  exact ⟨_, _, rfl, rfl⟩

/-- With chains an earlier overload takes unit 3, and unit 1 is exchanged as before. -/
theorem transitive_extends_units : ∃ f g k b c, Dispatcher.build spot gauge = .ok f ∧
    Dispatcher.build units gauge = .ok g ∧
    List.Forall₂ Candidate.Extends f.candidates g.candidates ∧
    (f.select [⟨3, 1⟩]).val = .ok (1, k) ∧ (g.select [⟨3, 1⟩]).val = .ok (0, b) ∧
    (g.select [⟨1, 1⟩]).val = .ok (0, c) ∧ (c.convertArgs [⟨1, 1⟩]).val = [⟨0, 2⟩] := by
  obtain ⟨f, k, c, spotted, later, winner, converted⟩ := gauge_spots
  obtain ⟨g, b, built, first⟩ := gauge_selects
  obtain ⟨f', smaller, extending, winners⟩ :=
    Dispatcher.transitive_extends spot units ⟨rfl, rfl, rfl⟩ rfl rfl gauge g built
  cases spotted.symm.trans smaller
  obtain ⟨j, c', selected, earlier, same⟩ := winners [⟨1, 1⟩] 0 c winner
  obtain rfl := Nat.le_zero.1 earlier
  exact ⟨f, g, k, b, c', spotted, built, extending, later, first, selected,
    (same rfl).trans converted⟩

end Amount

end MultiDispatch

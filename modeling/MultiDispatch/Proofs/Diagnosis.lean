import MultiDispatch.Proofs.Meaning
import MultiDispatch.Proofs.Occurrence

/-! What a failed call says about its arguments. The types that it knows are gathered apart from the
slots, without repetitions and with guards of their own, and yet they speak for the slots: a type
that takes the argument is named if and only if some slot takes it, and it is the first of those
that the slots have. -/
namespace MultiDispatch

variable {ε V τ : Type}

namespace Dispatcher

/-- The accepted types of all slots, overload by overload and slot by slot. -/
def members (f : Dispatcher ε V) : List (Member ε V) :=
  f.candidates.flatMap fun c => c.signature.slots.flatMap (·.members)

/-- The first accepted type of all slots that takes a value. -/
def taker? (f : Dispatcher ε V) (v : V) : Option (Member ε V) :=
  f.members.find? fun m => (m.guard.test v).val

/-- No slot takes the value, whatever the arity of its overload. -/
def Refuses (f : Dispatcher ε V) (v : V) : Prop :=
  ∀ c ∈ f.candidates, ∀ s ∈ c.signature.slots, (s.guard.test v).val = false

/-- What a failed call calls an argument. A type may have the name that a run-time type has, so the
text alone does not always tell which of the two it stands for. -/
structure Describes [Typed V τ] [DecidableEq τ] (r : Registry ε V τ) (f : Dispatcher ε V) (v : V)
    (text : String) : Prop where
  /-- The first accepted type that takes the value gives its name. -/
  named : ∀ m, f.taker? v = some m → text = r.name m.token
  /-- The run-time type stands in for it. -/
  unnamed : f.taker? v = none → text = Typed.pathOf v
  refused : f.taker? v = none ↔ f.Refuses v
  registered : ∀ m, f.taker? v = some m → m ∈ f.members ∧ r.owns m.token = true ∧
    r.resolve m.token = .ok m.guard ∧ (m.guard.test v).val = true
  runtime : text = Typed.pathOf v →
    f.Refuses v ∨ ∃ m, f.taker? v = some m ∧ r.name m.token = Typed.pathOf v
  accepted : ∀ c ∈ f.candidates, ∀ s ∈ c.signature.slots, (s.guard.test v).val = true →
    ∃ t, r.owns t = true ∧ r.recognises t v = true ∧ text = r.name t

theorem taker?_eq_none {f : Dispatcher ε V} {v : V} : f.taker? v = none ↔ f.Refuses v := by
  simp only [taker?, members, Refuses, Slot.guard, Combined.union_test, Traced.val_anyM,
    List.find?_eq_none, List.mem_flatMap, List.any_map, List.any_eq_false, Function.comp_apply]
  constructor
  · intro none c candidate s slot m member
    exact none m ⟨c, candidate, s, slot, member⟩
  · rintro none m ⟨c, candidate, s, slot, member⟩
    exact none c candidate s slot m member

variable [Typed V τ] [DecidableEq τ]

section Built

variable {r : Registry ε V τ} {d : Definition ε V} {f : Dispatcher ε V}
  (built : build r d = .ok f)

include built

theorem map_token_members : f.members.map (·.token) = d.reached r := by
  obtain ⟨_, _, _, compiled, _, _⟩ := build_eq_ok.1 built
  rw [← accepted_of_candidates compiled]
  simp only [members, Signature.accepted, Slot.accepted, List.map_flatMap]

theorem resolve_of_mem_members {m : Member ε V} (member : m ∈ f.members) :
    r.resolve m.token = .ok m.guard := by
  obtain ⟨_, _, _, compiled, _, _⟩ := build_eq_ok.1 built
  obtain ⟨c, candidate, inside⟩ := List.mem_flatMap.1 member
  obtain ⟨s, slot, member⟩ := List.mem_flatMap.1 inside
  obtain ⟨o, _, made⟩ := exists_mem_of_forall₂ compiled candidate
  obtain ⟨types, _, made⟩ := exists_mem_of_forall₂ (Candidate.compile_eq_ok.1 made).2 slot
  exact Slot.resolve_of_compile made member

theorem val_guard_of_mem_members {m : Member ε V} (member : m ∈ f.members) (v : V) :
    (m.guard.test v).val = r.recognises m.token v :=
  Registry.val_resolve (resolve_of_mem_members built member) v

/-- The known types describe a value as the members of the slots do. -/
theorem val_describe_eq (v : V) : (f.describe v).val =
    ((f.taker? v).map fun m => r.name m.token).getD (Typed.pathOf v) := by
  have taker : f.taker? v = f.members.find? fun m => r.recognises m.token v := by
    rw [taker?, ← List.head?_filter, ← List.head?_filter]
    congr 1
    exact List.filter_congr fun m member => val_guard_of_mem_members built member v
  rw [val_describe built, Registry.describe, find?_eraseDups, ← map_token_members built,
    List.find?_map, Option.map_map, taker]
  rfl

theorem describes (v : V) : f.Describes r v (f.describe v).val := by
  have named {m : Member ε V} (first : f.taker? v = some m) :
      (f.describe v).val = r.name m.token := by simp [val_describe_eq built, first]
  have unnamed (none : f.taker? v = none) : (f.describe v).val = Typed.pathOf v := by
    simp [val_describe_eq built, none]
  have registered {m : Member ε V} (first : f.taker? v = some m) : m ∈ f.members ∧
      r.owns m.token = true ∧ r.resolve m.token = .ok m.guard ∧ (m.guard.test v).val = true := by
    have member := List.mem_of_find?_eq_some first
    have resolved := resolve_of_mem_members built member
    exact ⟨member, Registry.owns_of_resolve resolved, resolved, (List.find?_some first :)⟩
  refine ⟨fun m => named, unnamed, taker?_eq_none, fun m => registered, ?_, ?_⟩
  · intro runtime
    cases first : f.taker? v with
    | none => exact .inl (taker?_eq_none.1 first)
    | some m => exact .inr ⟨m, rfl, (named first).symm.trans runtime⟩
  · intro c candidate s slot accepts
    cases first : f.taker? v with
    | none =>
      rw [taker?_eq_none.1 first c candidate s slot] at accepts
      cases accepts
    | some m =>
      obtain ⟨member, owned, _, takes⟩ := registered first
      exact ⟨m.token, owned, (val_guard_of_mem_members built member v).symm.trans takes,
        named first⟩

end Built

/-- A failed call reports one description for each argument and one signature for each overload, in
order. An argument is named after the first type that takes it among all those that the slots have,
whatever the arity of their overloads, and after its run-time type if there is none. Then no slot
takes it; and whatever some slot takes is named after a registered type that takes it. -/
theorem diagnosis (r : Registry ε V τ) (d : Definition ε V) (f : Dispatcher ε V)
    (built : build r d = .ok f) (args : List V) (e : NoMatch)
    (failed : (f.select args).val = .error e) :
    (∀ receiver, (f.call receiver args).val = .error e) ∧ e.function = d.name ∧
      e.candidates = d.overloads.map (fun o => d.name ++ r.render o.params) ∧
      f.members.map (·.token) = d.reached r ∧
      List.Forall₂ (f.Describes r) args e.argTypes := by
  have lost : f.dispatch args = .error e := by rw [dispatch, failed]; rfl
  obtain ⟨_, rfl⟩ := (dispatch_eq_error built).1 lost
  refine ⟨val_call_of_error built lost, rfl, rfl, map_token_members built, ?_⟩
  rw [Registry.noMatch, List.forall₂_map_right_iff, List.forall₂_same]
  intro v _
  rw [← val_describe built]
  exact describes built v

end Dispatcher

namespace Amount

theorem measure_fails : ∃ f e, Dispatcher.build units measure = .ok f ∧
    (f.select [⟨4, 1⟩, ⟨7, 1⟩, ⟨4, 2⟩]).val = .error e ∧
    e.argTypes = ["mile", "measure::Amount", "mile"] ∧ f.taker? ⟨7, 1⟩ = none := by
  unfold Dispatcher.build Candidate.compile Signature.compile Slot.compile
  simp only [Registry.accepted_eq_widening]
  exact ⟨_, _, rfl, rfl, rfl, rfl⟩

theorem diagnosis_units : ∃ f e, Dispatcher.build units measure = .ok f ∧
    (∀ receiver, (f.call receiver [⟨4, 1⟩, ⟨7, 1⟩, ⟨4, 2⟩]).val = .error e) ∧
    e.argTypes = ["mile", "measure::Amount", "mile"] ∧ e.candidates.length = 2 ∧
    f.Refuses ⟨7, 1⟩ := by
  obtain ⟨f, e, built, failed, texts, none⟩ := measure_fails
  obtain ⟨call, _, candidates, _, described⟩ :=
    Dispatcher.diagnosis units measure f built _ e failed
  refine ⟨f, e, built, call, texts, by simp [candidates, measure], ?_⟩
  obtain ⟨_, _, second⟩ := exists_getElem?_of_forall₂ described (k := 1) rfl
  exact second.refused.1 none

end Amount

/-- A number or a text. -/
inductive Literal where
  | number (n : Int)
  | text (s : String)

namespace Literal

inductive Kind where
  | number
  | text
deriving DecidableEq

def kind : Literal → Kind
  | number _ => .number
  | text _ => .text

instance : Typed Literal Kind where
  typeOf := kind
  path
    | .number => "i64"
    | .text => "alloc::string::String"

def literals : Registry String Literal Kind :=
  (Registry.empty 0 { autoRegister := true }).after [.nominal .number]

/-- One overload, for two numbers. -/
def sum : Definition String Literal where
  overloads := [⟨[[⟨0, 0⟩], [⟨0, 0⟩]], fun _ _ => pure (.number 0)⟩]

theorem shortName_number : shortName "i64" = "i64" := by
  -- No character of the path begins a separator.
  have whole : "i64".splitOn "::" = ["i64"] := by
    rw [String.splitOn, if_neg (by decide)]
    rw [String.splitOnAux, if_neg (by decide), if_neg (by decide)]
    rw [String.splitOnAux, if_neg (by decide), if_neg (by decide)]
    rw [String.splitOnAux, if_neg (by decide), if_neg (by decide)]
    rw [String.splitOnAux, if_pos (by decide)]
    decide
  rw [shortName, if_neg (by simp), whole]
  rfl

/-- A type whose path has one component has the path for its name. A number that both slots take is
described by the text that describes a number which none takes. -/
theorem number_described : ∃ f e, Dispatcher.build literals sum = .ok f ∧
    (f.select [number 1, text "one"]).val = .error e ∧
    e.argTypes = ["i64", "alloc::string::String"] ∧ Typed.pathOf (number 1) = "i64" ∧
    (∃ m, f.taker? (number 1) = some m ∧ m.token = ⟨0, 0⟩) ∧
    ¬ List.Forall₂ (fun v text => text = Typed.pathOf v ↔ f.taker? v = none)
      [number 1, text "one"] e.argTypes ∧
    ¬ List.Forall₂ (fun v text => text = Typed.pathOf v → f.Refuses v)
      [number 1, text "one"] e.argTypes := by
  unfold Dispatcher.build Candidate.compile Signature.compile Slot.compile
  simp only [Registry.accepted_eq_widening]
  refine ⟨_, _, rfl, rfl, ?_, rfl, ⟨_, rfl, rfl⟩, ?_, ?_⟩
  · show [shortName "i64", "alloc::string::String"] = _
    rw [shortName_number]
  · rintro (_ | ⟨described, _⟩)
    have untaken := described.1 shortName_number
    cases congrArg Option.isSome untaken
  · rintro (_ | ⟨described, _⟩)
    have refused := described shortName_number _ List.mem_cons_self _ List.mem_cons_self
    cases refused

end Literal

end MultiDispatch

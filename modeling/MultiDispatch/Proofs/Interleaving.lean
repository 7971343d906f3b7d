import MultiDispatch.Proofs.Diagnosis
import MultiDispatch.Proofs.Naming
import MultiDispatch.Proofs.Order

/-! Overloads of different arities do not meet. A function may list its overloads in any order that
keeps those of one arity in theirs: it builds or fails as before, asks the same candidates in the
same order, and runs the same method on the same arguments. What it says when it fails goes by the
order of the list: which unknown type is met first, in which order the candidates are named, and
which of several types that take an argument describes it. -/
namespace MultiDispatch

variable {ε V τ : Type} [Typed V τ] [DecidableEq τ]

theorem Candidate.compile_functional (r : Registry ε V τ) :
    Relator.RightUnique fun o c => Candidate.compile r o = .ok c :=
  fun _ _ _ left right => Except.ok.inj (left.symm.trans right)

theorem KnownType.ofToken_functional (r : Registry ε V τ) :
    Relator.RightUnique fun t k => KnownType.ofToken r t = .ok k :=
  fun _ _ _ left right => Except.ok.inj (left.symm.trans right)

/-- The name of a type that takes the value depends on the order of the types if several do. -/
theorem Registry.describe_of_perm {r : Registry ε V τ} {types others : List Token}
    (perm : types.Perm others) (v : V) : r.describe types v = r.describe others v ∨
      ∃ t ∈ types, ∃ u ∈ types, t ≠ u ∧ r.recognises t v = true ∧ r.recognises u v = true ∧
        r.describe types v = r.name t ∧ r.describe others v = r.name u := by
  cases first : types.find? (r.recognises · v) with
  | none =>
    have nobody : others.find? (r.recognises · v) = none := by
      simpa [List.find?_eq_none, perm.mem_iff] using first
    simp [describe, first, nobody]
  | some t =>
    have member := List.mem_of_find?_eq_some first
    have takes : r.recognises t v = true := (List.find?_some first :)
    cases second : others.find? (r.recognises · v) with
    | none => exact absurd takes (List.find?_eq_none.1 second t (perm.mem_iff.1 member))
    | some u =>
      by_cases same : t = u
      · simp [describe, first, second, same]
      · have other := perm.mem_iff.2 (List.mem_of_find?_eq_some second)
        refine .inr ⟨t, member, u, other, same, takes, (List.find?_some second :), ?_, ?_⟩
        · simp [describe, first]
        · simp [describe, second]

namespace Dispatcher

/-- Reports on one call. They list the same signatures under the name of either function, and they
describe an argument alike unless several types take it. -/
structure SameReport (r : Registry ε V τ) (d e : Definition ε V) (args : List V)
    (a b : NoMatch) : Prop where
  functions : a.function = d.name ∧ b.function = e.name
  candidates : ∃ texts others : List String, texts.Perm others ∧
    a.candidates = texts.map (d.name ++ ·) ∧ b.candidates = others.map (e.name ++ ·)
  argTypes : ∃ text other : V → String, a.argTypes = args.map text ∧ b.argTypes = args.map other ∧
    ∀ v ∈ args, text v = other v ∨
      ∃ t ∈ d.reached r, ∃ u ∈ d.reached r, t ≠ u ∧ r.recognises t v = true ∧
        r.recognises u v = true ∧ text v = r.name t ∧ other v = r.name u

/-- One call of two functions: both run the method of one overload on the same arguments and record
the same, or both fail. -/
inductive SameCall (r : Registry ε V τ) (d e : Definition ε V) (f g : Dispatcher ε V)
    (args : List V) : Prop
  | won {o : Overload ε V} {k l : Nat} {handed : List V} (here : d.overloads[k]? = some o)
      (there : e.overloads[l]? = some o) (left : f.dispatch args = .ok (k, handed))
      (right : g.dispatch args = .ok (l, handed))
      (ran : ∀ receiver, (f.call receiver args).val = .ok (o.method receiver handed).val)
      (same : ∀ receiver, f.call receiver args = g.call receiver args)
  | lost {a b : NoMatch} (left : f.dispatch args = .error a) (right : g.dispatch args = .error b)
      (failed : ∀ receiver, (f.call receiver args).val = .error a ∧
        (g.call receiver args).val = .error b)
      (report : SameReport r d e args a b)

/-- The winner is looked for among the overloads of the arguments' arity. -/
theorem fst_winner? (r : Registry ε V τ) (d : Definition ε V) (args : List V) :
    (r.winner? d args).map (·.1) = (d.overloads.filter (·.arity = args.length)).find? fun o =>
      decide (r.Fits o.params args) := by
  have first := fst_find?_zipIdx (fun o => decide (r.Fits o.params args)) d.overloads
  rw [Registry.winner?, first, List.find?_filter]
  congr 1
  funext o
  simp only [decide_eq_true_eq, decide_eq_decide, iff_and_self]
  exact fun fits => List.Forall₂.length_eq fits

omit [DecidableEq τ] in
/-- A call that succeeds is settled by the candidates of its arity. -/
theorem call_eq_of_rivals {f g : Dispatcher ε V} {args : List V} {receiver : Option V} {v : V}
    (rivals : (f.ofArity args.length).map (·.2) = (g.ofArity args.length).map (·.2))
    (answer : (f.call receiver args).val = .ok v) :
    f.call receiver args = g.call receiver args := by
  rw [val_call_eq] at answer
  cases winner : ((f.ofArity args.length).map (·.2)).find? fun c => (c.accepts args).val with
  | none =>
    rw [winner] at answer
    cases answer
  | some c =>
    apply Traced.ext
    · rw [val_call_eq, val_call_eq, ← rivals, winner]
    · rw [log_call, log_call, ← rivals, winner]

section Rearranged

variable {r : Registry ε V τ} {d e : Definition ε V} {f g : Dispatcher ε V}

section Perm

variable (perm : d.overloads.Perm e.overloads)

include perm

theorem exists_build_of_perm : (∃ f, build r d = .ok f) ↔ ∃ g, build r e = .ok g := by
  have reached : (d.reached r).Perm (e.reached r) := perm.flatMap_right _
  have nullary : d.nullary = e.nullary := perm.countP_eq _
  have empty : d.overloads = [] ↔ e.overloads = [] := by
    rw [← List.length_eq_zero_iff, perm.length_eq, List.length_eq_zero_iff]
  simp only [exists_build, nullary, reached.mem_iff, ne_eq, empty]

theorem unnamed_of_perm {a b : ConfigError} (left : build r d = .error a)
    (right : build r e = .error b) : a.unnamed = b.unnamed := by
  have nullary : d.nullary = e.nullary := perm.countP_eq _
  rcases build_eq_error.1 left with ⟨empty, rfl⟩ | ⟨many, rfl⟩ | ⟨some, few, _, _, _, _, _, _, rfl⟩
  · rw [empty, List.nil_perm] at perm
    cases right.symm.trans (build_eq_error.2 (.inl ⟨perm, rfl⟩))
    rfl
  · rw [nullary] at many ⊢
    cases right.symm.trans (build_eq_error.2 (.inr (.inl ⟨many, rfl⟩)))
    rfl
  · rcases build_eq_error.1 right with ⟨empty, _⟩ | ⟨many, _⟩ | ⟨_, _, _, _, _, _, _, _, rfl⟩
    · rw [empty, List.perm_nil] at perm
      exact absurd perm some
    · omega
    · rfl

theorem sameReport_of_perm (args : List V) :
    SameReport r d e args (r.noMatch d args) (r.noMatch e args) where
  functions := ⟨rfl, rfl⟩
  candidates := by
    refine ⟨_, _, perm.map fun o => r.render o.params, ?_, ?_⟩
    · simp [Registry.noMatch]
    · simp [Registry.noMatch]
  argTypes := by
    have reached : (d.reached r).Perm (e.reached r) := perm.flatMap_right _
    refine ⟨_, _, rfl, rfl, fun v _ => ?_⟩
    simpa using Registry.describe_of_perm (r := r) (perm_eraseDups fun t => reached.mem_iff) v

variable (left : build r d = .ok f) (right : build r e = .ok g)

include left right

theorem candidates_perm : f.candidates.Perm g.candidates := by
  obtain ⟨_, _, _, compiled, _, _⟩ := build_eq_ok.1 left
  obtain ⟨_, _, _, compiled', _, _⟩ := build_eq_ok.1 right
  exact perm_of_forall₂ (Candidate.compile_functional r) perm compiled compiled'

theorem known_perm : f.known.Perm g.known := by
  have accepted := (candidates_perm perm left right).flatMap_right (·.signature.accepted)
  obtain ⟨_, _, _, _, _, types⟩ := build_eq_ok.1 left
  obtain ⟨_, _, _, _, _, types'⟩ := build_eq_ok.1 right
  have reached := perm_eraseDups fun t => accepted.mem_iff (a := t)
  exact perm_of_forall₂ (KnownType.ofToken_functional r) reached types types'

end Perm

section Order

variable (order : ∀ n, d.overloads.filter (·.arity = n) = e.overloads.filter (·.arity = n))
  (left : build r d = .ok f) (right : build r e = .ok g)

include order left right

theorem rivals_of_order (n : Nat) : (f.ofArity n).map (·.2) = (g.ofArity n).map (·.2) := by
  have mine := forall₂_rivals left n
  rw [order] at mine
  refine eq_of_forall₂ ?_ mine (forall₂_rivals right n)
  intro o c c' one other
  exact Candidate.compile_functional r one.1 other.1

theorem exists_dispatch_of_order {args : List V} {k : Nat} {handed : List V}
    (won : f.dispatch args = .ok (k, handed)) : ∃ o l, d.overloads[k]? = some o ∧
      e.overloads[l]? = some o ∧ g.dispatch args = .ok (l, handed) := by
  have same : (r.winner? d args).map (·.1) = (r.winner? e args).map (·.1) := by
    rw [fst_winner?, fst_winner?, order]
  have listed (d : Definition ε V) {o : Overload ε V} {k : Nat}
      (winner : r.winner? d args = some (o, k)) : d.overloads[k]? = some o :=
    List.mem_zipIdx_iff_getElem?.1 (List.mem_of_find?_eq_some winner)
  rw [dispatch_eq left, Registry.dispatch] at won
  rw [dispatch_eq right, Registry.dispatch]
  cases first : r.winner? d args with
  | none =>
    rw [first] at won
    cases won
  | some p =>
    obtain ⟨o, _⟩ := p
    rw [first] at won same
    cases won
    obtain ⟨⟨_, l⟩, second, rfl⟩ := Option.map_eq_some_iff.1 same.symm
    exact ⟨_, l, listed d first, listed e second, by rw [second]⟩

theorem sameCall_of_order (perm : d.overloads.Perm e.overloads) (args : List V) :
    SameCall r d e f g args := by
  cases answer : f.dispatch args with
  | ok winner =>
    obtain ⟨k, handed⟩ := winner
    obtain ⟨o, l, here, there, other⟩ := exists_dispatch_of_order order left right answer
    have ran := val_call_of_ok left answer here
    have rivals := rivals_of_order order left right args.length
    exact .won here there answer other ran fun receiver => call_eq_of_rivals rivals (ran receiver)
  | error a =>
    obtain ⟨unfit, rfl⟩ := (dispatch_eq_error left).1 answer
    have other := (dispatch_eq_error right).2 ⟨fun o member => unfit o (perm.mem_iff.2 member), rfl⟩
    refine .lost answer other (fun receiver => ⟨?_, ?_⟩) (sameReport_of_perm perm args)
    · exact val_call_of_error left answer receiver
    · exact val_call_of_error right other receiver

end Order

end Rearranged

/-- Functions with the same overloads, in the same order as far as they have the same arity, build or
fail alike. They are made of the same candidates and ask the same ones in the same order. Every call
finds no match with either, or runs the same method on the same arguments. Only what is said about a
failure goes by the order of the overloads. -/
theorem build_interleaved (r : Registry ε V τ) (d e : Definition ε V)
    (perm : d.overloads.Perm e.overloads)
    (order : ∀ n, d.overloads.filter (·.arity = n) = e.overloads.filter (·.arity = n)) :
    ((∃ f, build r d = .ok f) ↔ ∃ g, build r e = .ok g) ∧
    (∀ a b, build r d = .error a → build r e = .error b → a.unnamed = b.unnamed) ∧
    ∀ f g, build r d = .ok f → build r e = .ok g →
      f.candidates.Perm g.candidates ∧ f.known.Perm g.known ∧
      (∀ n, (f.ofArity n).map (·.2) = (g.ofArity n).map (·.2)) ∧
      ∀ args, SameCall r d e f g args := by
  refine ⟨exists_build_of_perm perm, fun a b => unnamed_of_perm perm, fun f g left right => ?_⟩
  exact ⟨candidates_perm perm left right, known_perm perm left right,
    rivals_of_order order left right, sameCall_of_order order left right perm⟩

end Dispatcher

namespace Amount

/-- Two types of the same values, and two types without guards. -/
def shelf : Registry String Amount Nat :=
  (Registry.empty 0 {}).after [.declare "can", .declare "tin", .declare "jar", .declare "pot",
    .registerGuard ⟨0, 0⟩ ⟨.made 0, instanceTest 0⟩,
    .registerGuard ⟨0, 1⟩ ⟨.made 0, instanceTest 0⟩]

/-- An overload with one parameter and one with two, of the given types. -/
def pile (one two : Nat) : List (Overload String Amount) :=
  [⟨[[⟨0, one⟩]], fun _ args => pure (args.headD ⟨0, 0⟩)⟩,
    ⟨[[⟨0, two⟩], [⟨0, two⟩]], fun _ args => pure ⟨0, args.length⟩⟩]

theorem perm_pile (one two : Nat) : (pile one two).Perm (pile one two).reverse :=
  (List.reverse_perm _).symm

theorem order_pile (one two n : Nat) :
    (pile one two).filter (·.arity = n) = (pile one two).reverse.filter (·.arity = n) := by
  by_cases single : 1 = n
  · subst single; simp [pile, Overload.arity]
  · simp [pile, Overload.arity, single, List.filter_cons]

theorem pile_builds : ∃ f, Dispatcher.build shelf { overloads := pile 0 1 } = .ok f ∧
    (f.call none [⟨0, 3⟩, ⟨0, 4⟩]).val = .ok ⟨0, 2⟩ := by
  unfold Dispatcher.build Candidate.compile Signature.compile Slot.compile
  simp only [Registry.accepted_eq_widening]
  exact ⟨_, rfl, rfl⟩

theorem build_interleaved_shelf :
    ∃ g, Dispatcher.build shelf { overloads := (pile 0 1).reverse } = .ok g ∧
      (g.call none [⟨0, 3⟩, ⟨0, 4⟩]).val = .ok ⟨0, 2⟩ := by
  obtain ⟨f, built, answer⟩ := pile_builds
  obtain ⟨builds, _, alike⟩ := Dispatcher.build_interleaved shelf { overloads := pile 0 1 }
    { overloads := (pile 0 1).reverse } (perm_pile 0 1) (order_pile 0 1)
  obtain ⟨g, built'⟩ := builds.1 ⟨f, built⟩
  obtain ⟨_, _, _, calls⟩ := alike f g built built'
  refine ⟨g, built', ?_⟩
  rcases calls [⟨0, 3⟩, ⟨0, 4⟩] with ⟨_, _, _, _, _, same⟩ | ⟨_, _, failed, _⟩
  · rw [← same, answer]
  · rw [(failed none).1] at answer
    cases answer

/-- More than the order of what is said may differ: an argument that two types take is described by
the one or by the other, and the one or the other type without guards is reported. -/
theorem pile_diagnoses :
    (pile 0 1).Perm (pile 0 1).reverse ∧
    (∀ n, (pile 0 1).filter (·.arity = n) = (pile 0 1).reverse.filter (·.arity = n)) ∧
    (∃ f g a b, Dispatcher.build shelf { overloads := pile 0 1 } = .ok f ∧
      Dispatcher.build shelf { overloads := (pile 0 1).reverse } = .ok g ∧
      (f.select [⟨0, 1⟩, ⟨0, 1⟩, ⟨0, 1⟩]).val = .error a ∧
      (g.select [⟨0, 1⟩, ⟨0, 1⟩, ⟨0, 1⟩]).val = .error b ∧
      a.argTypes = ["can", "can", "can"] ∧ b.argTypes = ["tin", "tin", "tin"] ∧
      ¬ a.argTypes.Perm b.argTypes) ∧
    (pile 2 3).Perm (pile 2 3).reverse ∧
    (∀ n, (pile 2 3).filter (·.arity = n) = (pile 2 3).reverse.filter (·.arity = n)) ∧
    Dispatcher.build shelf { overloads := pile 2 3 } = .error (.unknownType "jar") ∧
    Dispatcher.build shelf { overloads := (pile 2 3).reverse } = .error (.unknownType "pot") := by
  refine ⟨perm_pile 0 1, order_pile 0 1, ?_, perm_pile 2 3, order_pile 2 3, ?_⟩
  · unfold Dispatcher.build Candidate.compile Signature.compile Slot.compile
    simp only [Registry.accepted_eq_widening]
    exact ⟨_, _, _, _, rfl, rfl, rfl, rfl, rfl, rfl, by decide⟩
  · unfold Dispatcher.build Candidate.compile Signature.compile Slot.compile
    simp only [Registry.accepted_eq_widening]
    exact ⟨rfl, rfl⟩

end Amount

end MultiDispatch

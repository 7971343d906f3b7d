import MultiDispatch.Declarations
import MultiDispatch.Proofs.Meaning
import MultiDispatch.Proofs.Occurrence

/-! In which order declared overloads are tried. Declarations are collected under their names, a
name keeps the place of its first appearance, and each group is turned round in the end. Every
declaration therefore has one place among the overloads, and which of two comes first can be told
from when they were declared. -/
namespace MultiDispatch

variable {ε V τ : Type}

namespace Declarations

/-- What a list of declarations amounts to, for a function with or without a name of its own. -/
def collect (name? : Option String) (calls : List (String × Overload ε V)) : Declarations ε V :=
  calls.foldl (fun d (name, o) => d.declare name o) { name? }

/-- Where a name first appears among the declarations. -/
def appearance (calls : List (String × Overload ε V)) (name : String) : Nat :=
  (calls.map (·.1)).idxOf name

/-- The declaration at the one position is tried before that at the other: its name appeared
earlier, or they share their name and it was declared later. -/
def Precedes (calls : List (String × Overload ε V)) (i j : Nat) : Prop :=
  ∃ a b, calls[i]? = some a ∧ calls[j]? = some b ∧
    (appearance calls a.1 < appearance calls b.1 ∨ a.1 = b.1 ∧ j < i)

/-- The overloads declared under a name. -/
def under (calls : List (String × Overload ε V)) (name : String) : List (Overload ε V) :=
  (calls.filter (·.1 = name)).map (·.2)

/-- The declarations with their positions, in the order in which they are tried. -/
def arranged (calls : List (String × Overload ε V)) : List ((String × Overload ε V) × Nat) :=
  (calls.map (·.1)).eraseDups.flatMap fun name => (calls.zipIdx.filter (·.1.1 = name)).reverse

/-- An overload goes to the group of its name, and a new name gets the last group. -/
theorem insert_map {names : List String} {group : String → List (Overload ε V)} {name : String}
    (o : Overload ε V) (nodup : names.Nodup) (empty : name ∉ names → group name = []) :
    insert name o (names.map fun n => (n, group n)) =
      (if name ∈ names then names else names ++ [name]).map
        fun n => (n, if n = name then group n ++ [o] else group n) := by
  induction names with
  | nil => simp [insert, empty]
  | cons n names ih =>
    obtain ⟨new, nodup⟩ := List.nodup_cons.1 nodup
    rw [List.map_cons, insert]
    by_cases here : n = name
    · subst here
      have others : names.map (fun m => (m, group m)) =
          names.map fun m => (m, if m = n then group m ++ [o] else group m) :=
        List.map_congr_left fun m member => by
          rw [if_neg]
          rintro rfl
          exact new member
      simp [others]
    · have later := ih nodup fun absent => empty (by simp [absent, Ne.symm here])
      rw [if_neg here, later]
      by_cases old : name ∈ names <;> simp [old, here, Ne.symm here]

theorem collect_concat (name? : Option String) (calls : List (String × Overload ε V))
    (name : String) (o : Overload ε V) :
    collect name? (calls ++ [(name, o)]) = (collect name? calls).declare name o := by
  simp [collect]

theorem name?_collect (name? : Option String) (calls : List (String × Overload ε V)) :
    (collect name? calls).name? = name? := by
  induction calls using List.reverseRecOn with
  | nil => rfl
  | append_singleton calls c ih => rw [collect_concat]; exact ih

theorem groups_collect (name? : Option String) (calls : List (String × Overload ε V)) :
    (collect name? calls).groups =
      (calls.map (·.1)).eraseDups.map fun name => (name, under calls name) := by
  induction calls using List.reverseRecOn with
  | nil => rfl
  | append_singleton calls c ih =>
    obtain ⟨name, o⟩ := c
    have empty (new : name ∉ (calls.map (·.1)).eraseDups) : under calls name = [] := by
      simp only [under, List.map_eq_nil_iff, List.filter_eq_nil_iff, decide_eq_true_eq]
      rintro ⟨n, p⟩ member rfl
      exact new (List.mem_eraseDups.2 (List.mem_map_of_mem member))
    have grown (n : String) : under (calls ++ [(name, o)]) n =
        if n = name then under calls n ++ [o] else under calls n := by
      by_cases here : name = n
      · subst here; simp [under]
      · simp [under, here, Ne.symm here]
    rw [collect_concat, declare, ih, insert_map o (nodup_eraseDups _) empty, List.map_append,
      List.map_singleton, eraseDups_concat]
    simp only [grown, List.mem_eraseDups]

theorem names_collect (name? : Option String) (calls : List (String × Overload ε V)) :
    (collect name? calls).names = (calls.map (·.1)).eraseDups := by
  simp [names, groups_collect, Function.comp_def]

section Arrangement

variable {calls : List (String × Overload ε V)}

theorem map_arranged (name? : Option String) (calls : List (String × Overload ε V)) :
    (collect name? calls).toDefinition.overloads = (arranged calls).map (·.1.2) := by
  have group (name : String) : under calls name =
      (calls.zipIdx.filter (·.1.1 = name)).map (·.1.2) := by
    conv_lhs => rw [under, ← List.zipIdx_map_fst 0 calls, List.filter_map, List.map_map]
    rfl
  simp [toDefinition, groups_collect, arranged, List.flatMap_map, List.map_flatMap, group]

theorem mem_arranged {c : String × Overload ε V} {i : Nat} :
    (c, i) ∈ arranged calls ↔ calls[i]? = some c := by
  have listed : (c, i) ∈ arranged calls ↔ c.1 ∈ calls.map (·.1) ∧ (c, i) ∈ calls.zipIdx := by
    simp [arranged]
  rw [listed, List.mem_zipIdx_iff_getElem?, and_iff_right_iff_imp]
  intro here
  exact List.mem_map_of_mem (List.mem_of_getElem? here)

/-- Groups are in the order in which their names appeared, and each group is in the reverse of the
order of declaration. -/
theorem pairwise_arranged (calls : List (String × Overload ε V)) :
    (arranged calls).Pairwise fun a b =>
      appearance calls a.1.1 < appearance calls b.1.1 ∨ a.1.1 = b.1.1 ∧ b.2 < a.2 := by
  have ascending : calls.zipIdx.Pairwise fun a b => a.2 < b.2 := by
    rw [← List.pairwise_map (f := Prod.snd) (R := (· < ·)), List.zipIdx_map_snd]
    exact List.pairwise_lt_range'
  refine List.pairwise_flatMap.2 ⟨fun name _ => ?_, ?_⟩
  · rw [List.pairwise_reverse, List.pairwise_filter]
    refine ascending.imp fun lt left right => .inr ⟨?_, lt⟩
    exact (of_decide_eq_true right).trans (of_decide_eq_true left).symm
  · refine (pairwise_eraseDups (calls.map (·.1))).imp ?_
    intro m n lt a left b right
    simp only [List.mem_reverse, List.mem_filter, decide_eq_true_eq] at left right
    rw [left.2, right.2]
    exact .inl lt

/-- The positions of the declarations, in the order in which they are tried. -/
def order (calls : List (String × Overload ε V)) : List Nat := (arranged calls).map (·.2)

theorem precedes_iff {i j : Nat} {a b : String × Overload ε V} (here : calls[i]? = some a)
    (there : calls[j]? = some b) : Precedes calls i j ↔
      appearance calls a.1 < appearance calls b.1 ∨ a.1 = b.1 ∧ j < i := by
  simp [Precedes, here, there]

theorem Precedes.asymm {i j : Nat} (precedes : Precedes calls i j) : ¬ Precedes calls j i := by
  obtain ⟨a, b, here, there, left⟩ := precedes
  rw [precedes_iff there here]
  rcases left with lt | ⟨same, lt⟩
  · rintro (gt | ⟨same, _⟩)
    · omega
    · simp [same] at lt
  · rintro (lt' | ⟨_, gt⟩)
    · simp [same] at lt'
    · omega

theorem pairwise_order (calls : List (String × Overload ε V)) :
    (order calls).Pairwise (Precedes calls) := by
  refine List.pairwise_map.2 ((pairwise_arranged calls).imp_of_mem ?_)
  rintro ⟨c, i⟩ ⟨c', j⟩ left right before
  exact ⟨c, c', mem_arranged.1 left, mem_arranged.1 right, before⟩

theorem lt_iff_precedes {k l i j : Nat} (left : (order calls)[k]? = some i)
    (right : (order calls)[l]? = some j) : k < l ↔ Precedes calls i j := by
  have before {k l i j : Nat} (left : (order calls)[k]? = some i)
      (right : (order calls)[l]? = some j) (lt : k < l) : Precedes calls i j := by
    obtain ⟨bound, rfl⟩ := List.getElem?_eq_some_iff.1 left
    obtain ⟨bound', rfl⟩ := List.getElem?_eq_some_iff.1 right
    exact List.pairwise_iff_getElem.1 (pairwise_order calls) k l bound bound' lt
  constructor
  · exact before left right
  · intro precedes
    rcases Nat.lt_trichotomy k l with lt | rfl | gt
    · exact lt
    · obtain rfl := Option.some.inj (left.symm.trans right)
      exact absurd precedes precedes.asymm
    · exact absurd (before right left gt) precedes.asymm

/-- Every declaration is tried once. -/
theorem perm_order (calls : List (String × Overload ε V)) :
    (order calls).Perm (List.range calls.length) := by
  have nodup : (order calls).Nodup := (pairwise_order calls).imp fun precedes same => by
    subst same
    exact precedes.asymm precedes
  rw [List.perm_ext_iff_of_nodup nodup List.nodup_range]
  intro i
  rw [order, List.mem_map, List.mem_range]
  constructor
  · rintro ⟨⟨c, _⟩, member, rfl⟩
    exact (List.getElem?_eq_some_iff.1 (mem_arranged.1 member)).1
  · intro bound
    exact ⟨(calls[i], i), mem_arranged.2 (List.getElem?_eq_getElem bound), rfl⟩

theorem exists_place {j : Nat} {c : String × Overload ε V} (there : calls[j]? = some c) :
    ∃ l : Nat, (order calls)[l]? = some j := by
  rw [← List.mem_iff_getElem?, (perm_order calls).mem_iff, List.mem_range]
  exact (List.getElem?_eq_some_iff.1 there).1

theorem forall₂_order (name? : Option String) (calls : List (String × Overload ε V)) :
    List.Forall₂ (fun i o => ∃ name, calls[i]? = some (name, o)) (order calls)
      (collect name? calls).toDefinition.overloads := by
  rw [order, map_arranged, List.forall₂_map_left_iff, List.forall₂_map_right_iff, List.forall₂_same]
  rintro ⟨⟨name, o⟩, i⟩ member
  exact ⟨name, mem_arranged.1 member⟩

theorem size_eq_length (d : Declarations ε V) : d.size = d.toDefinition.overloads.length := by
  simp [size, toDefinition, List.length_flatMap]

theorem size_collect (name? : Option String) (calls : List (String × Overload ε V)) :
    (collect name? calls).size = calls.length := by
  rw [size_eq_length, ← (forall₂_order name? calls).length_eq, (perm_order calls).length_eq,
    List.length_range]

theorem name?_toDefinition (name? : Option String) (calls : List (String × Overload ε V)) :
    (collect name? calls).toDefinition.name? = name?.or (calls.head?.map (·.1)) := by
  cases calls <;> simp [toDefinition, name?_collect, names_collect, List.eraseDups_cons]

end Arrangement

variable [Typed V τ] [DecidableEq τ]

/-- Among the declarations that the arguments fit, none has a name that appeared earlier, and none
of the same name was declared later. -/
structure Wins (calls : List (String × Overload ε V)) (r : Registry ε V τ) (args : List V)
    (i : Nat) (name : String) (o : Overload ε V) : Prop where
  here : calls[i]? = some (name, o)
  fits : r.Fits o.params args
  earliest : ∀ (j : Nat) m (p : Overload ε V), calls[j]? = some (m, p) → r.Fits p.params args →
    appearance calls name ≤ appearance calls m
  latest : ∀ (j : Nat) (p : Overload ε V), calls[j]? = some (name, p) → r.Fits p.params args → j ≤ i

section Selection

variable {name? : Option String} {calls : List (String × Overload ε V)} {r : Registry ε V τ}
  {args : List V}

theorem wins_of_first {k i : Nat} {name : String} {o : Overload ε V}
    (placed : (order calls)[k]? = some i) (here : calls[i]? = some (name, o))
    (fits : r.Fits o.params args)
    (before : ∀ (l j : Nat) m (p : Overload ε V), l < k → (order calls)[l]? = some j →
      calls[j]? = some (m, p) → ¬ r.Fits p.params args) : Wins calls r args i name o := by
  -- Whatever else the arguments fit is tried later.
  have others (j : Nat) (m : String) (p : Overload ε V) (there : calls[j]? = some (m, p))
      (fits : r.Fits p.params args) :
      j = i ∨ appearance calls name < appearance calls m ∨ name = m ∧ j < i := by
    obtain ⟨l, spot⟩ := exists_place there
    rcases Nat.lt_trichotomy k l with lt | rfl | gt
    · exact .inr ((precedes_iff here there).1 ((lt_iff_precedes placed spot).1 lt))
    · exact .inl (Option.some.inj (spot.symm.trans placed))
    · exact absurd fits (before l j m p gt spot there)
  refine ⟨here, fits, fun j m p there fits => ?_, fun j p there fits => ?_⟩
  · rcases others j m p there fits with rfl | lt | ⟨rfl, _⟩
    · cases here.symm.trans there
      exact Nat.le_refl _
    · exact Nat.le_of_lt lt
    · exact Nat.le_refl _
  · rcases others j name p there fits with rfl | lt | ⟨_, lt⟩
    · exact Nat.le_refl _
    · omega
    · omega

/-- A call goes to the declaration that wins, or there is none that the arguments fit. -/
theorem dispatch_collect {f : Dispatcher ε V}
    (built : Dispatcher.build r (collect name? calls).toDefinition = .ok f) (args : List V) :
    (∃ i name o k, Wins calls r args i name o ∧ (order calls)[k]? = some i ∧
      f.dispatch args = .ok (k, List.zipWith r.handOver o.params args) ∧
      ∀ receiver, (f.call receiver args).val =
        .ok (o.method receiver (List.zipWith r.handOver o.params args)).val) ∨
    (∀ c ∈ calls, ¬ r.Fits c.2.params args) ∧ ∃ e, f.dispatch args = .error e ∧
      ∀ receiver, (f.call receiver args).val = .error e := by
  have declared := forall₂_order name? calls
  cases answer : f.dispatch args with
  | ok winner =>
    obtain ⟨k, handed⟩ := winner
    obtain ⟨o, listed, fits, before, rfl⟩ := (Dispatcher.dispatch_eq_ok built).1 answer
    obtain ⟨i, placed, name, here⟩ := exists_getElem?_of_forall₂ declared.flip listed
    refine .inl ⟨i, name, o, k, ?_, placed, rfl, Dispatcher.val_call_of_ok built answer listed⟩
    refine wins_of_first placed here fits fun l j m p lt spot there => ?_
    obtain ⟨q, tried, n, same⟩ := exists_getElem?_of_forall₂ declared spot
    cases there.symm.trans same
    exact before l p lt tried
  | error e =>
    obtain ⟨unfit, _⟩ := (Dispatcher.dispatch_eq_error built).1 answer
    refine .inr ⟨fun c member => ?_, e, rfl, Dispatcher.val_call_of_error built answer⟩
    obtain ⟨j, there⟩ := List.mem_iff_getElem?.1 member
    obtain ⟨l, spot⟩ := exists_place there
    obtain ⟨o, tried, name, same⟩ := exists_getElem?_of_forall₂ declared spot
    cases there.symm.trans same
    exact unfit o (List.mem_of_getElem? tried)

end Selection

/-- Declarations may be made in any order and under any names. Each of them is tried once: before
those whose names appeared later, and before the earlier ones of its own name. Of the declarations
that the arguments of a call fit, the winner is the latest one of the name that appeared first. -/
theorem convention (name? : Option String) (calls : List (String × Overload ε V)) :
    (collect name? calls).names = (calls.map (·.1)).eraseDups ∧
    (collect name? calls).size = calls.length ∧
    (collect name? calls).toDefinition.name? = name?.or (calls.head?.map (·.1)) ∧
    ∃ order : List Nat, order.Perm (List.range calls.length) ∧
      List.Forall₂ (fun i o => ∃ name, calls[i]? = some (name, o)) order
        (collect name? calls).toDefinition.overloads ∧
      (∀ (k l i j : Nat), order[k]? = some i → order[l]? = some j →
        (k < l ↔ Precedes calls i j)) ∧
      ∀ (r : Registry ε V τ) (f : Dispatcher ε V),
        Dispatcher.build r (collect name? calls).toDefinition = .ok f → ∀ args,
        (∃ i name o k, Wins calls r args i name o ∧ order[k]? = some i ∧
          f.dispatch args = .ok (k, List.zipWith r.handOver o.params args) ∧
          ∀ receiver, (f.call receiver args).val =
            .ok (o.method receiver (List.zipWith r.handOver o.params args)).val) ∨
        (∀ c ∈ calls, ¬ r.Fits c.2.params args) ∧ ∃ e, f.dispatch args = .error e ∧
          ∀ receiver, (f.call receiver args).val = .error e := by
  refine ⟨names_collect name? calls, size_collect name? calls, name?_toDefinition name? calls,
    order calls, perm_order calls, forall₂_order name? calls, ?_, ?_⟩
  · intro k l i j left right
    exact lt_iff_precedes left right
  · intro r f built args
    exact dispatch_collect built args

end Declarations

namespace Amount

/-- Two names in turn, each with two overloads. -/
def notices : List (String × Overload String Amount) :=
  [("fill", ⟨[[⟨0, 4⟩]], fun _ _ => pure ⟨0, 1⟩⟩), ("pour", ⟨[[⟨0, 0⟩]], fun _ _ => pure ⟨0, 2⟩⟩),
    ("fill", ⟨[[⟨0, 4⟩]], fun _ _ => pure ⟨0, 3⟩⟩), ("pour", ⟨[[⟨0, 4⟩]], fun _ _ => pure ⟨0, 4⟩⟩)]

theorem notices_build : ∃ f,
    Dispatcher.build units (Declarations.collect none notices).toDefinition = .ok f ∧
      (f.call none [⟨4, 1⟩]).val = .ok ⟨0, 3⟩ := by
  unfold Dispatcher.build Candidate.compile Signature.compile Slot.compile
  simp only [Registry.accepted_eq_widening]
  exact ⟨_, rfl, rfl⟩

theorem convention_notices :
    (Declarations.collect none notices).toDefinition.name? = some "fill" ∧
    (Declarations.collect none notices).size = 4 ∧
    ∃ i name o, Declarations.Wins notices units [⟨4, 1⟩] i name o ∧
      (o.method none (List.zipWith units.handOver o.params [⟨4, 1⟩])).val = ⟨0, 3⟩ := by
  obtain ⟨f, built, answer⟩ := notices_build
  obtain ⟨_, size, named, order, _, _, _, calls⟩ := Declarations.convention none notices
  refine ⟨named, size, ?_⟩
  rcases calls units f built [⟨4, 1⟩] with ⟨i, name, o, _, wins, _, _, ran⟩ | ⟨_, e, _, failed⟩
  · exact ⟨i, name, o, wins, Except.ok.inj ((ran none).symm.trans answer)⟩
  · rw [failed] at answer
    cases answer

end Amount

end MultiDispatch

import MultiDispatch.Proofs.Registry.Atomic

/-! Batches in pieces. Registrations may be handed over in one batch or cut into several that are
added one after another. While the registry owns all the types they name, both ways leave the same.
A foreign type keeps out everything that stands in its batch or behind it, so the one batch leaves
nothing and the several leave what lies in the pieces before. -/
namespace MultiDispatch

variable {ε V τ : Type}

namespace Batch

/-- The batches are consecutive pieces of the other one, whose entries are all of one kind. -/
inductive Cut : List (Batch ε V) → Batch ε V → Prop
  | guards (pieces : List (List (Token × Guard ε V))) :
      Cut (pieces.map guards) (guards pieces.flatten)
  | conversions (pieces : List (List (Edge ε V))) :
      Cut (pieces.map conversions) (conversions pieces.flatten)

namespace Cut

variable {pieces : List (Batch ε V)} {whole : Batch ε V}

theorem tokens (cut : Cut pieces whole) : whole.tokens = pieces.flatMap Batch.tokens := by
  cases cut with
  | guards pieces =>
    rw [Batch.tokens, List.map_flatten, List.flatMap_map, List.flatMap_def]
    rfl
  | conversions pieces =>
    rw [Batch.tokens, List.flatMap_map, ← List.flatMap_id, List.flatMap_assoc]
    rfl

theorem operations (cut : Cut pieces whole) :
    (whole.operations : List (Operation ε V τ)) = pieces.flatMap Batch.operations := by
  cases cut with
  | guards pieces =>
    rw [Batch.operations, List.map_flatten, List.flatMap_map, List.flatMap_def]
    rfl
  | conversions pieces =>
    rw [Batch.operations, List.map_flatten, List.flatMap_map, List.flatMap_def]
    rfl

end Cut

end Batch

namespace Registry

/-- The registry owns every type that the batch names. -/
def admits (r : Registry ε V τ) (batch : Batch ε V) : Bool := batch.tokens.all r.owns

theorem admits_iff {r : Registry ε V τ} {batch : Batch ε V} :
    r.admits batch = true ↔ ∀ t ∈ batch.tokens, r.owns t = true := List.all_eq_true

theorem admits_cut {r : Registry ε V τ} {pieces : List (Batch ε V)} {whole : Batch ε V}
    (cut : Batch.Cut pieces whole) : r.admits whole = pieces.all r.admits := by
  rw [admits, cut.tokens, List.all_flatMap]
  rfl

variable [Typed V τ] [DecidableEq τ]

/-- What a batch registers does not change which batches are admitted. -/
theorem admits_after (r : Registry ε V τ) (batch : Batch ε V) :
    (r.after batch.operations).admits = r.admits := by
  have same : (r.after batch.operations).owns = r.owns :=
    funext (owns_after fun op entry => (Operation.registers_of_mem_operations entry).1)
  funext other
  rw [admits, admits, same]

end Registry

variable [Typed V τ] [DecidableEq τ]

namespace Edit

theorem run_add_eq (batch : Batch ε V) (r : Registry ε V τ) : (add batch).run r =
    if r.admits batch then .ok () (r.after batch.operations)
    else .error (.unknownType "<foreign type>") r := by
  simp only [run_add, ← Registry.admits_iff]

/-- The batches before the first that is not admitted are registered. That one and those behind it
leave no trace. -/
theorem run_addAll (batches : List (Batch ε V)) (r : Registry ε V τ) : (addAll batches).run r =
    if batches.all r.admits then .ok () (r.after (batches.flatMap Batch.operations))
    else .error (.unknownType "<foreign type>")
      (r.after ((batches.takeWhile r.admits).flatMap Batch.operations)) := by
  induction batches generalizing r with
  | nil => rfl
  | cons batch batches ih =>
    rw [addAll, List.forM, EStateM.run_bind, run_add_eq]
    cases admitted : r.admits batch with
    | false => simp [admitted, Registry.after]
    | true =>
      rw [if_pos rfl]
      refine (ih (r.after batch.operations)).trans ?_
      simp [admitted, r.admits_after, Registry.after_append]

end Edit

namespace Registry

/-- One batch and the pieces it is cut into succeed together, and then leave the same registry. They
fail together, with the same error. The one batch then leaves the registry as it was; the pieces
leave what those before the first piece with a foreign type leave when they are added alone. -/
theorem add_pieces (r : Registry ε V τ) (pieces : List (Batch ε V)) (whole : Batch ε V)
    (cut : Batch.Cut pieces whole) :
    ((∀ t ∈ whole.tokens, r.owns t = true) → ∃ s,
      (Edit.add whole).run r = .ok () s ∧ (Edit.addAll pieces).run r = .ok () s) ∧
    ((∃ t ∈ whole.tokens, r.owns t = false) → ∃ s,
      (Edit.add whole).run r = .error (.unknownType "<foreign type>") r ∧
      (Edit.addAll pieces).run r = .error (.unknownType "<foreign type>") s ∧
      (Edit.addAll (pieces.takeWhile r.admits)).run r = .ok () s) := by
  rw [Edit.run_add_eq, Edit.run_addAll, Edit.run_addAll, admits_cut cut, cut.operations]
  constructor
  · intro owned
    have admitted : pieces.all r.admits = true := by
      rw [← admits_cut cut]
      exact admits_iff.2 owned
    exact ⟨_, if_pos admitted, if_pos admitted⟩
  · rintro ⟨t, named, foreign⟩
    have refused : ¬ pieces.all r.admits = true := by
      rw [← admits_cut cut, admits_iff]
      intro owned
      rw [owned t named] at foreign
      cases foreign
    exact ⟨_, if_neg refused, if_neg refused, if_pos List.all_takeWhile⟩

end Registry

namespace Amount

/-- The second piece repeats a guard of the first, and the third names a foreign type. -/
def seals : List (List (Token × Guard String Amount)) :=
  [[(⟨0, 0⟩, ⟨.made 1, instanceTest 0⟩)],
    [(⟨0, 0⟩, ⟨.made 1, instanceTest 0⟩), (⟨0, 4⟩, ⟨.made 2, instanceTest 7⟩)],
    [(⟨0, 1⟩, ⟨.made 3, instanceTest 1⟩), (⟨1, 0⟩, ⟨.made 4, instanceTest 1⟩)],
    [(⟨0, 2⟩, ⟨.made 5, instanceTest 2⟩)]]

theorem add_pieces_units :
    (∃ s, (Edit.add (.guards (seals.take 2).flatten)).run units = .ok () s ∧
      (Edit.addAll ((seals.take 2).map .guards)).run units = .ok () s) ∧
    ∃ s, (Edit.add (.guards seals.flatten)).run units =
        .error (.unknownType "<foreign type>") units ∧
      (Edit.addAll (seals.map .guards)).run units = .error (.unknownType "<foreign type>") s ∧
      (s.guards ⟨0, 0⟩).length = 1 ∧ (s.guards ⟨0, 4⟩).length = 2 ∧ s.guards ⟨0, 1⟩ = [] := by
  refine ⟨(Registry.add_pieces units _ _ (.guards (seals.take 2))).1 (by decide), ?_⟩
  obtain ⟨s, whole, pieces, before⟩ :=
    (Registry.add_pieces units _ _ (.guards seals)).2 ⟨⟨1, 0⟩, by decide, rfl⟩
  rw [Edit.run_addAll, if_pos List.all_takeWhile] at before
  cases before
  exact ⟨_, whole, pieces, rfl, rfl, rfl⟩

end Amount

end MultiDispatch

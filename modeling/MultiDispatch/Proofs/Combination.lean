import MultiDispatch.Guard
import Mathlib.Data.List.Forall2

/-! How guards combine. However many parts there are, they are asked in order up to the first that
settles the answer. A combination of combinations therefore asks what one combination of all their
parts would ask. -/
namespace MultiDispatch

variable {ε V α β : Type}

namespace Traced

theorem upToFirst_eq_take (p : α → Bool) (xs : List α) :
    upToFirst p xs = xs.take (xs.findIdx p + 1) := by
  induction xs with
  | nil => rfl
  | cons x xs ih => cases h : p x <;> simp [upToFirst, List.findIdx_cons, h, ih]

theorem anyM_map (p : β → Traced ε Bool) (f : α → β) (xs : List α) :
    (xs.map f).anyM p = xs.anyM fun x => p (f x) := by
  induction xs with
  | nil => rfl
  | cons x xs ih => rw [List.map_cons, List.anyM, List.anyM, ih]

theorem allM_map (p : β → Traced ε Bool) (f : α → β) (xs : List α) :
    (xs.map f).allM p = xs.allM fun x => p (f x) := by
  induction xs with
  | nil => rfl
  | cons x xs ih => rw [List.map_cons, List.allM, List.allM, ih]

/-- The second list is searched when nothing is found in the first. -/
theorem anyM_append (p : α → Traced ε Bool) (xs ys : List α) :
    (xs ++ ys).anyM p = xs.anyM p >>= (fun | true => pure true | false => ys.anyM p) := by
  induction xs with
  | nil => rfl
  | cons x xs ih =>
    rw [List.cons_append, List.anyM, List.anyM, bind_assoc]
    congr 1
    funext found
    cases found with
    | true => rfl
    | false => exact ih

theorem allM_append (p : α → Traced ε Bool) (xs ys : List α) :
    (xs ++ ys).allM p = xs.allM p >>= (fun | true => ys.allM p | false => pure false) := by
  induction xs with
  | nil => rfl
  | cons x xs ih =>
    rw [List.cons_append, List.allM, List.allM, bind_assoc]
    congr 1
    funext kept
    cases kept with
    | true => exact ih
    | false => rfl

theorem anyM_flatten (p : α → Traced ε Bool) (xss : List (List α)) :
    xss.flatten.anyM p = xss.anyM (·.anyM p) := by
  induction xss with
  | nil => rfl
  | cons xs xss ih =>
    rw [List.flatten_cons, anyM_append, List.anyM, ih]
    rfl

theorem allM_flatten (p : α → Traced ε Bool) (xss : List (List α)) :
    xss.flatten.allM p = xss.allM (·.allM p) := by
  induction xss with
  | nil => rfl
  | cons xs xss ih =>
    rw [List.flatten_cons, allM_append, List.allM, ih]
    rfl

end Traced

theorem val_tuple {tests : List (Test ε V)} {args : List V} :
    (tuple tests args).val = true ↔
      List.Forall₂ (fun test v => (test v).val = true) tests args := by
  rw [List.forall₂_iff_zip]
  unfold tuple
  split
  · rename_i same
    simp [same]
  · rename_i differ
    constructor
    · intro accepted; cases accepted
    · rintro ⟨same, _⟩
      exact absurd same.symm differ

namespace Combined

theorem union_unions (css : List (List (Combined ε V))) (v : V) :
    (union (css.map union)).test v = (union css.flatten).test v := by
  rw [union_test, union_test, Traced.anyM_map, Traced.anyM_flatten]
  simp only [union_test]

theorem intersect_intersects (css : List (List (Combined ε V))) (v : V) :
    (intersect (css.map intersect)).test v = (intersect css.flatten).test v := by
  rw [intersect_test, intersect_test, Traced.allM_map, Traced.allM_flatten]
  simp only [intersect_test]

/-- A union asks its parts up to the first that accepts, an intersection up to the first that
rejects, and a tuple of as many tests as there are arguments up to the first position that does; a
tuple of any other length asks nothing. Each asks all if none settles the answer, and two levels
of unions or of intersections ask as one does. As guards record what they like, such as their place
in the list, what is recorded tells which of them are run. -/
theorem combinations (cs : List (Combined ε V)) (css : List (List (Combined ε V)))
    (tests : List (Test ε V)) (v : V) (args : List V) :
    (((union cs).test v).val = true ↔ ∃ c ∈ cs, (c.test v).val = true) ∧
    ((union cs).test v).log =
      (cs.take (cs.findIdx (fun c => (c.test v).val) + 1)).flatMap (fun c => (c.test v).log) ∧
    (((intersect cs).test v).val = true ↔ ∀ c ∈ cs, (c.test v).val = true) ∧
    ((intersect cs).test v).log =
      (cs.take (cs.findIdx (fun c => !(c.test v).val) + 1)).flatMap (fun c => (c.test v).log) ∧
    ((tuple tests args).val = true ↔
      args.length = tests.length ∧ ∀ p ∈ tests.zip args, (p.1 p.2).val = true) ∧
    (args.length ≠ tests.length → (tuple tests args).log = []) ∧
    (args.length = tests.length → (tuple tests args).log =
      ((tests.zip args).take ((tests.zip args).findIdx (fun p => !(p.1 p.2).val) + 1)).flatMap
        fun p => (p.1 p.2).log) ∧
    (union (css.map union)).test v = (union css.flatten).test v ∧
    (intersect (css.map intersect)).test v = (intersect css.flatten).test v := by
  refine ⟨?_, ?_, ?_, ?_, ?_, fun differ => ?_, fun same => ?_, union_unions css v,
    intersect_intersects css v⟩
  · rw [union_test, Traced.val_anyM, List.any_eq_true]
  · rw [union_test, Traced.log_anyM, Traced.upToFirst_eq_take]
  · rw [intersect_test, Traced.val_allM, List.all_eq_true]
  · rw [intersect_test, Traced.log_allM, Traced.upToFirst_eq_take]
  · rw [val_tuple, List.forall₂_iff_zip, eq_comm]
    simp only [Prod.forall]
  · rw [tuple_of_length_ne differ]
    rfl
  · rw [tuple, if_pos same, Traced.log_allM, Traced.upToFirst_eq_take]

/-- Accepts the values below a number, which it records. -/
def below (n : Nat) : Combined Nat Nat := .new fun v => ⟨decide (v < n), [n]⟩

theorem combinations_below :
    ((union [below 3, below 5, below 7]).test 4).log = [3, 5] ∧
    (tuple [(below 9).test, (below 5).test, (below 3).test] [4, 6, 8]).log = [9, 5] ∧
    (tuple [(below 9).test] [4, 6]).log = [] ∧
    (union [union [], union [below 3], union [below 5, below 7]]).test 4 = ⟨true, [3, 5]⟩ := by
  obtain ⟨_, union, _, _, _, _, positions, nested, _⟩ := combinations [below 3, below 5, below 7]
    [[], [below 3], [below 5, below 7]] [(below 9).test, (below 5).test, (below 3).test] 4 [4, 6, 8]
  obtain ⟨_, _, _, _, _, lengths, _⟩ := combinations [] [] [(below 9).test] 0 [4, 6]
  exact ⟨union, positions rfl, lengths (by decide), nested⟩

end Combined

end MultiDispatch

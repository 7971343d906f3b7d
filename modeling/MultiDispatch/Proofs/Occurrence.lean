import Mathlib.Data.List.Induction
import Mathlib.Data.List.Nodup

/-! Lists without their repetitions. Each value keeps the place of its first occurrence, so whatever
asks for the first of some kind finds the same as in the list itself. -/
namespace MultiDispatch

variable {α : Type} [BEq α] [LawfulBEq α]

theorem eraseDups_concat (xs : List α) (x : α) :
    (xs ++ [x]).eraseDups = if x ∈ xs then xs.eraseDups else xs.eraseDups ++ [x] := by
  by_cases old : x ∈ xs <;> simp [List.eraseDups_append, List.removeAll, old, List.eraseDups_cons]

theorem pairwise_eraseDups (xs : List α) :
    xs.eraseDups.Pairwise fun a b => xs.idxOf a < xs.idxOf b := by
  induction xs using List.reverseRecOn with
  | nil => simp
  | append_singleton xs x ih =>
    have kept : xs.eraseDups.Pairwise fun a b => (xs ++ [x]).idxOf a < (xs ++ [x]).idxOf b := by
      refine ih.imp_of_mem fun left right lt => ?_
      rw [List.idxOf_append_of_mem (List.mem_eraseDups.1 left),
        List.idxOf_append_of_mem (List.mem_eraseDups.1 right)]
      exact lt
    rw [eraseDups_concat]
    split
    · exact kept
    · rename_i new
      refine List.pairwise_append.2 ⟨kept, by simp, fun a old b last => ?_⟩
      have seen := List.mem_eraseDups.1 old
      rw [List.mem_singleton.1 last, List.idxOf_append_of_mem seen,
        List.idxOf_append_of_notMem new]
      have := List.idxOf_lt_length_iff.2 seen
      omega

theorem nodup_eraseDups (xs : List α) : xs.eraseDups.Nodup := by
  refine (pairwise_eraseDups xs).imp fun lt same => ?_
  subst same
  omega

theorem eraseDups_eraseDups (xs : List α) : xs.eraseDups.eraseDups = xs.eraseDups := by
  induction xs using List.reverseRecOn with
  | nil => rfl
  | append_singleton xs x ih =>
    rw [eraseDups_concat]
    split
    · exact ih
    · rename_i new
      rw [eraseDups_concat, if_neg (mt List.mem_eraseDups.1 new), ih]

/-- Lists with the same values keep the same, in whatever order. -/
theorem perm_eraseDups {xs ys : List α} (same : ∀ a, a ∈ xs ↔ a ∈ ys) :
    xs.eraseDups.Perm ys.eraseDups := by
  rw [List.perm_ext_iff_of_nodup (nodup_eraseDups xs) (nodup_eraseDups ys)]
  simpa using same

theorem find?_eraseDups (p : α → Bool) (xs : List α) : xs.eraseDups.find? p = xs.find? p := by
  induction xs using List.reverseRecOn with
  | nil => rfl
  | append_singleton xs x ih =>
    rw [eraseDups_concat, List.find?_append]
    split
    · rename_i old
      rw [ih]
      cases found : xs.find? p with
      | some a => rfl
      | none =>
        have refused := List.find?_eq_none.1 found x old
        simp [refused]
    · rw [List.find?_append, ih]

end MultiDispatch

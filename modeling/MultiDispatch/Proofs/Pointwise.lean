import MultiDispatch.Traced
import Mathlib.Data.List.Forall2
import Mathlib.Data.List.Perm.Basic

/-! Lists that correspond element by element, as the parts of a compiled function correspond to those
of its source. What is searched, filtered or collected in one list has its counterpart in the
other. -/
namespace MultiDispatch

variable {α β γ : Type} {R : α → β → Prop} {xs : List α} {ys : List β}

section Agreement

variable {p : α → Bool} {q : β → Bool} (related : List.Forall₂ R xs ys)
  (agree : ∀ x y, R x y → p x = q y)

include related agree

theorem rel_find?_of_forall₂ : Option.Rel R (xs.find? p) (ys.find? q) := by
  induction related with
  | nil => exact .none
  | @cons x y _ _ head _ ih =>
    rw [List.find?_cons, List.find?_cons, agree x y head]
    split
    · exact .some head
    · exact ih

theorem forall₂_filter_of_agree :
    List.Forall₂ (fun x y => R x y ∧ p x = true) (xs.filter p) (ys.filter q) := by
  induction related with
  | nil => exact .nil
  | @cons x y _ _ head _ ih =>
    rw [List.filter_cons, List.filter_cons, ← agree x y head]
    split
    · rename_i kept
      exact .cons ⟨head, kept⟩ ih
    · exact ih

theorem flatMap_upToFirst_of_forall₂ {f : α → List γ} {g : β → List γ}
    (same : ∀ x y, R x y → f x = g y) :
    (Traced.upToFirst p xs).flatMap f = (Traced.upToFirst q ys).flatMap g := by
  induction related with
  | nil => rfl
  | cons head _ ih =>
    rw [Traced.upToFirst, Traced.upToFirst, agree _ _ head]
    split <;> simp [same _ _ head, ih]

end Agreement

theorem flatMap_eq_of_forall₂ {f : α → List γ} {g : β → List γ} (related : List.Forall₂ R xs ys)
    (same : ∀ x y, R x y → f x = g y) : xs.flatMap f = ys.flatMap g := by
  induction related with
  | nil => rfl
  | cons head _ ih => rw [List.flatMap_cons, List.flatMap_cons, same _ _ head, ih]

theorem map_eq_of_forall₂ {f : α → γ} {g : β → γ} (related : List.Forall₂ R xs ys)
    (same : ∀ x y, R x y → f x = g y) : xs.map f = ys.map g := by
  induction related with
  | nil => rfl
  | cons head _ ih => rw [List.map_cons, List.map_cons, same _ _ head, ih]

theorem forall₂_zipIdx (related : List.Forall₂ R xs ys) (k : Nat) :
    List.Forall₂ (fun p q => R p.1 q.1 ∧ p.2 = q.2) (xs.zipIdx k) (ys.zipIdx k) := by
  induction related generalizing k with
  | nil => exact .nil
  | cons head _ ih => exact .cons ⟨head, rfl⟩ (ih (k + 1))

theorem forall₂_imp_of_mem {S : α → β → Prop} (related : List.Forall₂ R xs ys)
    (imp : ∀ x ∈ xs, ∀ y, R x y → S x y) : List.Forall₂ S xs ys := by
  induction related with
  | nil => exact .nil
  | cons head _ ih =>
    obtain ⟨first, rest⟩ := List.forall_mem_cons.1 imp
    exact .cons (first _ head) (ih rest)

theorem exists_getElem?_of_forall₂ (related : List.Forall₂ R xs ys) {k : Nat} {x : α}
    (here : xs[k]? = some x) : ∃ y, ys[k]? = some y ∧ R x y := by
  induction related generalizing k with
  | nil => cases here
  | cons head _ ih =>
    cases k with
    | zero =>
      cases here
      exact ⟨_, rfl, head⟩
    | succ k => exact ih here

theorem exists_mem_of_forall₂ (related : List.Forall₂ R xs ys) {y : β} (member : y ∈ ys) :
    ∃ x ∈ xs, R x y := by
  obtain ⟨k, here⟩ := List.mem_iff_getElem?.1 member
  obtain ⟨x, there, head⟩ := exists_getElem?_of_forall₂ related.flip here
  exact ⟨x, List.mem_of_getElem? there, head⟩

theorem exists_forall₂_between {S : α → γ → Prop} {T : γ → β → Prop}
    (related : List.Forall₂ R xs ys) (each : ∀ x y, R x y → ∃ z, S x z ∧ T z y) :
    ∃ zs, List.Forall₂ S xs zs ∧ List.Forall₂ T zs ys := by
  induction related with
  | nil => exact ⟨[], .nil, .nil⟩
  | cons head _ ih =>
    obtain ⟨z, left, right⟩ := each _ _ head
    obtain ⟨zs, lefts, rights⟩ := ih
    exact ⟨z :: zs, .cons left lefts, .cons right rights⟩

/-- Two lists that correspond to the same third one correspond to each other. -/
theorem forall₂_of_common {S : α → γ → Prop} {T : β → γ → Prop} {zs : List γ}
    (left : List.Forall₂ R xs ys) (right : List.Forall₂ S xs zs)
    (each : ∀ x y z, R x y → S x z → T y z) : List.Forall₂ T ys zs := by
  induction left generalizing zs with
  | nil =>
    cases right
    exact .nil
  | cons head _ ih =>
    cases right with
    | cons other rest => exact .cons (each _ _ _ head other) (ih rest)

theorem map_eq_of_common {δ : Type} {S : α → γ → Prop} {zs : List γ} {f : β → δ} {g : γ → δ}
    (left : List.Forall₂ R xs ys) (right : List.Forall₂ S xs zs)
    (same : ∀ x y z, R x y → S x z → f y = g z) : ys.map f = zs.map g :=
  map_eq_of_forall₂ (forall₂_of_common left right same) fun _ _ equal => equal

section Functional

variable (functional : Relator.RightUnique R) {us vs : List β}

include functional

theorem eq_of_forall₂ (left : List.Forall₂ R xs us) (right : List.Forall₂ R xs vs) : us = vs :=
  functional.forall₂ left right

/-- What corresponds to a rearranged list is rearranged alike. -/
theorem perm_of_forall₂ {zs : List α} (perm : xs.Perm zs) (left : List.Forall₂ R xs us)
    (right : List.Forall₂ R zs vs) : us.Perm vs := by
  obtain ⟨ws, made, order⟩ := List.perm_comp_forall₂ perm right
  rwa [eq_of_forall₂ functional left made]

end Functional

section Search

variable {P : α → Prop} {q : β → Bool} (agree : ∀ a b, R a b → (q b = true ↔ P a))

include agree

/-- A search for what the first of the related elements has in common finds its partner. -/
theorem find?_of_forall₂ (pointwise : List.Forall₂ R xs ys)
    {earlier later : List α} {a : α} (split : xs = earlier ++ a :: later) (here : P a)
    (before : ∀ x ∈ earlier, ¬ P x) : ∃ b, R a b ∧ ys.find? q = some b := by
  induction pointwise generalizing earlier with
  | nil => simp at split
  | @cons x y xs ys related _ ih =>
    cases earlier with
    | nil =>
      obtain ⟨rfl, rfl⟩ := List.cons.inj split
      exact ⟨y, related, List.find?_cons_of_pos ((agree x y related).2 here)⟩
    | cons first earlier =>
      obtain ⟨rfl, rest⟩ := List.cons.inj split
      have skipped : ¬ q y = true :=
        fun found => before x List.mem_cons_self ((agree x y related).1 found)
      rw [List.find?_cons_of_neg skipped]
      exact ih rest fun z member => before z (List.mem_cons_of_mem _ member)

theorem find?_eq_none_of_forall₂ (pointwise : List.Forall₂ R xs ys) :
    ys.find? q = none ↔ ∀ a ∈ xs, ¬ P a := by
  induction pointwise with
  | nil => simp
  | @cons x y xs ys related _ ih =>
    rw [List.forall_mem_cons, ← ih, ← agree x y related]
    cases found : q y <;> simp [found]

end Search

end MultiDispatch

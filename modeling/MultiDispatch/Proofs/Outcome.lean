import Mathlib.Data.List.Forall2

/-! Computations that may fail. One that goes through a list succeeds when every part of it does, and
otherwise fails as the first part that fails. -/
namespace MultiDispatch

variable {κ α β : Type}

theorem bind_eq_ok {x : Except κ α} {f : α → Except κ β} {b : β} :
    x >>= f = .ok b ↔ ∃ a, x = .ok a ∧ f a = .ok b := by
  cases x with
  | error e =>
    constructor
    · intro eq; cases eq
    · rintro ⟨a, eq, _⟩; cases eq
  | ok a =>
    constructor
    · intro eq; exact ⟨a, rfl, eq⟩
    · rintro ⟨_, same, eq⟩; cases same; exact eq

theorem pure_eq_ok {a b : α} : (pure a : Except κ α) = .ok b ↔ a = b :=
  ⟨Except.ok.inj, congrArg _⟩

theorem mapError_eq_ok {κ' : Type} {f : κ → κ'} {x : Except κ α} {a : α} :
    x.mapError f = .ok a ↔ x = .ok a := by
  cases x <;> simp [Except.mapError]

theorem mapError_eq_error {κ' : Type} {f : κ → κ'} {x : Except κ α} {e : κ'} :
    x.mapError f = .error e ↔ ∃ cause, x = .error cause ∧ f cause = e := by
  cases x <;> simp [Except.mapError]

theorem exists_error_iff {x : Except κ α} : (∃ e, x = .error e) ↔ ∀ a, x ≠ .ok a := by
  cases x <;> simp

theorem bind_congr_of_ok {x : Except κ α} {f g : α → Except κ β}
    (same : ∀ a, x = .ok a → f a = g a) : x >>= f = x >>= g := by
  cases x with
  | error e => rfl
  | ok a => exact same a rfl

theorem mapM_eq_ok {f : α → Except κ β} {xs : List α} {ys : List β} :
    xs.mapM f = .ok ys ↔ List.Forall₂ (fun x y => f x = .ok y) xs ys := by
  induction xs generalizing ys with
  | nil =>
    constructor
    · intro eq; cases eq; exact .nil
    · intro pointwise; cases pointwise; rfl
  | cons x xs ih =>
    rw [List.mapM_cons, bind_eq_ok]
    constructor
    · rintro ⟨y, head, rest⟩
      obtain ⟨tail, eq, last⟩ := bind_eq_ok.1 rest
      cases last
      exact .cons head (ih.1 eq)
    · rintro (_ | ⟨head, tail⟩)
      exact ⟨_, head, bind_eq_ok.2 ⟨_, ih.2 tail, rfl⟩⟩

theorem mapM_congr {f g : α → Except κ β} {xs : List α} (same : ∀ x ∈ xs, f x = g x) :
    xs.mapM f = xs.mapM g := by
  induction xs with
  | nil => rfl
  | cons x xs ih =>
    obtain ⟨head, rest⟩ := List.forall_mem_cons.1 same
    rw [List.mapM_cons, List.mapM_cons, head, ih rest]

def failure? : Except κ α → Option κ
  | .error e => some e
  | .ok _ => none

theorem failure?_eq_some {x : Except κ α} {e : κ} : failure? x = some e ↔ x = .error e := by
  cases x <;> simp [failure?]

theorem failure?_eq_none {x : Except κ α} : failure? x = none ↔ ∃ a, x = .ok a := by
  cases x <;> simp [failure?]

theorem failure?_bind_pure (x : Except κ α) (f : α → β) :
    failure? (x >>= fun a => pure (f a)) = failure? x := by
  cases x <;> rfl

theorem failure?_mapM (f : α → Except κ β) (xs : List α) :
    failure? (xs.mapM f) = xs.findSome? fun x => failure? (f x) := by
  induction xs with
  | nil => rfl
  | cons x xs ih =>
    rw [List.mapM_cons, List.findSome?_cons]
    cases head : f x with
    | error e => rfl
    | ok y =>
      rw [← ih]
      exact failure?_bind_pure (xs.mapM f) (y :: ·)

theorem failure?_foldlM {f : β → α → Except κ β} {fault? : α → Option κ}
    (each : ∀ b a, failure? (f b a) = fault? a) (xs : List α) (b : β) :
    failure? (xs.foldlM f b) = xs.findSome? fault? := by
  induction xs generalizing b with
  | nil => rfl
  | cons x xs ih =>
    rw [List.foldlM_cons, List.findSome?_cons, ← each b x]
    cases f b x with
    | error e => rfl
    | ok next => exact ih next

end MultiDispatch

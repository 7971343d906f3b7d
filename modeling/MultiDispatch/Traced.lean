/-! Computations that record what they ran. A guard, a converter or a method answers with a value
and the ordered list of events it caused; sequencing appends the lists, so the log of a whole call
shows which predicates were tried, in which order, and where the search stopped. -/
namespace MultiDispatch

structure Traced (ε α : Type) where
  val : α
  log : List ε
deriving DecidableEq

namespace Traced

variable {ε α β : Type}

@[ext] theorem ext {x y : Traced ε α} (hv : x.val = y.val) (hl : x.log = y.log) : x = y := by
  cases x; cases y; cases hv; cases hl; rfl

instance : Monad (Traced ε) where
  pure a := ⟨a, []⟩
  bind x f :=
    let y := f x.val
    ⟨y.val, x.log ++ y.log⟩

/-- Records one event. -/
def tell (e : ε) : Traced ε Unit := ⟨(), [e]⟩

@[simp] theorem val_tell (e : ε) : (tell e).val = () := rfl
@[simp] theorem log_tell (e : ε) : (tell e).log = [e] := rfl

@[simp] theorem val_pure (a : α) : (pure a : Traced ε α).val = a := rfl
@[simp] theorem log_pure (a : α) : (pure a : Traced ε α).log = [] := rfl

@[simp] theorem val_bind (x : Traced ε α) (f : α → Traced ε β) :
    (x >>= f).val = (f x.val).val := rfl

@[simp] theorem log_bind (x : Traced ε α) (f : α → Traced ε β) :
    (x >>= f).log = x.log ++ (f x.val).log := rfl

@[simp] theorem val_map (f : α → β) (x : Traced ε α) : (f <$> x).val = f x.val := rfl

@[simp] theorem log_map (f : α → β) (x : Traced ε α) : (f <$> x).log = x.log := by
  show x.log ++ [] = x.log
  exact List.append_nil _

instance : LawfulMonad (Traced ε) := LawfulMonad.mk' (Traced ε)
  (by intro α x; apply ext <;> simp)
  (by intro α β x f; rfl)
  (by intro α β γ x f g; apply ext <;> simp [List.append_assoc])

/-! Searches over a list run each element's computation only until the answer is settled. -/

@[simp] theorem val_anyM (p : α → Traced ε Bool) (xs : List α) :
    (xs.anyM p).val = xs.any (fun x => (p x).val) := by
  induction xs with
  | nil => rfl
  | cons x xs ih => cases h : (p x).val <;> simp [List.anyM, h, ih]

@[simp] theorem val_allM (p : α → Traced ε Bool) (xs : List α) :
    (xs.allM p).val = xs.all (fun x => (p x).val) := by
  induction xs with
  | nil => rfl
  | cons x xs ih => cases h : (p x).val <;> simp [List.allM, h, ih]

@[simp] theorem val_findM? (p : α → Traced ε Bool) (xs : List α) :
    (xs.findM? p).val = xs.find? (fun x => (p x).val) := by
  induction xs with
  | nil => rfl
  | cons x xs ih => cases h : (p x).val <;> simp [List.findM?, List.find?, h, ih]

/-- The elements that a search for `p` looks at: all up to the first that has it, that one
included. -/
def upToFirst (p : α → Bool) : List α → List α
  | [] => []
  | x :: xs => if p x then [x] else x :: upToFirst p xs

theorem log_anyM (p : α → Traced ε Bool) (xs : List α) :
    (xs.anyM p).log = (upToFirst (fun x => (p x).val) xs).flatMap (fun x => (p x).log) := by
  induction xs with
  | nil => rfl
  | cons x xs ih => cases h : (p x).val <;> simp [List.anyM, upToFirst, h, ih]

theorem log_allM (p : α → Traced ε Bool) (xs : List α) :
    (xs.allM p).log = (upToFirst (fun x => !(p x).val) xs).flatMap (fun x => (p x).log) := by
  induction xs with
  | nil => rfl
  | cons x xs ih => cases h : (p x).val <;> simp [List.allM, upToFirst, h, ih]

theorem log_findM? (p : α → Traced ε Bool) (xs : List α) :
    (xs.findM? p).log = (upToFirst (fun x => (p x).val) xs).flatMap (fun x => (p x).log) := by
  induction xs with
  | nil => rfl
  | cons x xs ih => cases h : (p x).val <;> simp [List.findM?, upToFirst, h, ih]

@[simp] theorem val_mapM (f : α → Traced ε β) (xs : List α) :
    (xs.mapM f).val = xs.map (fun x => (f x).val) := by
  induction xs with
  | nil => rfl
  | cons x xs ih => simp [List.mapM_cons, ih]

@[simp] theorem log_mapM (f : α → Traced ε β) (xs : List α) :
    (xs.mapM f).log = xs.flatMap (fun x => (f x).log) := by
  induction xs with
  | nil => rfl
  | cons x xs ih => simp [List.mapM_cons, ih]

theorem upToFirst_map (p : β → Bool) (f : α → β) (xs : List α) :
    upToFirst p (xs.map f) = (upToFirst (fun x => p (f x)) xs).map f := by
  induction xs with
  | nil => rfl
  | cons x xs ih => cases h : p (f x) <;> simp [upToFirst, h, ih]

/-! A search may leave out the elements that would refuse without running anything. -/

theorem findM?_filter {p : α → Traced ε Bool} {q : α → Bool} {xs : List α}
    (silent : ∀ x, q x = false → p x = pure false) : (xs.filter q).findM? p = xs.findM? p := by
  induction xs with
  | nil => rfl
  | cons x xs ih =>
    cases h : q x with
    | true => rw [List.filter_cons_of_pos h, List.findM?, List.findM?, ih]
    | false => rw [List.filter_cons_of_neg (by simp [h]), List.findM?, silent x h, pure_bind, ih]

theorem flatMap_upToFirst_filter {p q : α → Bool} {g : α → List β} {xs : List α}
    (silent : ∀ x, q x = false → p x = false ∧ g x = []) :
    (upToFirst p (xs.filter q)).flatMap g = (upToFirst p xs).flatMap g := by
  induction xs with
  | nil => rfl
  | cons x xs ih =>
    cases h : q x with
    | true =>
      rw [List.filter_cons_of_pos h, upToFirst, upToFirst]
      split <;> simp [ih]
    | false =>
      obtain ⟨refused, nothing⟩ := silent x h
      rw [List.filter_cons_of_neg (by simp [h]), upToFirst, ih]
      simp [refused, nothing]

end Traced

end MultiDispatch

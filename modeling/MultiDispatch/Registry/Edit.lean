import MultiDispatch.Registry.Basic

/-! Changes to a registry. An edit may fail, and then says what it left behind: every single
registration checks its tokens first, so that a refused one leaves the registry as it was, while a
run of several batches keeps those before the refused one. -/
namespace MultiDispatch

variable {ε V τ : Type}

namespace Registry

/-- The token that the next new entry gets. Its position is the number of entries so far, which 32
bits hold while there are fewer than 2 ^ 32. -/
def nextToken (r : Registry ε V τ) : Token := ⟨r.stamp, r.size⟩

def push (e : Entry ε V τ) (r : Registry ε V τ) : Registry ε V τ :=
  { r with entries := r.entries ++ [e] }

/-- A new structural token, whatever names were used before. -/
def declare (name : String) (r : Registry ε V τ) : Token × Registry ε V τ :=
  (r.nextToken, r.push { name, kind := .structural })

/-- The token of a run-time type, allocated on first use. -/
def nominal [Typed V τ] [DecidableEq τ] (type : τ) (r : Registry ε V τ) :
    Token × Registry ε V τ :=
  match r.nominals.lookup type with
  | some t => (t, r)
  | none =>
    let r' := r.push { name := shortName (Typed.path V type), kind := .nominal type }
    (r.nextToken, { r' with nominals := r.nominals ++ [(type, r.nextToken)] })

/-- Changes the entry of an owned token. -/
def update (t : Token) (f : Entry ε V τ → Entry ε V τ) (r : Registry ε V τ) : Registry ε V τ :=
  if t.registry = r.stamp then { r with entries := r.entries.modify t.index f } else r

/-! How the changes look through `get?`. -/

@[simp] theorem stamp_push (e : Entry ε V τ) (r : Registry ε V τ) :
    (r.push e).stamp = r.stamp := rfl

@[simp] theorem stamp_update (t : Token) (f : Entry ε V τ → Entry ε V τ) (r : Registry ε V τ) :
    (r.update t f).stamp = r.stamp := by
  unfold update; split <;> rfl

@[simp] theorem settings_update (t : Token) (f : Entry ε V τ → Entry ε V τ) (r : Registry ε V τ) :
    (r.update t f).settings = r.settings := by
  unfold update; split <;> rfl

@[simp] theorem nominals_update (t : Token) (f : Entry ε V τ → Entry ε V τ) (r : Registry ε V τ) :
    (r.update t f).nominals = r.nominals := by
  unfold update; split <;> rfl

@[simp] theorem size_update (t : Token) (f : Entry ε V τ → Entry ε V τ) (r : Registry ε V τ) :
    (r.update t f).size = r.size := by
  unfold update; split <;> simp [size]

@[simp] theorem owns_update (t u : Token) (f : Entry ε V τ → Entry ε V τ) (r : Registry ε V τ) :
    (r.update t f).owns u = r.owns u := by
  simp [owns]

theorem get?_push (r : Registry ε V τ) (e : Entry ε V τ) (t : Token) :
    (r.push e).get? t = if t = r.nextToken then some e else r.get? t := by
  obtain ⟨registry, index⟩ := t
  by_cases hr : registry = r.stamp
  · subst hr
    by_cases hi : index = r.entries.length
    · subst hi; simp [get?, push, nextToken, size]
    · by_cases hl : index < r.entries.length
      · simp [get?, push, nextToken, size, hi, List.getElem?_append_left hl]
      · have hl : r.entries.length < index := by omega
        have : index - r.entries.length ≠ 0 := by omega
        simp [get?, push, nextToken, size, hi, List.getElem?_append_right (Nat.le_of_lt hl), this,
          Nat.le_of_lt hl]
  · simp [get?, nextToken, hr]

theorem get?_update (r : Registry ε V τ) (t u : Token) (f : Entry ε V τ → Entry ε V τ) :
    (r.update t f).get? u = if u = t then (r.get? u).map f else r.get? u := by
  obtain ⟨tr, ti⟩ := t
  obtain ⟨ur, ui⟩ := u
  by_cases ht : tr = r.stamp
  · subst ht
    by_cases hu : ur = r.stamp
    · subst hu
      by_cases hi : ui = ti
      · subst hi; simp [get?, update]
      · simp [get?, update, hi, Ne.symm hi]
    · simp [get?, update, hu]
  · by_cases hu : ur = r.stamp
    · subst hu; simp [update, ht, Ne.symm ht]
    · simp [get?, update, ht, hu]

end Registry

/-- A change that ends in a value or an error, and in a registry either way. -/
abbrev Edit (ε V τ : Type) := EStateM ConfigError (Registry ε V τ)

/-- Guards or conversions to be registered together, in order. -/
inductive Batch (ε V : Type) where
  | guards (entries : List (Token × Guard ε V))
  | conversions (edges : List (Edge ε V))

/-- The tokens that a batch names, in the order in which they are checked. -/
def Batch.tokens : Batch ε V → List Token
  | guards entries => entries.map (·.1)
  | conversions edges => edges.flatMap fun e => [e.source, e.target]

namespace Edit

/-- Fails unless the registry allocated the token. -/
def require (t : Token) : Edit ε V τ Unit := fun r =>
  if r.owns t then .ok () r else .error (r.unknown t) r

@[simp] theorem run_require (t : Token) (r : Registry ε V τ) :
    (require t).run r = if r.owns t then .ok () r else .error (r.unknown t) r := rfl

def registerGuard (t : Token) (g : Guard ε V) : Edit ε V τ Unit := do
  require t
  modify (·.update t (·.attach g))

theorem run_registerGuard (t : Token) (g : Guard ε V) (r : Registry ε V τ) :
    (registerGuard t g).run r =
      if r.owns t then .ok () (r.update t (·.attach g)) else .error (r.unknown t) r := by
  rw [registerGuard, EStateM.run_bind, run_require]
  cases r.owns t with
  | false => rfl
  | true => rfl

def registerConversion (edge : Edge ε V) : Edit ε V τ Unit := do
  require edge.source
  require edge.target
  modify (·.update edge.target (·.connect edge))

theorem run_registerConversion (edge : Edge ε V) (r : Registry ε V τ) :
    (registerConversion edge).run r =
      if !r.owns edge.source then .error (r.unknown edge.source) r
      else if !r.owns edge.target then .error (r.unknown edge.target) r
      else .ok () (r.update edge.target (·.connect edge)) := by
  rw [registerConversion, EStateM.run_bind, run_require]
  cases r.owns edge.source with
  | false => rfl
  | true =>
    simp only [if_true, Bool.not_true, Bool.false_eq_true, if_false]
    rw [EStateM.run_bind, run_require]
    cases r.owns edge.target with
    | false => rfl
    | true => rfl

/-- Registers a batch once all its tokens are found to be owned. -/
def add (batch : Batch ε V) : Edit ε V τ Unit := do
  batch.tokens.forM require
  match batch with
  | .guards entries => entries.forM fun (t, g) => registerGuard t g
  | .conversions edges => edges.forM registerConversion

/-- Adds batches in order, up to the first that is refused. -/
def addAll (batches : List (Batch ε V)) : Edit ε V τ Unit := batches.forM add

/-- Gives a nominal token without guards the guard of its run-time type; says whether it did. -/
def autoRegister [Typed V τ] [DecidableEq τ] (t : Token) : Edit ε V τ Bool := do
  require t
  match (← get).get? t with
  | some { kind := .nominal type, guards := [], .. } =>
    modify (·.update t (·.attach ⟨.seeded t, instanceTest type⟩))
    return true
  | _ => return false

end Edit

end MultiDispatch

import MultiDispatch.Proofs.Registry.Effects

/-! Registries without the names that were declared. Every operation does to such a registry what it
does to the one with names, and answers the same: no entry is looked up, compared or refused by its
name. -/
namespace MultiDispatch

variable {ε V τ : Type}

/-- A run-time type keeps its name, which nobody declares. -/
def Entry.unnamed (e : Entry ε V τ) : Entry ε V τ :=
  { e with name := match e.kind with
      | .structural => ""
      | .nominal _ => e.name }

theorem Entry.unnamed_attach (e : Entry ε V τ) (g : Guard ε V) :
    (e.attach g).unnamed = e.unnamed.attach g := by
  unfold attach
  rw [show e.unnamed.guards = e.guards from rfl]
  split <;> rfl

theorem Entry.unnamed_connect (e : Entry ε V τ) (edge : Edge ε V) :
    (e.connect edge).unnamed = e.unnamed.connect edge := by
  unfold connect
  rw [show e.unnamed.incoming = e.incoming from rfl]
  split <;> rfl

namespace Registry

def unnamed (r : Registry ε V τ) : Registry ε V τ :=
  { r with entries := r.entries.map Entry.unnamed }

@[simp] theorem unnamed_settings (r : Registry ε V τ) : r.unnamed.settings = r.settings := rfl

@[simp] theorem unnamed_get? (r : Registry ε V τ) (t : Token) :
    r.unnamed.get? t = (r.get? t).map Entry.unnamed := by
  unfold get? unnamed
  split <;> simp

@[simp] theorem unnamed_owns (r : Registry ε V τ) (t : Token) : r.unnamed.owns t = r.owns t := by
  rw [← isSome_get?, ← isSome_get?, unnamed_get?, Option.isSome_map]

@[simp] theorem unnamed_kind? (r : Registry ε V τ) (t : Token) : r.unnamed.kind? t = r.kind? t := by
  rw [kind?, unnamed_get?, Option.map_map]
  rfl

@[simp] theorem unnamed_guards (r : Registry ε V τ) (t : Token) :
    r.unnamed.guards t = r.guards t := by
  rw [guards, unnamed_get?, Option.map_map]
  rfl

@[simp] theorem unnamed_edgesInto (r : Registry ε V τ) (t : Token) :
    r.unnamed.edgesInto t = r.edgesInto t := by
  rw [edgesInto, unnamed_get?, Option.map_map]
  rfl

theorem unnamed_push (r : Registry ε V τ) (e : Entry ε V τ) :
    (r.push e).unnamed = r.unnamed.push e.unnamed := by
  simp [push, unnamed]

theorem unnamed_nextToken (r : Registry ε V τ) : r.unnamed.nextToken = r.nextToken := by
  simp [nextToken, size, unnamed]

theorem unnamed_update (r : Registry ε V τ) (t : Token) {f : Entry ε V τ → Entry ε V τ}
    (commutes : ∀ e, (f e).unnamed = f e.unnamed) :
    (r.update t f).unnamed = r.unnamed.update t f := by
  unfold update
  rw [show r.unnamed.stamp = r.stamp from rfl]
  split
  · have entries : (r.entries.modify t.index f).map Entry.unnamed =
        (r.entries.map Entry.unnamed).modify t.index f := by
      apply List.ext_getElem?
      intro i
      simp only [List.getElem?_map, List.getElem?_modify]
      cases r.entries[i]? with
      | none => rfl
      | some e => by_cases here : t.index = i <;> simp [here, commutes]
    rw [unnamed, entries]
    rfl
  · rfl

end Registry

/-- The operation with no name declared. -/
def Operation.unnamed : Operation ε V τ → Operation ε V τ
  | declare _ => declare ""
  | op => op

theorem Operation.unnamed_of_registers {op : Operation ε V τ} (registers : op.Registers) :
    op.unnamed = op := by
  cases op <;> first | rfl | exact registers.elim

variable [Typed V τ] [DecidableEq τ]

theorem Registry.unnamed_nominal (r : Registry ε V τ) (type : τ) :
    r.unnamed.nominal type = ((r.nominal type).1, (r.nominal type).2.unnamed) := by
  unfold nominal
  rw [show r.unnamed.nominals = r.nominals from rfl, r.unnamed_nextToken]
  cases r.nominals.lookup type with
  | some t => rfl
  | none => simp [push, unnamed, Entry.unnamed]

namespace Operation

/-- Leaving out names before or after an operation makes no difference. Refusals do not tell the two
registries apart: only foreign tokens are refused, and these have no names of their own. -/
theorem perform_unnamed_of_single {op : Operation ε V τ} (single : op.Single) (r : Registry ε V τ) :
    op.unnamed.perform r.unnamed = ((op.perform r).1, (op.perform r).2.unnamed) := by
  cases op with
  | declare name =>
    have new : (r.declare name).2.unnamed = (r.unnamed.declare "").2 := r.unnamed_push _
    have token : (r.unnamed.declare "").1 = (r.declare name).1 := r.unnamed_nextToken
    exact Prod.ext (congrArg Outcome.token token) new.symm
  | nominal type =>
    show (r.unnamed.nominal type).map Outcome.token id = _
    rw [r.unnamed_nominal]
    rfl
  | registerGuard t g =>
    show (registerGuard t g).perform r.unnamed = _
    rw [perform_registerGuard, perform_registerGuard, Registry.unnamed_owns]
    split
    · rw [r.unnamed_update t (·.unnamed_attach g)]
    · rfl
  | registerConversion edge =>
    show (registerConversion edge).perform r.unnamed = _
    rw [perform_registerConversion, perform_registerConversion, Registry.unnamed_owns,
      Registry.unnamed_owns]
    split
    · rw [r.unnamed_update edge.target (·.unnamed_connect edge)]
    · rfl
  | autoRegister t =>
    show (autoRegister t).perform r.unnamed = _
    rw [perform, Edit.perform, Edit.run_autoRegister, perform, Edit.perform, Edit.run_autoRegister,
      Registry.unnamed_get?]
    cases entry : r.get? t with
    | none =>
      have foreign : r.owns t = false := by rw [← r.isSome_get?, entry, Option.isSome_none]
      have foreign' : r.unnamed.owns t = false := by rw [r.unnamed_owns, foreign]
      simp only [Option.map_none, Registry.unknown_of_foreign foreign,
        Registry.unknown_of_foreign foreign']
    | some e =>
      obtain ⟨name, kind, guards, incoming⟩ := e
      cases kind with
      | structural => rfl
      | nominal type =>
        cases guards with
        | cons => rfl
        | nil =>
          have attached := r.unnamed_update t (f := (·.attach ⟨.seeded t, instanceTest type⟩))
            (·.unnamed_attach _)
          exact congrArg (Prod.mk _) attached.symm
  | _ => exact single.elim

end Operation

namespace Registry

theorem after_unnamed_of_registers {ops : List (Operation ε V τ)}
    (registers : ∀ op ∈ ops, op.Registers) (r : Registry ε V τ) :
    r.unnamed.after ops = (r.after ops).unnamed := by
  induction ops generalizing r with
  | nil => rfl
  | cons op ops ih =>
    obtain ⟨first, rest⟩ := List.forall_mem_cons.1 registers
    have step := op.perform_unnamed_of_single first.single r
    rw [op.unnamed_of_registers first] at step
    show (op.perform r.unnamed).2.after ops = ((op.perform r).2.after ops).unnamed
    rw [step]
    exact ih rest _

theorem after_unnamed_operations (batch : Batch ε V) (r : Registry ε V τ) :
    r.unnamed.after batch.operations = (r.after batch.operations).unnamed :=
  after_unnamed_of_registers (fun _ entry => (Operation.registers_of_mem_operations entry).1) r

end Registry

theorem Operation.perform_unnamed (op : Operation ε V τ) (r : Registry ε V τ) :
    op.unnamed.perform r.unnamed = ((op.perform r).1, (op.perform r).2.unnamed) := by
  cases op with
  | add batch =>
    show (add batch).perform r.unnamed = _
    rw [perform_add, perform_add]
    simp only [Registry.unnamed_owns, Registry.after_unnamed_operations]
    split <;> rfl
  | addAll batches =>
    show (addAll batches).perform r.unnamed = _
    induction batches generalizing r with
    | nil => rfl
    | cons batch batches ih =>
      rw [perform_addAll_cons, perform_addAll_cons]
      simp only [Registry.unnamed_owns, Registry.after_unnamed_operations]
      split
      · exact ih _
      · rfl
  | _ =>
    apply perform_unnamed_of_single
    trivial

namespace Registry

/-- What the operations of a run answer. -/
def outcomes (r : Registry ε V τ) : List (Operation ε V τ) → List Outcome
  | [] => []
  | op :: ops => (op.perform r).1 :: (op.perform r).2.outcomes ops

/-- Without its names, a run gives the same answers and leaves the registry without its names. -/
theorem run_unnamed (ops : List (Operation ε V τ)) (r : Registry ε V τ) :
    r.unnamed.outcomes (ops.map Operation.unnamed) = r.outcomes ops ∧
      r.unnamed.after (ops.map Operation.unnamed) = (r.after ops).unnamed := by
  induction ops generalizing r with
  | nil => exact ⟨rfl, rfl⟩
  | cons op ops ih =>
    obtain ⟨answers, left⟩ := ih (op.perform r).2
    have step := op.perform_unnamed r
    constructor
    · rw [List.map_cons, outcomes, outcomes, step, answers]
    · show (op.unnamed.perform r.unnamed).2.after (ops.map Operation.unnamed) = _
      rw [step, left]
      rfl

end Registry

end MultiDispatch

import MultiDispatch.Proofs.Registry.Atomic

/-! What an operation leaves alone. Every part of an operation changes the entry of one type at
most: it gives it a guard, or it leads an edge into it. What is known of all other types is as
before, and so a run keeps what none of its parts is about. -/
namespace MultiDispatch

variable {ε V τ : Type}

namespace Operation

/-- The type that the operation has a guard for. -/
def guarded? : Operation ε V τ → Option Token
  | registerGuard t _ | autoRegister t => some t
  | _ => none

/-- The type that the operation has an edge into. -/
def fed? : Operation ε V τ → Option Token
  | registerConversion edge => some edge.target
  | _ => none

/-- The operation is no batch and no list of batches. -/
def Single : Operation ε V τ → Prop
  | add _ | addAll _ => False
  | _ => True

theorem Registers.single {op : Operation ε V τ} (registers : op.Registers) : op.Single := by
  cases op <;> first | exact trivial | exact registers.elim

theorem single_of_mem_parts {op part : Operation ε V τ} (member : part ∈ op.parts) :
    part.Single := by
  cases op with
  | add batch => exact (registers_of_mem_operations member).1.single
  | addAll batches =>
    obtain ⟨batch, _, entry⟩ := List.mem_flatMap.1 member
    exact (registers_of_mem_operations entry).1.single
  | _ =>
    rw [List.mem_singleton.1 member]
    trivial

end Operation

namespace Registry

theorem guards_push (r : Registry ε V τ) (e : Entry ε V τ) (empty : e.guards = []) (t : Token) :
    (r.push e).guards t = r.guards t := by
  unfold guards
  rw [get?_push]
  split
  · rename_i new
    simp [new, get?_nextToken, empty]
  · rfl

theorem guards_attach (r : Registry ε V τ) {t u : Token} (g : Guard ε V) (other : t ≠ u) :
    (r.update u (·.attach g)).guards t = r.guards t := by
  rw [guards, get?_update, if_neg other, guards]

theorem guards_attach_self {r : Registry ε V τ} {t : Token} (owned : r.owns t = true)
    (g : Guard ε V) : (r.update t (·.attach g)).guards t =
      if (r.guards t).any (·.identity = g.identity) then r.guards t else r.guards t ++ [g] := by
  obtain ⟨e, entry⟩ := exists_get? owned
  have before : r.guards t = e.guards := by simp [guards, entry]
  have after : (r.update t (·.attach g)).guards t = (e.attach g).guards := by
    simp [guards, get?_update, entry]
  rw [before, after, Entry.attach]
  split <;> rfl

theorem guards_connect (r : Registry ε V τ) (edge : Edge ε V) (t u : Token) :
    (r.update u (·.connect edge)).guards t = r.guards t := by
  have same (e : Entry ε V τ) : (e.connect edge).guards = e.guards := by
    unfold Entry.connect
    split <;> rfl
  unfold guards
  rw [get?_update]
  split <;> simp [Function.comp_def, same]

theorem edgesInto_connect_of_ne (r : Registry ε V τ) {edge : Edge ε V} {t : Token}
    (other : t ≠ edge.target) : (r.update edge.target (·.connect edge)).edgesInto t =
      r.edgesInto t := by
  rw [edgesInto_update, if_neg other]

end Registry

variable [Typed V τ] [DecidableEq τ] {r : Registry ε V τ} {t : Token}

namespace Operation

variable {op : Operation ε V τ}

/-- All that a single operation can do: nothing, one type more, one guard more or one edge more. -/
theorem perform_cases (single : op.Single) (r : Registry ε V τ) :
    (op.perform r).2 = r ∨
    (∃ e nominals, e.guards = [] ∧ e.incoming = [] ∧
      (op.perform r).2 = { r.push e with nominals }) ∨
    (∃ u g, op.guarded? = some u ∧ (op.perform r).2 = r.update u (·.attach g)) ∨
    ∃ edge, op.fed? = some edge.target ∧
      (op.perform r).2 = r.update edge.target (·.connect edge) := by
  cases op with
  | declare name => exact .inr (.inl ⟨{ name, kind := .structural }, r.nominals, rfl, rfl, rfl⟩)
  | nominal type =>
    cases held : r.nominals.lookup type with
    | some t => exact .inl (by simp [perform, Registry.nominal, held])
    | none =>
      refine .inr (.inl ⟨{ name := shortName (Typed.path V type), kind := .nominal type },
        r.nominals ++ [(type, r.nextToken)], rfl, rfl, ?_⟩)
      simp [perform, Registry.nominal, held]
  | registerGuard u g =>
    rw [perform_registerGuard]
    split
    · exact .inr (.inr (.inl ⟨u, g, rfl, rfl⟩))
    · exact .inl rfl
  | registerConversion edge =>
    rw [perform_registerConversion]
    split
    · exact .inr (.inr (.inr ⟨edge, rfl, rfl⟩))
    · exact .inl rfl
  | autoRegister u =>
    rw [perform, Edit.perform, Edit.run_autoRegister]
    cases entry : r.get? u with
    | none => exact .inl rfl
    | some e =>
      obtain ⟨name, kind, guards, incoming⟩ := e
      cases kind with
      | structural => exact .inl rfl
      | nominal type =>
        cases guards with
        | nil => exact .inr (.inr (.inl ⟨u, _, rfl, rfl⟩))
        | cons => exact .inl rfl
  | _ => exact single.elim

theorem guards_perform (single : op.Single) (spared : op.guarded? ≠ some t) :
    (op.perform r).2.guards t = r.guards t := by
  rcases op.perform_cases single r with
    same | ⟨e, nominals, empty, _, new⟩ | ⟨u, g, here, more⟩ | ⟨edge, _, more⟩
  · rw [same]
  · rw [new]
    exact r.guards_push e empty t
  · rw [more]
    exact r.guards_attach g fun at_ => spared (at_ ▸ here)
  · rw [more]
    exact r.guards_connect edge t edge.target

theorem edgesInto_perform (single : op.Single) (spared : op.fed? ≠ some t) :
    (op.perform r).2.edgesInto t = r.edgesInto t := by
  rcases op.perform_cases single r with
    same | ⟨e, nominals, _, empty, new⟩ | ⟨u, g, _, more⟩ | ⟨edge, here, more⟩
  · rw [same]
  · rw [new]
    exact r.edgesInto_push e empty t
  · rw [more]
    exact r.edgesInto_attach u g t
  · rw [more]
    exact r.edgesInto_connect_of_ne fun at_ => spared (at_ ▸ here)

end Operation

namespace Registry

variable {ops : List (Operation ε V τ)}

/-- A run keeps what each part of its operations keeps. -/
theorem after_keeps {motive : Registry ε V τ → Prop}
    (kept : ∀ op ∈ ops, ∀ part ∈ op.parts, ∀ s, motive s → motive (part.perform s).2)
    (initial : motive r) : motive (r.after ops) := by
  obtain ⟨done, among, left⟩ := exists_parts_after ops r
  have each : ∀ part ∈ done, ∀ s, motive s → motive (part.perform s).2 := by
    intro part member
    obtain ⟨op, listed, entry⟩ := List.mem_flatMap.1 (among.subset member)
    exact kept op listed part entry
  rw [left]
  clear among left
  induction done generalizing r with
  | nil => exact initial
  | cons part done ih =>
    obtain ⟨first, rest⟩ := List.forall_mem_cons.1 each
    exact ih (first r initial) rest

theorem guards_after (spared : ∀ op ∈ ops, ∀ part ∈ op.parts, part.guarded? ≠ some t) :
    (r.after ops).guards t = r.guards t :=
  after_keeps (motive := fun s => s.guards t = r.guards t) (fun op listed part entry _ same =>
    (Operation.guards_perform (Operation.single_of_mem_parts entry)
      (spared op listed part entry)).trans same) rfl

theorem edgesInto_after (spared : ∀ op ∈ ops, ∀ part ∈ op.parts, part.fed? ≠ some t) :
    (r.after ops).edgesInto t = r.edgesInto t :=
  after_keeps (motive := fun s => s.edgesInto t = r.edgesInto t) (fun op listed part entry _ same =>
    (Operation.edgesInto_perform (Operation.single_of_mem_parts entry)
      (spared op listed part entry)).trans same) rfl

end Registry

end MultiDispatch

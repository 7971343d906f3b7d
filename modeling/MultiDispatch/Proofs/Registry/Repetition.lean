import MultiDispatch.Proofs.Registry.Atomic

/-! Registering something again. Guards and edges are known by what they were registered under, and
a registry loses none of them, so a batch that was accepted once is accepted ever after and has
nothing to add. -/
namespace MultiDispatch

variable {ε V τ : Type}

theorem Entry.attach_of_held {e : Entry ε V τ} {g held : Guard ε V} (member : held ∈ e.guards)
    (same : held.identity = g.identity) : e.attach g = e :=
  if_pos (List.any_eq_true.2 ⟨held, member, decide_eq_true same⟩)

theorem Entry.connect_of_held {e : Entry ε V τ} {edge held : Edge ε V}
    (member : held ∈ e.incoming) (same : held.key = edge.key) : e.connect edge = e :=
  if_pos (List.any_eq_true.2 ⟨held, member, decide_eq_true (Prod.mk.inj same)⟩)

theorem Entry.exists_mem_attach (e : Entry ε V τ) (g : Guard ε V) :
    ∃ held ∈ (e.attach g).guards, held.identity = g.identity := by
  unfold attach
  split
  · rename_i old
    obtain ⟨held, member, same⟩ := List.any_eq_true.1 old
    exact ⟨held, member, of_decide_eq_true same⟩
  · exact ⟨g, List.mem_append_right _ List.mem_cons_self, rfl⟩

theorem Entry.exists_mem_connect (e : Entry ε V τ) (edge : Edge ε V) :
    ∃ held ∈ (e.connect edge).incoming, held.key = edge.key := by
  unfold connect
  split
  · rename_i old
    obtain ⟨held, member, same⟩ := List.any_eq_true.1 old
    obtain ⟨source, serial⟩ := of_decide_eq_true same
    exact ⟨held, member, Prod.ext source serial⟩
  · exact ⟨edge, List.mem_append_right _ List.mem_cons_self, rfl⟩

namespace Registry

/-- What is done to an entry counts only where the registry has one. -/
theorem update_congr {r : Registry ε V τ} {t : Token} {f g : Entry ε V τ → Entry ε V τ}
    (same : ∀ e, r.get? t = some e → f e = g e) : r.update t f = r.update t g := by
  unfold update
  by_cases own : t.registry = r.stamp
  · have entries : r.entries.modify t.index f = r.entries.modify t.index g := by
      apply List.ext_getElem?
      intro i
      rw [List.getElem?_modify, List.getElem?_modify]
      cases held : r.entries[i]? with
      | none => rfl
      | some e =>
        by_cases here : t.index = i
        · have entry : r.get? t = some e := by rw [get?, if_pos own, here, held]
          simp [here, same e entry]
        · simp [here]
    rw [entries]
  · rw [if_neg own, if_neg own]

theorem update_id (r : Registry ε V τ) (t : Token) : r.update t id = r := by
  rw [update, List.modify_id]
  split <;> rfl

theorem update_eq_self {r : Registry ε V τ} {t : Token} {f : Entry ε V τ → Entry ε V τ}
    (fixed : ∀ e, r.get? t = some e → f e = e) : r.update t f = r :=
  (update_congr fixed).trans (r.update_id t)

end Registry

namespace Operation

/-- What the registration is known by is registered. -/
def Held (r : Registry ε V τ) : Operation ε V τ → Prop
  | registerGuard t g => ∃ e, r.get? t = some e ∧ ∃ held ∈ e.guards, held.identity = g.identity
  | registerConversion edge =>
    ∃ e, r.get? edge.target = some e ∧ ∃ held ∈ e.incoming, held.key = edge.key
  | _ => False

theorem Held.mono {op : Operation ε V τ} {r s : Registry ε V τ} (held : op.Held r)
    (growth : r.Grows s) : op.Held s := by
  cases op with
  | registerGuard t g =>
    obtain ⟨e, entry, guard, member, same⟩ := held
    obtain ⟨f, later, more⟩ := growth.entries t e entry
    exact ⟨f, later, guard, more.guards.subset member, same⟩
  | registerConversion edge =>
    obtain ⟨e, entry, old, member, same⟩ := held
    obtain ⟨f, later, more⟩ := growth.entries edge.target e entry
    exact ⟨f, later, old, more.incoming.subset member, same⟩
  | _ => exact held.elim

variable [Typed V τ] [DecidableEq τ]

theorem Held.perform_eq_self {op : Operation ε V τ} {r : Registry ε V τ} (held : op.Held r) :
    (op.perform r).2 = r := by
  cases op with
  | registerGuard t g =>
    obtain ⟨e, entry, guard, member, same⟩ := held
    rw [perform_registerGuard]
    split
    · apply Registry.update_eq_self
      intro f here
      cases entry.symm.trans here
      exact Entry.attach_of_held member same
    · rfl
  | registerConversion edge =>
    obtain ⟨e, entry, old, member, same⟩ := held
    rw [perform_registerConversion]
    split
    · apply Registry.update_eq_self
      intro f here
      cases entry.symm.trans here
      exact Entry.connect_of_held member same
    · rfl
  | _ => exact held.elim

/-- A registration that is made is held from then on. -/
theorem held_perform {op : Operation ε V τ} (registers : op.Registers) {r : Registry ε V τ}
    (owned : ∀ t ∈ op.tokens, r.owns t = true) : op.Held (op.perform r).2 := by
  cases op with
  | registerGuard t g =>
    have here := owned t List.mem_cons_self
    obtain ⟨e, old⟩ := Registry.exists_get? here
    rw [perform_registerGuard, if_pos here]
    refine ⟨e.attach g, ?_, e.exists_mem_attach g⟩
    rw [Registry.get?_update, if_pos rfl, old, Option.map_some]
  | registerConversion edge =>
    have target := owned _ (target_mem_tokens edge)
    obtain ⟨e, old⟩ := Registry.exists_get? target
    rw [perform_registerConversion, if_pos ⟨owned _ (source_mem_tokens edge), target⟩]
    refine ⟨e.connect edge, ?_, e.exists_mem_connect edge⟩
    rw [Registry.get?_update, if_pos rfl, old, Option.map_some]
  | _ => exact registers.elim

end Operation

namespace Registry

variable [Typed V τ] [DecidableEq τ]

/-- Each registration of an accepted batch is held once it has been made, and the ones behind it
only add to the registry. -/
theorem held_after {r : Registry ε V τ} {batch : Batch ε V}
    (owned : ∀ t ∈ batch.tokens, r.owns t = true) :
    ∀ op ∈ batch.operations, op.Held (r.after batch.operations) := by
  intro op entry
  obtain ⟨registers, among⟩ := Operation.registers_of_mem_operations entry
  obtain ⟨before, later, split⟩ := List.append_of_mem entry
  have growth := r.grows_after before
  have held : op.Held (op.perform (r.after before)).2 :=
    Operation.held_perform registers fun t named => growth.owns (owned t (among named))
  rw [split, after_append]
  exact held.mono (grows_after _ later)

theorem after_of_held {r : Registry ε V τ} {ops : List (Operation ε V τ)}
    (held : ∀ op ∈ ops, op.Held r) : r.after ops = r := by
  induction ops with
  | nil => rfl
  | cons op ops ih =>
    obtain ⟨first, rest⟩ := List.forall_mem_cons.1 held
    show (op.perform r).2.after ops = r
    rw [first.perform_eq_self]
    exact ih rest

/-- A batch that was accepted is accepted again after any further operations, and leaves the
registry exactly as it is then. -/
theorem add_again (r s : Registry ε V τ) (batch : Batch ε V)
    (added : (Edit.add batch).run r = .ok () s) (ops : List (Operation ε V τ)) :
    (Edit.add batch).run (s.after ops) = .ok () (s.after ops) := by
  obtain ⟨owned, left⟩ := run_add_eq_ok.1 added
  have growth : r.Grows (s.after ops) := by
    rw [left]
    exact (r.grows_after _).trans (grows_after _ ops)
  have held (op : Operation ε V τ) (entry : op ∈ batch.operations) : op.Held (s.after ops) := by
    rw [left]
    exact (held_after owned op entry).mono (grows_after _ ops)
  exact run_add_eq_ok.2 ⟨fun t named => growth.owns (owned t named), (after_of_held held).symm⟩

end Registry

namespace Amount

/-- Names one of its two edges twice. -/
def rates : Batch String Amount :=
  .conversions [exchange 1 0 2, exchange 2 4 29, exchange 2 4 29]

theorem add_again_units : ∃ s, (Edit.add rates).run units = .ok () s ∧
    (s.edgesInto ⟨0, 4⟩).length = 2 ∧
    (Edit.add rates).run (s.after [.registerConversion (exchange 1 4 31), .declare "foot",
        .registerGuard ⟨1, 0⟩ ⟨.made 1, instanceTest 0⟩]) =
      .ok () (s.after [.registerConversion (exchange 1 4 31), .declare "foot",
        .registerGuard ⟨1, 0⟩ ⟨.made 1, instanceTest 0⟩]) := by
  have added : (Edit.add rates).run units = .ok () (units.after rates.operations) :=
    Registry.run_add_eq_ok.2 ⟨by decide, rfl⟩
  exact ⟨_, added, rfl, Registry.add_again units _ rates added _⟩

end Amount

end MultiDispatch

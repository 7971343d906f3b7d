import MultiDispatch.Proofs.Registry.Growth

/-! Refused operations change nothing. All the tokens of a batch are checked before its first entry
is registered, and registering an entry takes no token away, so the checks that are made again for
each entry pass. A batch therefore does what its entries do one by one, or nothing. -/
namespace MultiDispatch

variable {ε V τ : Type}

/-- The registrations of a batch, one by one. -/
def Batch.operations : Batch ε V → List (Operation ε V τ)
  | guards entries => entries.map fun (t, g) => .registerGuard t g
  | conversions edges => edges.map .registerConversion

namespace Operation

/-- The tokens that an operation names. -/
def tokens : Operation ε V τ → List Token
  | declare _ | nominal _ => []
  | registerGuard t _ | autoRegister t => [t]
  | registerConversion edge => [edge.source, edge.target]
  | add batch => batch.tokens
  | addAll batches => batches.flatMap Batch.tokens

theorem source_mem_tokens (edge : Edge ε V) :
    edge.source ∈ (registerConversion edge : Operation ε V τ).tokens := List.mem_cons_self

theorem target_mem_tokens (edge : Edge ε V) :
    edge.target ∈ (registerConversion edge : Operation ε V τ).tokens :=
  List.mem_cons_of_mem _ List.mem_cons_self

/-- What an operation consists of: the registrations of its batches in order, or itself. -/
def parts : Operation ε V τ → List (Operation ε V τ)
  | add batch => batch.operations
  | addAll batches => batches.flatMap Batch.operations
  | op => [op]

/-- The operation registers one guard or one edge. -/
def Registers : Operation ε V τ → Prop
  | registerGuard .. | registerConversion _ => True
  | _ => False

theorem registers_of_mem_operations {batch : Batch ε V} {op : Operation ε V τ}
    (entry : op ∈ batch.operations) : op.Registers ∧ op.tokens ⊆ batch.tokens := by
  cases batch with
  | guards entries =>
    obtain ⟨⟨t, g⟩, member, rfl⟩ := List.mem_map.1 entry
    refine ⟨trivial, fun u named => ?_⟩
    rw [List.mem_singleton.1 named]
    exact List.mem_map_of_mem member
  | conversions edges =>
    obtain ⟨edge, member, rfl⟩ := List.mem_map.1 entry
    exact ⟨trivial, fun u named => List.mem_flatMap.2 ⟨edge, member, named⟩⟩

end Operation

theorem Registry.unknown_of_foreign {r : Registry ε V τ} {t : Token} (foreign : r.owns t = false) :
    r.unknown t = .unknownType "<foreign type>" := by
  rw [unknown, name_of_foreign foreign]

namespace Edit

/-- Registers the entries of a batch, which is what `add` does once all tokens are checked. -/
def register : Batch ε V → Edit ε V τ Unit
  | .guards entries => entries.forM fun (t, g) => registerGuard t g
  | .conversions edges => edges.forM registerConversion

theorem add_eq_register (batch : Batch ε V) : (add batch : Edit ε V τ Unit) =
    batch.tokens.forM require >>= fun _ => register batch := by
  cases batch <;> rfl

theorem run_requireAll (ts : List Token) (r : Registry ε V τ) : (ts.forM require).run r =
    if ∀ t ∈ ts, r.owns t = true then .ok () r
    else .error (.unknownType "<foreign type>") r := by
  induction ts with
  | nil => simp [List.forM]
  | cons t ts ih =>
    rw [List.forM, EStateM.run_bind, run_require]
    cases owned : r.owns t with
    | false => simp [owned, Registry.unknown_of_foreign owned]
    | true => simpa [owned] using ih

theorem run_of_done {edit : Edit ε V τ Unit} {r : Registry ε V τ}
    (done : (edit.perform (fun _ => .done) r).1 = .done) :
    edit.run r = .ok () (edit.perform (fun _ => .done) r).2 := by
  unfold perform at done ⊢
  cases ran : edit.run r with
  | ok => rfl
  | error e s =>
    rw [ran] at done
    cases done

end Edit

variable [Typed V τ] [DecidableEq τ]

namespace Operation

/-- The operation is refused exactly when the registry does not own a token that it names, and a
refused operation leaves the registry as it was. -/
structure Atomic (op : Operation ε V τ) (r : Registry ε V τ) : Prop where
  refused : (∃ e, (op.perform r).1 = .refused e) ↔ ∃ t ∈ op.tokens, r.owns t = false
  unchanged : ∀ e, (op.perform r).1 = .refused e →
    e = .unknownType "<foreign type>" ∧ (op.perform r).2 = r

theorem perform_registerGuard (t : Token) (g : Guard ε V) (r : Registry ε V τ) :
    (registerGuard t g).perform r = if r.owns t = true then (.done, r.update t (·.attach g))
      else (.refused (.unknownType "<foreign type>"), r) := by
  rw [perform, Edit.perform, Edit.run_registerGuard]
  cases owned : r.owns t with
  | false => simp [Registry.unknown_of_foreign owned]
  | true => simp

theorem perform_registerConversion (edge : Edge ε V) (r : Registry ε V τ) :
    (registerConversion edge).perform r =
      if r.owns edge.source = true ∧ r.owns edge.target = true then
        (.done, r.update edge.target (·.connect edge))
      else (.refused (.unknownType "<foreign type>"), r) := by
  rw [perform, Edit.perform, Edit.run_registerConversion]
  cases source : r.owns edge.source with
  | false => simp [Registry.unknown_of_foreign source]
  | true =>
    cases target : r.owns edge.target with
    | false => simp [Registry.unknown_of_foreign target]
    | true => simp

/-- Registrations neither add tokens nor take any away. -/
theorem owns_perform {op : Operation ε V τ} (registers : op.Registers) (r : Registry ε V τ)
    (t : Token) : (op.perform r).2.owns t = r.owns t := by
  cases op with
  | registerGuard u g =>
    rw [perform_registerGuard]
    split <;> simp
  | registerConversion edge =>
    rw [perform_registerConversion]
    split <;> simp
  | _ => exact registers.elim

/-- A registration whose tokens are owned is made, and takes no token away. -/
theorem perform_of_registers {op : Operation ε V τ} (registers : op.Registers)
    {r : Registry ε V τ} (owned : ∀ t ∈ op.tokens, r.owns t = true) :
    (op.perform r).1 = .done ∧ ∀ t, (op.perform r).2.owns t = r.owns t := by
  cases op with
  | registerGuard t g =>
    rw [perform_registerGuard, if_pos (owned t List.mem_cons_self)]
    exact ⟨rfl, fun u => Registry.owns_update ..⟩
  | registerConversion edge =>
    rw [perform_registerConversion,
      if_pos ⟨owned _ (source_mem_tokens edge), owned _ (target_mem_tokens edge)⟩]
    exact ⟨rfl, fun u => Registry.owns_update ..⟩
  | _ => exact registers.elim

end Operation

namespace Edit

/-- Edits that succeed wherever the same tokens are owned, and take none away, succeed in a row. -/
theorem run_forM_performs {ι : Type} {f : ι → Edit ε V τ Unit} {op : ι → Operation ε V τ}
    {xs : List ι} {r : Registry ε V τ}
    (each : ∀ i ∈ xs, ∀ s : Registry ε V τ, (∀ t, s.owns t = r.owns t) →
      (f i).run s = .ok () ((op i).perform s).2 ∧ ∀ t, ((op i).perform s).2.owns t = s.owns t) :
    (xs.forM f).run r = .ok () (r.after (xs.map op)) := by
  induction xs generalizing r with
  | nil => rfl
  | cons i xs ih =>
    obtain ⟨ran, same⟩ := each i List.mem_cons_self r fun _ => rfl
    rw [List.forM, EStateM.run_bind, ran]
    exact ih fun j member s later =>
      each j (List.mem_cons_of_mem _ member) s fun t => (later t).trans (same t)

/-- The second loop of a batch performs the registrations, as none of them is refused. -/
theorem run_register {batch : Batch ε V} {r : Registry ε V τ}
    (owned : ∀ t ∈ batch.tokens, r.owns t = true) :
    (register batch).run r = .ok () (r.after batch.operations) := by
  have performed (op : Operation ε V τ) (entry : op ∈ batch.operations) (s : Registry ε V τ)
      (same : ∀ t, s.owns t = r.owns t) :
      (op.perform s).1 = .done ∧ ∀ t, (op.perform s).2.owns t = s.owns t := by
    obtain ⟨registers, among⟩ := Operation.registers_of_mem_operations entry
    exact Operation.perform_of_registers registers fun t named =>
      (same t).trans (owned t (among named))
  cases batch with
  | guards entries =>
    refine run_forM_performs fun i member s same => ?_
    exact (performed _ (List.mem_map_of_mem member) s same).imp_left run_of_done
  | conversions edges =>
    refine run_forM_performs fun edge member s same => ?_
    exact (performed _ (List.mem_map_of_mem member) s same).imp_left run_of_done

theorem run_add (batch : Batch ε V) (r : Registry ε V τ) : (add batch).run r =
    if ∀ t ∈ batch.tokens, r.owns t = true then .ok () (r.after batch.operations)
    else .error (.unknownType "<foreign type>") r := by
  rw [add_eq_register, EStateM.run_bind, run_requireAll]
  by_cases owned : ∀ t ∈ batch.tokens, r.owns t = true
  · simp only [if_pos owned]
    exact run_register owned
  · simp only [if_neg owned]

end Edit

namespace Operation

theorem perform_add (batch : Batch ε V) (r : Registry ε V τ) : (add batch).perform r =
    if ∀ t ∈ batch.tokens, r.owns t = true then (.done, r.after batch.operations)
    else (.refused (.unknownType "<foreign type>"), r) := by
  rw [perform, Edit.perform, Edit.run_add]
  by_cases owned : ∀ t ∈ batch.tokens, r.owns t = true
  · simp only [if_pos owned]
  · simp only [if_neg owned]

theorem perform_autoRegister (t : Token) (r : Registry ε V τ) :
    (r.owns t = true ∧ ∃ changed, ((autoRegister t).perform r).1 = .seeded changed) ∨
      (r.owns t = false ∧
        (autoRegister t).perform r = (.refused (.unknownType "<foreign type>"), r)) := by
  have owned := r.isSome_get? t
  rw [perform, Edit.perform, Edit.run_autoRegister]
  cases entry : r.get? t with
  | none =>
    rw [entry] at owned
    exact .inr ⟨owned.symm, by simp only [Registry.unknown_of_foreign owned.symm]⟩
  | some e =>
    rw [entry] at owned
    obtain ⟨name, kind, guards, incoming⟩ := e
    refine .inl ⟨owned.symm, ?_⟩
    cases kind with
    | structural => exact ⟨false, rfl⟩
    | nominal type =>
      cases guards with
      | nil => exact ⟨true, rfl⟩
      | cons => exact ⟨false, rfl⟩

section Cases

variable {op : Operation ε V τ} {r : Registry ε V τ}

theorem atomic_of_accepted (owned : ∀ t ∈ op.tokens, r.owns t = true)
    (accepted : ∀ e, (op.perform r).1 ≠ .refused e) : op.Atomic r where
  refused := by
    constructor
    · intro ⟨e, refused⟩
      exact absurd refused (accepted e)
    · intro ⟨t, named, foreign⟩
      rw [owned t named] at foreign
      cases foreign
  unchanged e refused := absurd refused (accepted e)

theorem atomic_of_refused {t : Token} (named : t ∈ op.tokens) (foreign : r.owns t = false)
    (refused : op.perform r = (.refused (.unknownType "<foreign type>"), r)) : op.Atomic r where
  refused := by
    rw [refused]
    exact ⟨fun _ => ⟨t, named, foreign⟩, fun _ => ⟨_, rfl⟩⟩
  unchanged e same := by
    rw [refused] at same ⊢
    cases same
    exact ⟨rfl, rfl⟩

/-- An operation that checks all its tokens first is atomic. -/
theorem atomic_of_checked {s : Registry ε V τ} (checked : op.perform r =
    if ∀ t ∈ op.tokens, r.owns t = true then (.done, s)
    else (.refused (.unknownType "<foreign type>"), r)) : op.Atomic r := by
  by_cases owned : ∀ t ∈ op.tokens, r.owns t = true
  · rw [if_pos owned] at checked
    refine atomic_of_accepted owned fun e refused => ?_
    rw [checked] at refused
    cases refused
  · rw [if_neg owned] at checked
    obtain ⟨t, named, foreign⟩ : ∃ t ∈ op.tokens, r.owns t = false := by simpa using owned
    exact atomic_of_refused named foreign checked

end Cases

theorem atomic_registerGuard (t : Token) (g : Guard ε V) (r : Registry ε V τ) :
    (registerGuard t g).Atomic r := by
  apply atomic_of_checked (s := r.update t (·.attach g))
  simp [perform_registerGuard, tokens]

theorem atomic_registerConversion (edge : Edge ε V) (r : Registry ε V τ) :
    (registerConversion edge).Atomic r := by
  apply atomic_of_checked (s := r.update edge.target (·.connect edge))
  simp [perform_registerConversion, tokens]

theorem atomic_autoRegister (t : Token) (r : Registry ε V τ) : (autoRegister t).Atomic r := by
  rcases perform_autoRegister t r with ⟨owned, changed, answer⟩ | ⟨foreign, refused⟩
  · refine atomic_of_accepted (by simpa [tokens] using owned) fun e refused => ?_
    rw [answer] at refused
    cases refused
  · exact atomic_of_refused List.mem_cons_self foreign refused

theorem perform_addAll_cons (batch : Batch ε V) (batches : List (Batch ε V))
    (r : Registry ε V τ) : (addAll (batch :: batches)).perform r =
      if ∀ t ∈ batch.tokens, r.owns t = true then
        (addAll batches).perform (r.after batch.operations)
      else (.refused (.unknownType "<foreign type>"), r) := by
  show (Edit.add batch >>= fun _ => Edit.addAll batches).perform (fun _ => .done) r = _
  rw [Edit.perform, EStateM.run_bind, Edit.run_add]
  by_cases owned : ∀ t ∈ batch.tokens, r.owns t = true
  · simp only [if_pos owned]
    rfl
  · simp only [if_neg owned]

/-- Refused or not, an operation does a beginning of what it consists of. -/
theorem exists_parts (op : Operation ε V τ) (r : Registry ε V τ) :
    ∃ done, done <+: op.parts ∧ (op.perform r).2 = r.after done := by
  cases op with
  | add batch =>
    rw [perform_add]
    by_cases owned : ∀ t ∈ batch.tokens, r.owns t = true
    · exact ⟨batch.operations, List.prefix_rfl, by rw [if_pos owned]⟩
    · exact ⟨[], List.nil_prefix, by rw [if_neg owned]; rfl⟩
  | addAll batches =>
    induction batches generalizing r with
    | nil => exact ⟨[], List.nil_prefix, rfl⟩
    | cons batch batches ih =>
      rw [perform_addAll_cons]
      by_cases owned : ∀ t ∈ batch.tokens, r.owns t = true
      · obtain ⟨done, first, left⟩ := ih (r.after batch.operations)
        refine ⟨batch.operations ++ done, (List.prefix_append_right_inj _).2 first, ?_⟩
        rw [if_pos owned, left, Registry.after_append]
      · exact ⟨[], List.nil_prefix, by rw [if_neg owned]; rfl⟩
  | _ => exact ⟨[_], List.prefix_rfl, rfl⟩

end Operation

namespace Registry

theorem owns_after {r : Registry ε V τ} {ops : List (Operation ε V τ)}
    (registers : ∀ op ∈ ops, op.Registers) (t : Token) : (r.after ops).owns t = r.owns t := by
  induction ops generalizing r with
  | nil => rfl
  | cons op ops ih =>
    obtain ⟨first, rest⟩ := List.forall_mem_cons.1 registers
    exact (ih rest).trans (op.owns_perform first r t)

theorem exists_parts_after (ops : List (Operation ε V τ)) (r : Registry ε V τ) :
    ∃ done, List.Sublist done (ops.flatMap Operation.parts) ∧ r.after ops = r.after done := by
  induction ops generalizing r with
  | nil => exact ⟨[], .slnil, rfl⟩
  | cons op ops ih =>
    obtain ⟨first, beginning, left⟩ := op.exists_parts r
    obtain ⟨rest, among, last⟩ := ih (op.perform r).2
    refine ⟨first ++ rest, beginning.sublist.append among, ?_⟩
    rw [after_append, ← left, ← last]
    rfl

variable {r s : Registry ε V τ} {batch : Batch ε V}

/-- The registrations of an accepted batch are accepted one by one. -/
theorem done_of_operations (owned : ∀ t ∈ batch.tokens, r.owns t = true)
    {before later : List (Operation ε V τ)} {op : Operation ε V τ}
    (split : batch.operations = before ++ op :: later) :
    (op.perform (r.after before)).1 = .done := by
  have entry : op ∈ batch.operations := by
    rw [split]
    exact List.mem_append_right _ List.mem_cons_self
  obtain ⟨registers, among⟩ := Operation.registers_of_mem_operations entry
  have growth := r.grows_after before
  exact (Operation.perform_of_registers registers fun t named =>
    growth.owns (owned t (among named))).1

theorem run_add_eq_ok : (Edit.add batch).run r = .ok () s ↔
    (∀ t ∈ batch.tokens, r.owns t = true) ∧ s = r.after batch.operations := by
  rw [Edit.run_add]
  by_cases owned : ∀ t ∈ batch.tokens, r.owns t = true
  · rw [if_pos owned]
    constructor
    · intro same
      cases same
      exact ⟨owned, rfl⟩
    · intro ⟨_, same⟩
      rw [same]
  · rw [if_neg owned]
    constructor
    · intro same
      cases same
    · intro ⟨all, _⟩
      exact absurd all owned

/-- A registration, a batch of any length and the seeding of a type are refused exactly for a token
that the registry does not own, and then change nothing. A batch that is accepted leaves what its
entries leave when they are registered one by one; its second loop meets no refusal. -/
theorem mutations_atomic (r : Registry ε V τ) :
    (∀ t g, (Operation.registerGuard t g).Atomic r) ∧
    (∀ edge, (Operation.registerConversion edge).Atomic r) ∧
    (∀ batch, (Operation.add batch).Atomic r) ∧
    (∀ t, (Operation.autoRegister t).Atomic r) ∧
    (∀ batch, (Edit.add batch : Edit ε V τ Unit) =
      batch.tokens.forM Edit.require >>= fun _ => Edit.register batch) ∧
    ∀ batch s, (Edit.add batch).run r = .ok () s →
      s = r.after batch.operations ∧ (Edit.register batch).run r = .ok () s ∧
        ∀ before op later, batch.operations = before ++ op :: later →
          (op.perform (r.after before)).1 = .done := by
  refine ⟨fun t g => Operation.atomic_registerGuard t g r,
    fun edge => Operation.atomic_registerConversion edge r,
    fun batch => Operation.atomic_of_checked (Operation.perform_add batch r),
    fun t => Operation.atomic_autoRegister t r, Edit.add_eq_register, fun batch s added => ?_⟩
  obtain ⟨owned, left⟩ := run_add_eq_ok.1 added
  refine ⟨left, ?_, fun before op later split => done_of_operations owned split⟩
  rw [left]
  exact Edit.run_register owned

end Registry

end MultiDispatch

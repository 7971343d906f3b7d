import MultiDispatch.Proofs.Registry.Effects

/-! Which tokens a registry gives out. Declarations and requests for the token of a run-time type
are answered with a token, and nothing else is. A registry owns the token from then on, and gains no
token in any other way. -/
namespace MultiDispatch

variable {ε V τ : Type}

/-- What the operation asks a token for. -/
def Operation.allots? : Operation ε V τ → Option (Kind τ)
  | declare _ => some .structural
  | nominal type => some (.nominal type)
  | _ => none

theorem Operation.allots?_eq_nominal {op : Operation ε V τ} {type : τ} :
    op.allots? = some (.nominal type) ↔ op = .nominal type := by
  cases op <;> simp [allots?]

namespace Registry

@[simp] theorem isSome_kind? (r : Registry ε V τ) (t : Token) : (r.kind? t).isSome = r.owns t := by
  simp [kind?]

theorem owns_of_kind? {r : Registry ε V τ} {t : Token} {kind : Kind τ}
    (known : r.kind? t = some kind) : r.owns t = true := by
  simp [← isSome_kind?, known]

theorem index_lt_of_owns {r : Registry ε V τ} {t : Token} (owned : r.owns t = true) :
    t.index < r.size := (of_decide_eq_true owned).2

theorem owns_push (r : Registry ε V τ) (e : Entry ε V τ) (t : Token) :
    (r.push e).owns t = true ↔ r.owns t = true ∨ t = r.nextToken := by
  rw [← isSome_kind?, ← isSome_kind?, kind?_push]
  by_cases new : t = r.nextToken <;> simp [new]

end Registry

theorem Edit.fst_perform_ne_token {α : Type} (edit : Edit ε V τ α) {answer : α → Outcome}
    {t : Token} (other : ∀ a, answer a ≠ .token t) (r : Registry ε V τ) :
    (edit.perform answer r).1 ≠ .token t := by
  unfold perform
  cases edit.run r with
  | ok a s => exact other a
  | error e s => simp

variable [Typed V τ] [DecidableEq τ]

namespace Operation

variable {op : Operation ε V τ}

theorem owns_perform_of_single (single : op.Single) (edits : op.allots? = none)
    (r : Registry ε V τ) (t : Token) : (op.perform r).2.owns t = r.owns t := by
  cases op with
  | registerGuard u g =>
    rw [perform_registerGuard]
    split <;> simp
  | registerConversion edge =>
    rw [perform_registerConversion]
    split <;> simp
  | autoRegister u =>
    rw [perform, Edit.perform, Edit.run_autoRegister]
    cases entry : r.get? u with
    | none => rfl
    | some e =>
      obtain ⟨name, kind, guards, incoming⟩ := e
      cases kind <;> cases guards <;> simp
  | declare | nominal => cases edits
  | add | addAll => exact single.elim

omit [Typed V τ] [DecidableEq τ] in
theorem allots?_of_mem_parts (edits : op.allots? = none) {part : Operation ε V τ}
    (entry : part ∈ op.parts) : part.allots? = none := by
  have registered {batch : Batch ε V} (entry : part ∈ batch.operations) : part.allots? = none := by
    have registers := (registers_of_mem_operations entry).1
    cases part <;> first | rfl | exact registers.elim
  cases op with
  | add batch => exact registered entry
  | addAll batches =>
    obtain ⟨batch, _, entry⟩ := List.mem_flatMap.1 entry
    exact registered entry
  | _ =>
    rw [List.mem_singleton.1 entry]
    exact edits

/-- Operations that ask for no token get none and leave the registry with the tokens it has. -/
theorem owns_perform_of_edit (edits : op.allots? = none) (r : Registry ε V τ) :
    (∀ t, (op.perform r).2.owns t = r.owns t) ∧ ∀ t, (op.perform r).1 ≠ .token t := by
  constructor
  · have run : (op.perform r).2 = r.after [op] := rfl
    rw [run]
    refine Registry.after_keeps (motive := fun s => ∀ t, s.owns t = r.owns t) ?_ fun _ => rfl
    intro op' listed part entry s same t
    rw [List.mem_singleton.1 listed] at entry
    rw [part.owns_perform_of_single (single_of_mem_parts entry) (allots?_of_mem_parts edits entry)]
    exact same t
  · intro t
    cases op with
    | declare | nominal => cases edits
    | _ => exact Edit.fst_perform_ne_token _ (by simp) r

/-- A run-time type that has a token is given that one, and nothing changes. -/
theorem perform_nominal_of_known {r : Registry ε V τ} (matched : r.Matched) {t : Token} {type : τ}
    (known : r.kind? t = some (.nominal type)) : (nominal type).perform r = (.token t, r) := by
  simp [perform, Registry.nominal, (matched.tokens type t).2 known]

/-- A token that is asked for is given: the next new one, or the one that stands for the run-time
type already. -/
theorem perform_of_allots {kind : Kind τ} (asks : op.allots? = some kind) {r : Registry ε V τ}
    (matched : r.Matched) : ∃ t, (op.perform r).1 = .token t ∧
      (op.perform r).2.kind? t = some kind ∧
      (∀ u, (op.perform r).2.owns u = true ↔ r.owns u = true ∨ u = t) ∧
      (t = r.nextToken ∨ ∃ type, kind = .nominal type ∧ r.kind? t = some (.nominal type)) := by
  cases op with
  | declare name =>
    cases asks
    refine ⟨r.nextToken, rfl, ?_, r.owns_push _, .inl rfl⟩
    exact (r.kind?_push _ _).trans (if_pos rfl)
  | nominal type =>
    cases asks
    cases held : r.nominals.lookup type with
    | some t =>
      have known := (matched.tokens type t).1 held
      rw [perform_nominal_of_known matched known]
      refine ⟨t, rfl, known, fun u => ?_, .inr ⟨type, rfl, known⟩⟩
      constructor
      · exact .inl
      · rintro (owned | rfl)
        · exact owned
        · exact Registry.owns_of_kind? known
    | none =>
      let e : Entry ε V τ := { name := shortName (Typed.path V type), kind := .nominal type }
      have new : (nominal type : Operation ε V τ).perform r = (.token r.nextToken,
          { r.push e with nominals := r.nominals ++ [(type, r.nextToken)] }) := by
        simp [perform, Registry.nominal, held, e]
      rw [new]
      refine ⟨r.nextToken, rfl, ?_, r.owns_push e, .inl rfl⟩
      exact (r.kind?_push e _).trans (if_pos rfl)
  | _ => cases asks

/-- A registry owns what it owned before, and the token that it answers with. -/
theorem owns_perform_iff (op : Operation ε V τ) {r : Registry ε V τ} (matched : r.Matched)
    (t : Token) : (op.perform r).2.owns t = true ↔
      r.owns t = true ∨ (op.perform r).1 = .token t := by
  cases asks : op.allots? with
  | none =>
    obtain ⟨same, other⟩ := owns_perform_of_edit asks r
    simp [same, other]
  | some kind =>
    obtain ⟨u, answer, _, owns, _⟩ := perform_of_allots asks matched
    rw [owns, answer, Outcome.token.injEq, @eq_comm _ t]

end Operation

end MultiDispatch

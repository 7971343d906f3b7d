import MultiDispatch.Proofs.Outcome
import MultiDispatch.Toml.Library
import Mathlib.Data.List.Nodup

/-! What follows from what a library is documented to do. A record is decoded by going through the
entries of its table, and an enumeration by the name that a value selects. -/
namespace MultiDispatch.Toml

variable {ε α σ : Type}

namespace Field

variable {fields : List (Field ε σ)}

theorem find?_eq_none {key : String} (unknown : key ∉ fields.map (·.key)) :
    fields.find? (·.key = key) = none :=
  List.find?_eq_none.2 fun f member same =>
    unknown (List.mem_map.2 ⟨f, member, of_decide_eq_true same⟩)

theorem find?_eq_some (once : (fields.map (·.key)).Nodup) {f : Field ε σ} (member : f ∈ fields) :
    fields.find? (·.key = f.key) = some f := by
  have some : (fields.find? (·.key = f.key)).isSome :=
    List.find?_isSome.2 ⟨f, member, decide_eq_true rfl⟩
  obtain ⟨g, found⟩ := Option.isSome_iff_exists.1 some
  have same : g.key = f.key := of_decide_eq_true (List.find?_some found :)
  rw [found, List.inj_on_of_nodup_map once (List.mem_of_find?_eq_some found) member same]

end Field

namespace Library

/-- What one entry makes of a record. -/
def step (lib : Library ε) (fields : List (Field ε σ)) (s : σ) : String × Value → Except ε σ
  | (key, v) =>
    match fields.find? (·.key = key) with
    | some f => do
      let put ← (f.decode v).mapError (lib.under key)
      return put s
    | none => return s

section Step

variable (lib : Library ε) {fields : List (Field ε σ)} (s : σ) (v : Value)

theorem step_of_mem (once : (fields.map (·.key)).Nodup) {f : Field ε σ} (member : f ∈ fields) :
    lib.step fields s (f.key, v) = (do
      let put ← (f.decode v).mapError (lib.under f.key)
      return put s) := by
  rw [step, Field.find?_eq_some once member]

theorem step_of_unknown {key : String} (unknown : key ∉ fields.map (·.key)) :
    lib.step fields s (key, v) = .ok s := by
  rw [step, Field.find?_eq_none unknown]
  rfl

end Step

variable {lib : Library ε} (documented : lib.Documented)

include documented

section Record

variable {fields : List (Field ε σ)} (once : (fields.map (·.key)).Nodup)

include once

theorem record_cons (s : σ) {p : String × Value} {t : Entries} (new : p.1 ∉ t.map (·.1)) :
    lib.record fields s (p :: t) = lib.step fields s p >>= (lib.record fields · t) := by
  obtain ⟨key, v⟩ := p
  by_cases known : key ∈ fields.map (·.key)
  · obtain ⟨f, member, rfl⟩ := List.mem_map.1 known
    rw [documented.record_field once member s v new, step_of_mem lib s v once member]
    simp only [bind_assoc, pure_bind]
  · rw [documented.record_unknown known s v t, step_of_unknown lib s v known]
    rfl

theorem record_eq_foldlM {root : Entries} (distinct : root.Distinct) (s : σ) :
    lib.record fields s root = root.foldlM (lib.step fields) s := by
  induction root generalizing s with
  | nil => exact documented.record_nil fields s
  | cons p root ih =>
    obtain ⟨new, rest⟩ := List.nodup_cons.1 distinct
    rw [record_cons documented once s new, List.foldlM_cons]
    exact congrArg _ (funext (ih rest))

end Record

theorem enumeration_eq_ok {variants : List (String × α)} {v : Value} {a : α} :
    lib.enumeration variants v = .ok a ↔ ∃ name content, v.Selects name content ∧
      variants.lookup name = some a ∧ ∀ inner, content = some inner → inner.Vacant := by
  simp only [← documented.variant, ← documented.unit]
  constructor
  · intro decoded
    cases selected : lib.variant v with
    | error e =>
      rw [documented.enumeration_refused variants selected] at decoded
      cases decoded
    | ok selection =>
      obtain ⟨name, content⟩ := selection
      cases known : variants.lookup name with
      | none =>
        obtain ⟨e, refused⟩ := documented.enumeration_unknown selected known
        cases refused.symm.trans decoded
      | some b =>
        cases content with
        | none =>
          rw [documented.enumeration_bare selected known] at decoded
          cases decoded
          exact ⟨name, none, rfl, known, nofun⟩
        | some inner =>
          rw [documented.enumeration_content selected known] at decoded
          cases nothing : lib.unit inner with
          | error e => rw [nothing] at decoded; cases decoded
          | ok =>
            rw [nothing] at decoded
            cases decoded
            refine ⟨name, some inner, rfl, known, fun other same => ?_⟩
            cases same
            exact nothing
  · rintro ⟨name, content, selected, known, empty⟩
    cases content with
    | none => exact documented.enumeration_bare selected known
    | some inner =>
      rw [documented.enumeration_content selected known, empty inner rfl]
      rfl

end Library

end MultiDispatch.Toml

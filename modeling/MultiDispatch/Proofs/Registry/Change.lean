import MultiDispatch.Registry.Operation
import Mathlib.Logic.Relation

/-! What registry operations are made of. Each of them, a refused one included, comes down to a
sequence of single changes: a new token, a guard more or an edge more. What no single change breaks
therefore holds of every reachable registry. -/
namespace MultiDispatch

open Relation (ReflTransGen)

variable {ε V τ α β : Type} [Typed V τ] [DecidableEq τ]

/-- Guards and edges are only ever added under tokens that the registry owns. -/
inductive Registry.Change (r : Registry ε V τ) : Registry ε V τ → Prop
  | declare (name : String) : Change r (r.declare name).2
  | allot (type : τ) : r.nominals.lookup type = none → Change r (r.nominal type).2
  | attach (t : Token) (g : Guard ε V) : r.owns t → Change r (r.update t (·.attach g))
  | connect (edge : Edge ε V) : r.owns edge.source → r.owns edge.target →
      Change r (r.update edge.target (·.connect edge))

namespace Edit

/-- Whether it succeeds or not, the edit leaves a registry that single changes lead to. -/
def Changing (edit : Edit ε V τ α) : Prop :=
  ∀ r, match edit.run r with
    | .ok _ s | .error _ s => ReflTransGen Registry.Change r s

theorem changing_pure (a : α) : (pure a : Edit ε V τ α).Changing := fun _ => .refl

theorem changing_bind {x : Edit ε V τ α} {f : α → Edit ε V τ β} (first : x.Changing)
    (later : ∀ a, (f a).Changing) : (x >>= f).Changing := by
  intro r
  have left := first r
  rw [EStateM.run_bind]
  cases ran : x.run r with
  | error e s => simpa only [ran] using left
  | ok a s =>
    simp only [ran] at left ⊢
    have right := later a s
    cases next : (f a).run s <;> simp only [next] at right ⊢ <;> exact left.trans right

theorem changing_forM {ι : Type} {f : ι → Edit ε V τ PUnit} (each : ∀ i, (f i).Changing)
    (xs : List ι) : (xs.forM f).Changing := by
  induction xs with
  | nil => exact changing_pure _
  | cons i xs ih => exact changing_bind (each i) fun _ => ih

theorem changing_require (t : Token) : (require t : Edit ε V τ Unit).Changing := by
  intro r
  rw [run_require]
  cases r.owns t <;> exact .refl

theorem changing_registerGuard (t : Token) (g : Guard ε V) :
    (registerGuard t g : Edit ε V τ Unit).Changing := by
  intro r
  rw [run_registerGuard]
  cases owned : r.owns t with
  | false => exact .refl
  | true => exact .single (.attach t g owned)

theorem changing_registerConversion (edge : Edge ε V) :
    (registerConversion edge : Edit ε V τ Unit).Changing := by
  intro r
  rw [run_registerConversion]
  cases source : r.owns edge.source with
  | false => exact .refl
  | true =>
    cases target : r.owns edge.target with
    | false => exact .refl
    | true => exact .single (.connect edge source target)

theorem changing_add (batch : Batch ε V) : (add batch : Edit ε V τ Unit).Changing := by
  refine changing_bind (changing_forM changing_require _) fun _ => ?_
  cases batch with
  | guards entries => exact changing_forM (fun _ => changing_registerGuard _ _) entries
  | conversions edges => exact changing_forM changing_registerConversion edges

theorem changing_addAll (batches : List (Batch ε V)) :
    (addAll batches : Edit ε V τ Unit).Changing :=
  changing_forM changing_add batches

theorem run_autoRegister (t : Token) (r : Registry ε V τ) :
    (autoRegister t).run r =
      match r.get? t with
      | none => .error (r.unknown t) r
      | some { kind := .nominal type, guards := [], .. } =>
        .ok true (r.update t (·.attach ⟨.seeded t, instanceTest type⟩))
      | some _ => .ok false r := by
  have owned := r.isSome_get? t
  rw [autoRegister, EStateM.run_bind, run_require, ← owned]
  cases entry : r.get? t with
  | none => rfl
  | some e =>
    obtain ⟨name, kind, guards, incoming⟩ := e
    simp only [Option.isSome_some, if_pos, EStateM.run_bind, EStateM.run_get, entry]
    cases kind <;> cases guards <;> rfl

theorem changing_autoRegister (t : Token) : (autoRegister t : Edit ε V τ Bool).Changing := by
  intro r
  have owned := r.isSome_get? t
  rw [run_autoRegister]
  cases entry : r.get? t with
  | none => exact .refl
  | some e =>
    rw [entry] at owned
    obtain ⟨name, kind, guards, incoming⟩ := e
    cases kind with
    | structural => exact .refl
    | nominal type =>
      cases guards with
      | cons => exact .refl
      | nil => exact .single (.attach t _ owned.symm)

theorem snd_perform {edit : Edit ε V τ α} (changing : edit.Changing) (answer : α → Outcome)
    (r : Registry ε V τ) : ReflTransGen Registry.Change r (edit.perform answer r).2 := by
  have left := changing r
  unfold perform
  cases ran : edit.run r with
  | ok => simpa only [ran] using left
  | error => simpa only [ran] using left

end Edit

theorem Operation.perform_changes (op : Operation ε V τ) (r : Registry ε V τ) :
    ReflTransGen Registry.Change r (op.perform r).2 := by
  cases op with
  | declare name => exact .single (.declare name)
  | nominal type =>
    cases held : r.nominals.lookup type with
    | none => exact .single (.allot type held)
    | some t =>
      have same : (r.nominal type).2 = r := by simp only [Registry.nominal, held]
      show ReflTransGen Registry.Change r (r.nominal type).2
      rw [same]
  | registerGuard t g => exact Edit.snd_perform (Edit.changing_registerGuard t g) _ r
  | registerConversion edge => exact Edit.snd_perform (Edit.changing_registerConversion edge) _ r
  | add batch => exact Edit.snd_perform (Edit.changing_add batch) _ r
  | addAll batches => exact Edit.snd_perform (Edit.changing_addAll batches) _ r
  | autoRegister t => exact Edit.snd_perform (Edit.changing_autoRegister t) _ r

namespace Registry

theorem after_changes (ops : List (Operation ε V τ)) (r : Registry ε V τ) :
    ReflTransGen Change r (r.after ops) := by
  induction ops generalizing r with
  | nil => exact .refl
  | cons op ops ih => exact (op.perform_changes r).trans (ih _)

/-- Every reachable registry has what an empty one has and every single change keeps. -/
theorem Reachable.induct {r : Registry ε V τ} (reachable : r.Reachable)
    {motive : Registry ε V τ → Prop} (initial : motive (.empty r.stamp r.settings))
    (kept : ∀ s s', motive s → Change s s' → motive s') : motive r := by
  have along (s : Registry ε V τ) (path : ReflTransGen Change (.empty r.stamp r.settings) s) :
      motive s := by
    induction path with
    | refl => exact initial
    | tail _ change ih => exact kept _ _ ih change
  obtain ⟨ops, eq⟩ := reachable
  rw [eq]
  exact along _ (after_changes ops _)

end Registry

/-- A length in one of several units. -/
structure Amount where
  unit : Nat
  count : Nat
deriving DecidableEq

namespace Amount

instance : Typed Amount Nat where
  typeOf := unit
  path _ := "measure::Amount"

/-- One of the source is `factor` of the target. -/
def exchange (source target factor : Nat) : Edge String Amount :=
  ⟨⟨0, source⟩, ⟨0, target⟩, factor, fun v => ⟨⟨target, v.count * factor⟩, []⟩⟩

/-- Two chains lead from unit 3 to unit 0, and an edge leads back. -/
def units : Registry String Amount Nat :=
  (Registry.empty 0 { autoRegister := true, reach := .transitive }).after
    [.nominal 0, .nominal 1, .nominal 2, .nominal 3, .declare "mile",
      .registerGuard ⟨0, 4⟩ ⟨.made 0, instanceTest 4⟩,
      .registerConversion (exchange 1 0 2), .registerConversion (exchange 2 0 3),
      .registerConversion (exchange 3 1 5), .registerConversion (exchange 3 2 7),
      .registerConversion (exchange 0 3 11), .registerConversion (exchange 0 0 13),
      .registerConversion (exchange 3 4 17)]

theorem units_reachable : units.Reachable := ⟨_, rfl⟩

end Amount

end MultiDispatch

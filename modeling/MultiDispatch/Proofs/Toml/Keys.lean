import MultiDispatch.Toml.Document
import Mathlib.Data.List.Nodup
import Mathlib.Data.List.Perm.Basic

/-! The keys of a document. Whatever a line or a header says, its table gets a value under a key that
is free, or has the value of a key exchanged or moved to the end. No table that is read off a
document has a key twice, so its value at a key does not depend on the order of the others. -/
namespace MultiDispatch.Toml

namespace Entries

theorem Distinct.lookup_eq_some {t : Entries} (distinct : t.Distinct) {key : String} {v : Value} :
    t.lookup key = some v ↔ (key, v) ∈ t := by
  induction t with
  | nil => simp
  | cons p t ih =>
    obtain ⟨k, w⟩ := p
    obtain ⟨new, rest⟩ := List.nodup_cons.1 distinct
    rw [List.lookup_cons]
    by_cases here : key = k
    · subst here
      have absent : (key, v) ∉ t := fun member => new (List.mem_map.2 ⟨_, member, rfl⟩)
      simp [absent, eq_comm]
    · rw [beq_eq_false_iff_ne.2 here]
      simp [here, ih rest]

theorem lookup_eq_none {t : Entries} {key : String} :
    t.lookup key = none ↔ key ∉ t.map (·.1) := by
  simp only [List.lookup_eq_none_iff, bne_iff_ne, List.mem_map]
  constructor
  · rintro other ⟨p, member, rfl⟩
    exact other p member rfl
  · rintro new p member rfl
    exact new ⟨p, member, rfl⟩

theorem Distinct.lookup_of_perm {t u : Entries} (distinct : t.Distinct) (perm : u.Perm t)
    (key : String) : u.lookup key = t.lookup key := by
  have distinct' : u.Distinct := (perm.map _).nodup_iff.2 distinct
  refine Option.ext fun v => ?_
  rw [distinct.lookup_eq_some, distinct'.lookup_eq_some, perm.mem_iff]

/-- All that a statement does to the table that it starts from. What it does further inside lies in
the value. -/
inductive Changed (t : Entries) : Entries → Prop
  | append (key : String) (v : Value) : t.lookup key = none → Changed t (t ++ [(key, v)])
  | replace (key : String) (v : Value) : Changed t (t.replace key v)
  | move (key : String) (v : Value) : Changed t (t.remove key ++ [(key, v)])

theorem Changed.distinct {t u : Entries} (changed : Changed t u) (distinct : t.Distinct) :
    u.Distinct := by
  have appended {t : Entries} (distinct : t.Distinct) {key : String} (v : Value)
      (free : key ∉ t.map (·.1)) : Distinct (t ++ [(key, v)]) := by
    rw [Distinct, List.map_append, List.map_singleton, ← List.concat_eq_append]
    exact distinct.concat free
  cases changed with
  | append key v free => exact appended distinct v (lookup_eq_none.1 free)
  | replace key v =>
    have same : (t.replace key v).map (·.1) = t.map (·.1) := by
      rw [Entries.replace, List.map_map]
      refine List.map_congr_left fun p _ => ?_
      change (if p.1 = key then (p.1, v) else (p.1, p.2)).1 = p.1
      split <;> rfl
    rw [Distinct, same]
    exact distinct
  | move key v =>
    have rest : (t.remove key).Distinct := distinct.sublist (List.filter_sublist.map _)
    exact appended rest v (by simp [remove])

theorem Changed.of_bind {α : Type} {x : Option α} {f : α → Entries} {t u : Entries}
    (each : ∀ a, Changed t (f a)) (eq : (do return f (← x)) = some u) : Changed t u := by
  obtain ⟨a, -, eq⟩ := Option.bind_eq_some_iff.1 eq
  cases eq
  exact each a

theorem changed_insert {v : Value} {path : List String} {t u : Entries}
    (inserted : t.insert v path = some u) : Changed t u := by
  unfold insert at inserted
  split at inserted
  · cases inserted
  · split at inserted
    · cases inserted
    · next key free =>
      cases inserted
      exact .append _ _ (Option.not_isSome_iff_eq_none.1 free)
  · split at inserted
    · next free => exact .of_bind (fun _ => .append _ _ free) inserted
    · exact .of_bind (fun _ => .replace _ _) inserted
    · split at inserted
      · cases inserted
      · exact .of_bind (fun _ => .replace _ _) inserted
    · split at inserted
      · cases inserted
      · exact .of_bind (fun _ => .replace _ _) inserted
    · cases inserted

theorem changed_within {change : String → Entries → Option Entries}
    (each : ∀ key t u, change key t = some u → Changed t u) {path : List String} {t u : Entries}
    (done : within change path t = some u) : Changed t u := by
  unfold within at done
  split at done
  · cases done
  · exact each _ _ _ done
  · split at done
    · next free => exact .of_bind (fun _ => .append _ _ free) done
    · cases done
    · exact .of_bind (fun _ => .replace _ _) done
    · exact .of_bind (fun _ => .replace _ _) done
    · cases done

theorem changed_openTable {fill : Entries → Option Entries} {path : List String} {t u : Entries}
    (opened : t.openTable fill path = some u) : Changed t u := by
  refine changed_within (fun key t u changed => ?_) opened
  split at changed
  · next free => exact .of_bind (fun _ => .append _ _ free) changed
  · exact .of_bind (fun _ => .move _ _) changed
  · cases changed

theorem changed_appendTable {fill : Entries → Option Entries} {path : List String} {t u : Entries}
    (opened : t.appendTable fill path = some u) : Changed t u := by
  refine changed_within (fun key t u changed => ?_) opened
  split at changed
  · next free => exact .of_bind (fun _ => .append _ _ free) changed
  · exact .of_bind (fun _ => .replace _ _) changed
  · cases changed

theorem changed_addSection {s : Section} {t u : Entries} (added : t.addSection s = some u) :
    Changed t u := by
  unfold addSection at added
  split at added
  · exact changed_appendTable added
  · exact changed_openTable added

/-- Statements leave keys distinct if each of them only changes the table. -/
theorem Distinct.foldlM {α : Type} {f : Entries → α → Option Entries}
    (each : ∀ t a u, f t a = some u → Changed t u) {xs : List α} {t u : Entries}
    (distinct : t.Distinct) (done : xs.foldlM f t = some u) : u.Distinct := by
  induction xs generalizing t with
  | nil => cases done; exact distinct
  | cons a xs ih =>
    rw [List.foldlM_cons] at done
    obtain ⟨mid, first, rest⟩ := Option.bind_eq_some_iff.1 done
    exact ih ((each t a mid first).distinct distinct) rest

theorem Distinct.fill {pairs : List Pair} {t u : Entries} (distinct : t.Distinct)
    (filled : fill pairs t = some u) : u.Distinct :=
  distinct.foldlM (fun _ _ _ inserted => changed_insert inserted) filled

end Entries

theorem distinct_document? {text : String} {root : Entries} (read : document? text = some root) :
    root.Distinct := by
  obtain ⟨⟨⟨pairs, sections⟩, _⟩, -, rest⟩ := Option.bind_eq_some_iff.1 read
  obtain ⟨t, filled, added⟩ := Option.bind_eq_some_iff.1 rest
  have empty : Entries.Distinct [] := List.nodup_nil
  have distinct : t.Distinct := empty.fill filled
  exact distinct.foldlM (fun _ _ _ added => Entries.changed_addSection added) added

end MultiDispatch.Toml

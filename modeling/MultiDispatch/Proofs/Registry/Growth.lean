import MultiDispatch.Proofs.Registry.Edges
import Mathlib.Data.List.Nodup

/-! What registries never lose, and what they never hold twice. Single changes append to the lists
of one type or append a type, so all that was registered stays where it was, whatever is done next,
and the checks for repetitions are never bypassed. -/
namespace MultiDispatch

open Relation (ReflTransGen)

variable {ε V τ : Type}

theorem nodup_map_concat {α β : Type} {f : α → β} {xs : List α} {x : α}
    (nodup : (xs.map f).Nodup) (new : ∀ y ∈ xs, f y ≠ f x) : ((xs ++ [x]).map f).Nodup := by
  have absent : f x ∉ xs.map f := by
    intro held
    obtain ⟨y, member, same⟩ := List.mem_map.1 held
    exact new y member same
  rw [List.map_append, List.map_singleton, ← List.concat_eq_append]
  exact nodup.concat absent

/-- What an edge is known by: registering it again under the same key adds nothing. -/
def Edge.key (e : Edge ε V) : Token × Nat := (e.source, e.converter.serial)

namespace Entry

/-- The same type, with more guards and edges behind those it had. -/
structure Grows (e f : Entry ε V τ) : Prop where
  name : f.name = e.name
  kind : f.kind = e.kind
  guards : e.guards <+: f.guards
  incoming : e.incoming <+: f.incoming

theorem Grows.refl (e : Entry ε V τ) : e.Grows e :=
  ⟨rfl, rfl, List.prefix_rfl, List.prefix_rfl⟩

theorem Grows.trans {e f g : Entry ε V τ} (first : e.Grows f) (next : f.Grows g) : e.Grows g where
  name := next.name.trans first.name
  kind := next.kind.trans first.kind
  guards := first.guards.trans next.guards
  incoming := first.incoming.trans next.incoming

theorem grows_attach (g : Guard ε V) (e : Entry ε V τ) : e.Grows (e.attach g) := by
  unfold attach
  split
  · exact .refl e
  · exact ⟨rfl, rfl, List.prefix_append _ _, List.prefix_rfl⟩

theorem grows_connect (edge : Edge ε V) (e : Entry ε V τ) : e.Grows (e.connect edge) := by
  unfold connect
  split
  · exact .refl e
  · exact ⟨rfl, rfl, List.prefix_rfl, List.prefix_append _ _⟩

/-- No guard and no edge is held twice. -/
structure Tidy (e : Entry ε V τ) : Prop where
  guards : (e.guards.map (·.identity)).Nodup
  incoming : (e.incoming.map Edge.key).Nodup

theorem Tidy.attach {e : Entry ε V τ} (tidy : e.Tidy) (g : Guard ε V) : (e.attach g).Tidy := by
  unfold Entry.attach
  split
  · exact tidy
  · rename_i new
    refine ⟨nodup_map_concat tidy.guards fun held member same => new ?_, tidy.incoming⟩
    exact List.any_eq_true.2 ⟨held, member, decide_eq_true same⟩

theorem Tidy.connect {e : Entry ε V τ} (tidy : e.Tidy) (edge : Edge ε V) :
    (e.connect edge).Tidy := by
  unfold Entry.connect
  split
  · exact tidy
  · rename_i new
    refine ⟨tidy.guards, nodup_map_concat tidy.incoming fun held member same => new ?_⟩
    exact List.any_eq_true.2 ⟨held, member, decide_eq_true (Prod.mk.inj same)⟩

end Entry

namespace Registry

/-- Every type of the earlier registry is one of the later, and has lost nothing. -/
structure Grows (r s : Registry ε V τ) : Prop where
  stamp : s.stamp = r.stamp
  settings : s.settings = r.settings
  entries : ∀ t e, r.get? t = some e → ∃ f, s.get? t = some f ∧ e.Grows f

namespace Grows

theorem refl (r : Registry ε V τ) : r.Grows r := ⟨rfl, rfl, fun _ e held => ⟨e, held, .refl e⟩⟩

theorem trans {r s u : Registry ε V τ} (first : r.Grows s) (next : s.Grows u) : r.Grows u where
  stamp := next.stamp.trans first.stamp
  settings := next.settings.trans first.settings
  entries t e held := by
    obtain ⟨f, later, more⟩ := first.entries t e held
    obtain ⟨g, last, most⟩ := next.entries t f later
    exact ⟨g, last, more.trans most⟩

variable {r s : Registry ε V τ} (growth : r.Grows s)

include growth

theorem owns {t : Token} (owned : r.owns t = true) : s.owns t = true := by
  obtain ⟨e, held⟩ := exists_get? owned
  obtain ⟨f, later, _⟩ := growth.entries t e held
  rw [← isSome_get?, later, Option.isSome_some]

theorem edgesInto (t : Token) : r.edgesInto t <+: s.edgesInto t := by
  unfold Registry.edgesInto
  cases held : r.get? t with
  | none => exact List.nil_prefix
  | some e =>
    obtain ⟨f, later, more⟩ := growth.entries t e held
    rw [later]
    exact more.incoming

theorem guards (t : Token) : r.guards t <+: s.guards t := by
  unfold Registry.guards
  cases held : r.get? t with
  | none => exact List.nil_prefix
  | some e =>
    obtain ⟨f, later, more⟩ := growth.entries t e held
    rw [later]
    exact more.guards

/-- A type keeps its name, unless its token was written down before it was allocated. -/
theorem name {t : Token} (known : s.owns t = true → r.owns t = true) : s.name t = r.name t := by
  cases owned : r.owns t with
  | false =>
    have foreign : s.owns t = false := by simpa [owned] using known
    rw [name_of_foreign owned, name_of_foreign foreign]
  | true =>
    obtain ⟨e, held⟩ := exists_get? owned
    obtain ⟨f, later, more⟩ := growth.entries t e held
    simp [Registry.name, held, later, more.name]

end Grows

theorem grows_push (r : Registry ε V τ) (e : Entry ε V τ) : r.Grows (r.push e) := by
  refine ⟨rfl, rfl, fun t f held => ⟨f, ?_, .refl f⟩⟩
  have old : t ≠ r.nextToken := by
    intro new
    rw [new, get?_nextToken] at held
    cases held
  rw [get?_push, if_neg old, held]

theorem grows_update (r : Registry ε V τ) (t : Token) {f : Entry ε V τ → Entry ε V τ}
    (grows : ∀ e : Entry ε V τ, e.Grows (f e)) : r.Grows (r.update t f) := by
  refine ⟨stamp_update .., settings_update .., fun u e held => ?_⟩
  rw [get?_update, held]
  by_cases here : u = t
  · exact ⟨f e, if_pos here, grows e⟩
  · exact ⟨e, if_neg here, .refl e⟩

/-- What the type stands for, if the registry owns it. -/
def kind? (r : Registry ε V τ) (t : Token) : Option (Kind τ) := (r.get? t).map (·.kind)

theorem Grows.kind? {r s : Registry ε V τ} (growth : r.Grows s) {t : Token}
    (known : s.owns t = true → r.owns t = true) : s.kind? t = r.kind? t := by
  cases owned : r.owns t with
  | false =>
    have foreign : s.owns t = false := by simpa [owned] using known
    rw [Registry.kind?, Registry.kind?, get?_of_foreign owned, get?_of_foreign foreign]
  | true =>
    obtain ⟨e, held⟩ := exists_get? owned
    obtain ⟨f, later, more⟩ := growth.entries t e held
    simp [Registry.kind?, held, later, more.kind]

theorem kind?_push (r : Registry ε V τ) (e : Entry ε V τ) (t : Token) :
    (r.push e).kind? t = if t = r.nextToken then some e.kind else r.kind? t := by
  unfold kind?
  rw [get?_push]
  split <;> rfl

theorem kind?_update (r : Registry ε V τ) (t u : Token) {f : Entry ε V τ → Entry ε V τ}
    (grows : ∀ e : Entry ε V τ, e.Grows (f e)) : (r.update t f).kind? u = r.kind? u := by
  unfold kind?
  rw [get?_update]
  split
  · rw [Option.map_map]
    exact congrArg (Option.map · (r.get? u)) (funext fun e => (grows e).kind)
  · rfl

theorem kind?_nextToken (r : Registry ε V τ) : r.kind? r.nextToken = none := by
  rw [kind?, get?_nextToken, Option.map_none]

/-- Each type of the registry is tidy. -/
def Tidy (r : Registry ε V τ) : Prop := ∀ t e, r.get? t = some e → e.Tidy

theorem tidy_push {r : Registry ε V τ} (tidy : r.Tidy) {e : Entry ε V τ} (new : e.Tidy) :
    (r.push e).Tidy := by
  intro t f held
  rw [get?_push] at held
  split at held
  · cases held
    exact new
  · exact tidy t f held

theorem tidy_update {r : Registry ε V τ} (tidy : r.Tidy) (t : Token)
    {f : Entry ε V τ → Entry ε V τ} (kept : ∀ e, e.Tidy → (f e).Tidy) : (r.update t f).Tidy := by
  intro u e held
  rw [get?_update] at held
  split at held
  · obtain ⟨before, owned, rfl⟩ := Option.map_eq_some_iff.1 held
    exact kept before (tidy u before owned)
  · exact tidy u e held

/-- Edges are kept with their targets and join types of the registry. -/
def Joined (r : Registry ε V τ) : Prop :=
  ∀ t, ∀ e ∈ r.edgesInto t, e.target = t ∧ r.owns e.source ∧ r.owns e.target

/-- The table of run-time types and the types that stand for them name each other, one to one. -/
structure Matched [BEq τ] (r : Registry ε V τ) : Prop where
  keys : (r.nominals.map (·.1)).Nodup
  tokens : ∀ type t, r.nominals.lookup type = some t ↔ r.kind? t = some (.nominal type)

structure WellFormed [BEq τ] (r : Registry ε V τ) : Prop where
  tidy : r.Tidy
  joined : r.Joined
  matched : r.Matched

theorem wellFormed_empty [BEq τ] (stamp : Nat) (settings : Settings) :
    (empty stamp settings : Registry ε V τ).WellFormed where
  tidy t e held := by simp [empty, get?] at held
  joined t e into := by simp [empty, Registry.edgesInto, get?] at into
  matched := ⟨List.nodup_nil, fun type t => by simp [empty, kind?, get?]⟩

theorem matched_push [BEq τ] {r : Registry ε V τ} (matched : r.Matched) {e : Entry ε V τ}
    (structural : e.kind = .structural) : (r.push e).Matched := by
  refine ⟨matched.keys, fun type t => ?_⟩
  have before := matched.tokens type t
  rw [kind?_push]
  split
  · rename_i new
    rw [new, kind?_nextToken] at before
    rw [new, structural]
    exact before.trans (by simp)
  · exact before

theorem matched_update [BEq τ] {r : Registry ε V τ} (matched : r.Matched) (t : Token)
    {f : Entry ε V τ → Entry ε V τ} (grows : ∀ e : Entry ε V τ, e.Grows (f e)) :
    (r.update t f).Matched := by
  refine ⟨?_, fun type u => ?_⟩
  · rw [nominals_update]
    exact matched.keys
  · rw [nominals_update, kind?_update r t u grows]
    exact matched.tokens type u

variable [Typed V τ] [DecidableEq τ]

theorem matched_nominal {r : Registry ε V τ} (matched : r.Matched) {type : τ}
    (new : r.nominals.lookup type = none) : (r.nominal type).2.Matched := by
  have table : (r.nominal type).2.nominals = r.nominals ++ [(type, r.nextToken)] := by
    simp only [nominal, new]
  have kinds (t : Token) : (r.nominal type).2.kind? t =
      if t = r.nextToken then some (.nominal type) else r.kind? t := by
    simp only [nominal, new]
    exact r.kind?_push { name := shortName (Typed.path V type), kind := .nominal type } t
  refine ⟨?_, fun other t => ?_⟩
  · rw [table]
    exact nodup_map_concat matched.keys fun p member same =>
      bne_iff_ne.1 (List.lookup_eq_none_iff.1 new p member) same.symm
  · have before := matched.tokens other t
    rw [table, kinds, List.lookup_append]
    by_cases same : other = type
    · -- The new type had no token, and now has the new one.
      rw [same, new] at before
      rw [same, new, Option.none_or, List.lookup_cons_self]
      split
      · rename_i last
        simp [last]
      · rename_i old
        simpa [Ne.symm old] using before
    · -- The table says of another type what it said before, and that is never the new token.
      have unequal : (other == type) = false := beq_eq_false_iff_ne.2 same
      rw [List.lookup_cons, unequal, List.lookup_nil, Option.or_none, before]
      split
      · rename_i last
        rw [last, kind?_nextToken]
        simp [Ne.symm same]
      · rfl

namespace Change

variable {r s : Registry ε V τ} (change : Change r s)

include change

theorem grows : r.Grows s := by
  cases change with
  | declare name => exact r.grows_push _
  | allot type new =>
    simp only [nominal, new]
    obtain ⟨stamp, settings, entries⟩ :=
      r.grows_push { name := shortName (Typed.path V type), kind := .nominal type }
    exact ⟨stamp, settings, entries⟩
  | attach t g _ => exact r.grows_update t (Entry.grows_attach g)
  | connect edge _ _ => exact r.grows_update edge.target (Entry.grows_connect edge)

theorem tidy (tidy : r.Tidy) : s.Tidy := by
  cases change with
  | declare name => exact tidy_push tidy ⟨List.nodup_nil, List.nodup_nil⟩
  | allot type new =>
    simp only [nominal, new]
    exact tidy_push (e := { name := shortName (Typed.path V type), kind := .nominal type }) tidy
      ⟨List.nodup_nil, List.nodup_nil⟩
  | attach t g _ => exact tidy_update tidy t fun e held => held.attach g
  | connect edge _ _ => exact tidy_update tidy edge.target fun e held => held.connect edge

theorem joined (joined : r.Joined) : s.Joined := by
  have growth := change.grows
  intro t e into
  have kept (old : e ∈ r.edgesInto t) : e.target = t ∧ s.owns e.source ∧ s.owns e.target := by
    obtain ⟨here, source, target⟩ := joined t e old
    exact ⟨here, growth.owns source, growth.owns target⟩
  rcases change.edgesInto t with same | ⟨edge, here, source, target, more⟩
  · rw [same] at into
    exact kept into
  · rw [more] at into
    rcases List.mem_append.1 into with old | new
    · exact kept old
    · rw [List.mem_singleton.1 new]
      exact ⟨here.symm, growth.owns source, growth.owns target⟩

theorem matched (matched : r.Matched) : s.Matched := by
  cases change with
  | declare name => exact matched_push matched rfl
  | allot type new => exact matched_nominal matched new
  | attach t g _ => exact matched_update matched t (Entry.grows_attach g)
  | connect edge _ _ => exact matched_update matched edge.target (Entry.grows_connect edge)

theorem wellFormed (valid : r.WellFormed) : s.WellFormed :=
  ⟨change.tidy valid.tidy, change.joined valid.joined, change.matched valid.matched⟩

end Change

theorem Reachable.wellFormed {r : Registry ε V τ} (reachable : r.Reachable) : r.WellFormed :=
  reachable.induct (wellFormed_empty r.stamp r.settings) fun _ _ valid change =>
    change.wellFormed valid

theorem grows_of_changes {r s : Registry ε V τ} (path : ReflTransGen Change r s) : r.Grows s := by
  induction path with
  | refl => exact .refl r
  | tail _ change ih => exact ih.trans change.grows

theorem grows_after (r : Registry ε V τ) (ops : List (Operation ε V τ)) : r.Grows (r.after ops) :=
  grows_of_changes (after_changes ops r)

theorem reachable_after (stamp : Nat) (settings : Settings) (ops : List (Operation ε V τ)) :
    ((empty stamp settings).after ops).Reachable := by
  have growth := grows_after (empty stamp settings) ops
  refine ⟨ops, ?_⟩
  rw [growth.stamp, growth.settings]
  rfl

/-- Any run of operations leads to a registry that holds no guard and no edge twice, whose edges
join its own types and lie with their targets, and in which the table of run-time types is exact.
What the run has registered stays in its place in every longer run. -/
theorem after_wellFormed (stamp : Nat) (settings : Settings) (ops : List (Operation ε V τ)) :
    ((empty stamp settings).after ops).WellFormed ∧
      ∀ later, ((empty stamp settings).after ops).Grows
        ((empty stamp settings).after (ops ++ later)) := by
  constructor
  · exact (reachable_after stamp settings ops).wellFormed
  · intro later
    rw [after_append]
    exact grows_after _ later

end Registry

end MultiDispatch

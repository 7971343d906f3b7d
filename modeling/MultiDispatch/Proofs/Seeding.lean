import MultiDispatch.Proofs.Identity
import MultiDispatch.Proofs.Registry.Repetition
import MultiDispatch.Proofs.Registry.Tokens
import MultiDispatch.Proofs.Widening.Frontier

/-! When run-time types get their guards. A registry may make up the guard of a type on each
occasion that it needs one, or every such type may be given its guard beforehand. The guards run the
same tests, those made up have no identity, and nothing else of a type changes, so functions do the
same either way. -/
namespace MultiDispatch

variable {ε V τ : Type} [Typed V τ] [DecidableEq τ]

namespace Entry

/-- What automatic registration makes of the entry of a type. -/
def seed (t : Token) (e : Entry ε V τ) : Entry ε V τ :=
  match e with
  | { kind := .nominal type, guards := [], .. } => e.attach ⟨.seeded t, instanceTest type⟩
  | _ => e

theorem grows_seed (t : Token) (e : Entry ε V τ) : e.Grows (e.seed t) := by
  unfold seed
  split
  · exact grows_attach _ _
  · exact .refl _

theorem incoming_seed (t : Token) (e : Entry ε V τ) : (e.seed t).incoming = e.incoming := by
  obtain ⟨name, kind, guards, incoming⟩ := e
  cases kind <;> cases guards <;> rfl

theorem seed_seed (t : Token) (e : Entry ε V τ) : (e.seed t).seed t = e.seed t := by
  obtain ⟨name, kind, guards, incoming⟩ := e
  cases kind <;> cases guards <;> rfl

theorem seed_of_structural {e : Entry ε V τ} (structural : e.kind = .structural) (t : Token) :
    e.seed t = e := by
  obtain ⟨name, kind, guards, incoming⟩ := e
  cases structural
  rfl

end Entry

namespace Registry

theorem snd_perform_autoRegister (t : Token) (r : Registry ε V τ) :
    ((Operation.autoRegister t).perform r).2 = r.update t (Entry.seed t) := by
  rw [Operation.perform, Edit.perform, Edit.run_autoRegister]
  cases entry : r.get? t with
  | none => exact (update_eq_self fun e held => by simp [entry] at held).symm
  | some e =>
    obtain ⟨name, kind, guards, incoming⟩ := e
    cases kind with
    | structural =>
      refine (update_eq_self fun e held => ?_).symm
      cases entry.symm.trans held
      rfl
    | nominal type =>
      cases guards with
      | cons =>
        refine (update_eq_self fun e held => ?_).symm
        cases entry.symm.trans held
        rfl
      | nil =>
        refine update_congr fun e held => ?_
        cases entry.symm.trans held
        rfl

/-- A run registers the types that it names, however often it names them. -/
theorem get?_after_autoRegister (tokens : List Token) (t : Token) (r : Registry ε V τ) :
    (r.after (tokens.map .autoRegister)).get? t =
      if t ∈ tokens then (r.get? t).map (Entry.seed t) else r.get? t := by
  induction tokens generalizing r with
  | nil => rfl
  | cons u tokens ih =>
    show (((Operation.autoRegister u).perform r).2.after (tokens.map .autoRegister)).get? t = _
    rw [ih, snd_perform_autoRegister, get?_update]
    by_cases here : t = u
    · -- The rest of the run may name the type again, which does nothing.
      subst here
      simp [Function.comp_def, Entry.seed_seed]
    · simp [here]

/-- The registry that makes up no guards, after the automatic registration of these types. -/
def eager (r : Registry ε V τ) (tokens : List Token) : Registry ε V τ :=
  ({ r with settings := { r.settings with autoRegister := false } } : Registry ε V τ).after
    (tokens.map .autoRegister)

theorem settings_eager (r : Registry ε V τ) (tokens : List Token) :
    (r.eager tokens).settings = { r.settings with autoRegister := false } :=
  (grows_after _ _).settings

section Eager

variable {r : Registry ε V τ} {tokens : List Token}
  (each : ∀ t, t ∈ tokens ↔ ∃ type, r.kind? t = some (.nominal type))

include each

theorem get?_eager (t : Token) : (r.eager tokens).get? t = (r.get? t).map (Entry.seed t) := by
  rw [eager, get?_after_autoRegister]
  split
  · rfl
  · rename_i other
    show r.get? t = _
    cases entry : r.get? t with
    | none => rfl
    | some e =>
      cases kind : e.kind with
      | structural => rw [Option.map_some, Entry.seed_of_structural kind]
      | nominal type => exact absurd ((each t).2 ⟨type, by rw [kind?, entry, ← kind]; rfl⟩) other

theorem name_eager (t : Token) : (r.eager tokens).name t = r.name t := by
  rw [name, name, get?_eager each]
  cases r.get? t with
  | none => rfl
  | some e => exact (e.grows_seed t).name

theorem edgesInto_eager (t : Token) : (r.eager tokens).edgesInto t = r.edgesInto t := by
  rw [edgesInto, edgesInto, get?_eager each, Option.map_map]
  simp only [Function.comp_def, Entry.incoming_seed]

theorem widening_eager (declared : List Token) :
    (r.eager tokens).widening declared = r.widening declared :=
  widening_congr (by rw [settings_eager]) fun t _ => edgesInto_eager each t

theorem map_resolve_eager (lazy : r.settings.autoRegister = true) (t : Token) :
    ((r.eager tokens).resolve t).map Combined.stripped =
      (r.resolve t).map Combined.stripped := by
  rw [resolve, resolve, unknown, unknown, name_eager each, settings_eager, get?_eager each, lazy]
  cases r.get? t with
  | none => rfl
  | some e =>
    obtain ⟨name, kind, guards, incoming⟩ := e
    cases kind <;> cases guards <;> rfl

theorem sameTests_eager (lazy : r.settings.autoRegister = true) :
    r.SameTests (r.eager tokens) where
  accepted declared := by rw [accepted_eq_widening, accepted_eq_widening, widening_eager each]
  name := name_eager each
  resolve := map_resolve_eager each lazy

end Eager

theorem resolve_of_bare {r : Registry ε V τ} {t : Token}
    (structural : r.kind? t = some .structural) (bare : r.guards t = []) :
    r.resolve t = .error (r.unknown t) := by
  obtain ⟨e, held, kind⟩ := Option.map_eq_some_iff.1 structural
  refine resolve_eq_error.2 ⟨.inr ⟨bare, ?_⟩, rfl⟩
  rintro ⟨_, f, type, same, nominal⟩
  rw [held] at same
  cases same
  rw [kind] at nominal
  cases nominal

end Registry

namespace Dispatcher

theorem exists_unknownType {r : Registry ε V τ} {d : Definition ε V} {t : Token}
    (reached : t ∈ d.reached r) (miswired : r.Miswired t) (nullary : d.nullary ≤ 1) :
    ∃ n, build r d = .error (.unknownType n) := by
  cases built : build r d with
  | ok f => exact absurd miswired ((exists_build.1 ⟨f, built⟩).2.2 t reached)
  | error e =>
    rcases build_eq_error.1 built with ⟨empty, _⟩ | ⟨many, _⟩ | ⟨_, _, _, u, _, _, _, _, rfl⟩
    · rw [Definition.reached, empty] at reached
      cases reached
    · exact absurd nullary (Nat.not_le.2 many)
    · exact ⟨_, rfl⟩

/-- It makes no difference whether the guards of run-time types are made when they are needed or all
beforehand. A function fails to build with the same error, or differs in the identities of guards
alone and does and records the same on every call. Types that are only defined by guards and have
none are unknown either way. -/
theorem build_seeded (r : Registry ε V τ) (lazy : r.settings.autoRegister = true)
    (tokens : List Token) (each : ∀ t, t ∈ tokens ↔ ∃ type, r.kind? t = some (.nominal type))
    (d : Definition ε V) :
    (∀ e, build r d = .error e ↔ build (r.eager tokens) d = .error e) ∧
    (∀ f, build r d = .ok f → ∃ g, build (r.eager tokens) d = .ok g ∧ g.stripped = f.stripped ∧
      ∀ receiver args, g.call receiver args = f.call receiver args) ∧
    ∀ t, r.kind? t = some .structural → r.guards t = [] →
      r.resolve t = .error (.unknownType (r.name t)) ∧
      (r.eager tokens).resolve t = .error (.unknownType (r.name t)) ∧
      (t ∈ d.reached r → d.nullary ≤ 1 → ∃ n, build r d = .error (.unknownType n) ∧
        build (r.eager tokens) d = .error (.unknownType n)) := by
  have same := Registry.sameTests_eager each lazy
  have built := same.build d
  have errors (e : ConfigError) : build r d = .error e ↔ build (r.eager tokens) d = .error e := by
    rw [← map_eq_error, ← built, map_eq_error]
  refine ⟨errors, fun f compiled => ?_, fun t structural bare => ?_⟩
  · rw [compiled] at built
    obtain ⟨g, compiled', stripped⟩ := map_eq_ok.1 built
    refine ⟨g, compiled', stripped, fun receiver args => ?_⟩
    rw [← call_stripped, stripped, call_stripped]
  · have unknown := Registry.resolve_of_bare structural bare
    have unknown' := same.resolve t
    rw [unknown] at unknown'
    refine ⟨unknown, map_eq_error.1 unknown', fun reached nullary => ?_⟩
    have miswired := (Registry.resolve_eq_error.1 unknown).1
    obtain ⟨n, failed⟩ := exists_unknownType reached miswired nullary
    exact ⟨n, failed, (errors _).1 failed⟩

end Dispatcher

namespace Amount

/-- Unit 1 has a guard, units 0 and 2 have none. Of the other types, "shoal" has no guard. -/
def harbour : Registry String Amount Nat :=
  (Registry.empty 0 { autoRegister := true, reach := .transitive }).after
    [.nominal 0, .nominal 1, .nominal 2, .declare "berth", .declare "shoal",
      .registerGuard ⟨0, 1⟩ ⟨.made 0, fun v => pure (decide (v.unit = 1 ∧ v.count < 9))⟩,
      .registerGuard ⟨0, 3⟩ ⟨.made 1, instanceTest 7⟩, .registerConversion (exchange 1 0 2),
      .registerConversion (exchange 2 1 3), .registerConversion (exchange 3 0 5)]

def moor : Definition String Amount where
  overloads := [⟨[[⟨0, 0⟩], [⟨0, 3⟩]], fun _ args => pure (args.headD ⟨0, 0⟩)⟩]

def strand : Definition String Amount where
  overloads := [⟨[[⟨0, 0⟩, ⟨0, 4⟩]], fun _ args => pure (args.headD ⟨0, 0⟩)⟩]

theorem mem_harbour_nominals (t : Token) :
    t ∈ [(⟨0, 2⟩ : Token), ⟨0, 0⟩, ⟨0, 1⟩] ↔ ∃ type, harbour.kind? t = some (.nominal type) := by
  constructor
  · intro listed
    simp only [List.mem_cons, List.not_mem_nil, or_false] at listed
    rcases listed with rfl | rfl | rfl <;> exact ⟨_, rfl⟩
  · obtain ⟨registry, index⟩ := t
    rintro ⟨type, nominal⟩
    by_contra other
    have structural : ∀ i < 5, (⟨0, i⟩ : Token) ∉ [(⟨0, 2⟩ : Token), ⟨0, 0⟩, ⟨0, 1⟩] →
        harbour.kind? ⟨0, i⟩ = some .structural := by decide
    have owned := Registry.owns_of_kind? nominal
    have bound : index < 5 := Registry.index_lt_of_owns owned
    obtain rfl : registry = 0 := Registry.registry_of_owns owned
    rw [structural index bound other] at nominal
    cases nominal

theorem moor_builds : ∃ f, Dispatcher.build harbour moor = .ok f ∧
    (f.call none [⟨2, 1⟩, ⟨7, 1⟩]).val = .ok ⟨0, 6⟩ ∧
    ∃ e, (f.call none [⟨1, 10⟩, ⟨7, 1⟩]).val = .error e := by
  unfold Dispatcher.build Candidate.compile Signature.compile Slot.compile
  simp only [Registry.accepted_eq_widening]
  exact ⟨_, rfl, rfl, _, rfl⟩

theorem build_seeded_harbour : ∃ f g, Dispatcher.build harbour moor = .ok f ∧
    Dispatcher.build (harbour.eager [⟨0, 2⟩, ⟨0, 0⟩, ⟨0, 1⟩]) moor = .ok g ∧
    g.stripped = f.stripped ∧
    (g.call none [⟨2, 1⟩, ⟨7, 1⟩]).val = .ok ⟨0, 6⟩ ∧
    (∃ e, (g.call none [⟨1, 10⟩, ⟨7, 1⟩]).val = .error e) ∧
    ∃ n, Dispatcher.build harbour strand = .error (.unknownType n) ∧
      Dispatcher.build (harbour.eager [⟨0, 2⟩, ⟨0, 0⟩, ⟨0, 1⟩]) strand =
        .error (.unknownType n) := by
  obtain ⟨f, compiled, result, e, refused⟩ := moor_builds
  have agree (d : Definition String Amount) :=
    Dispatcher.build_seeded harbour rfl [⟨0, 2⟩, ⟨0, 0⟩, ⟨0, 1⟩] mem_harbour_nominals d
  obtain ⟨g, compiled', stripped, calls⟩ := (agree moor).2.1 f compiled
  have reached : ⟨0, 4⟩ ∈ strand.reached harbour := by
    simp only [Definition.reached, Overload.reached, funext harbour.acceptedTokens_eq]
    decide
  have fails := ((agree strand).2.2 ⟨0, 4⟩ rfl rfl).2.2 reached (by decide)
  exact ⟨f, g, compiled, compiled', stripped, by rw [calls, result], ⟨e, by rw [calls, refused]⟩,
    fails⟩

end Amount

end MultiDispatch

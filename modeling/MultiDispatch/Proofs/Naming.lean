import MultiDispatch.Proofs.Meaning
import MultiDispatch.Proofs.Registry.Names

/-! What names are for. A declared name, or the name of a function, shows in labels and in errors
and nowhere else. Runs that differ in names only compile the same functions up to these texts, and
every call of them picks the same overload and hands it the same arguments. -/
namespace MultiDispatch

variable {ε V τ : Type}

/-- An error with its name left out. -/
def ConfigError.unnamed : ConfigError → ConfigError
  | noSignatures _ => noSignatures ""
  | unknownType _ => unknownType ""
  | ambiguousNullary _ count => ambiguousNullary "" count

def Slot.unnamed (s : Slot ε V) : Slot ε V := { s with label := "" }

def Candidate.unnamed (c : Candidate ε V) : Candidate ε V :=
  { c with signature := ⟨c.signature.slots.map Slot.unnamed⟩ }

def KnownType.unnamed (k : KnownType ε V) : KnownType ε V := { k with name := "" }

namespace Dispatcher

/-- The function with its own name, the labels of its slots and the names of its types left out. -/
def unnamed (f : Dispatcher ε V) : Dispatcher ε V where
  name := ""
  candidates := f.candidates.map Candidate.unnamed
  index := f.index
  known := f.known.map KnownType.unnamed

/-- Both fail in the same way, or both are functions of the same parts that answer every call alike
or fail on it alike. -/
inductive SameButNames [Typed V τ] :
    Except ConfigError (Dispatcher ε V) → Except ConfigError (Dispatcher ε V) → Prop
  | error {a b : ConfigError} (kind : a.unnamed = b.unnamed) : SameButNames (.error a) (.error b)
  | ok {f g : Dispatcher ε V} (parts : f.unnamed = g.unnamed)
      (dispatch : ∀ args, (f.dispatch args).toOption = (g.dispatch args).toOption)
      (call : ∀ receiver args,
        (f.call receiver args).val.toOption = (g.call receiver args).val.toOption) :
      SameButNames (.ok f) (.ok g)

end Dispatcher

variable [Typed V τ] [DecidableEq τ]

theorem Registry.unnamed_resolve_eq_ok {r : Registry ε V τ} {t : Token} {g : Combined ε V} :
    r.unnamed.resolve t = .ok g ↔ r.resolve t = .ok g := by
  unfold resolve
  rw [unnamed_get?]
  cases r.get? t with
  | none => simp
  | some e =>
    obtain ⟨name, kind, guards, incoming⟩ := e
    cases guards with
    | cons => exact .rfl
    | nil =>
      cases kind with
      | structural => simp [Entry.unnamed]
      | nominal type => cases allowed : r.settings.autoRegister <;> simp [Entry.unnamed, allowed]

section Renamed

variable {r s : Registry ε V τ} (same : s.unnamed = r.unnamed)

include same

namespace Registry

omit [Typed V τ] [DecidableEq τ] in
theorem resembles_of_unnamed : r.Resembles s where
  settings := by rw [← s.unnamed_settings, same, r.unnamed_settings]
  kind? t := by rw [← s.unnamed_kind?, same, r.unnamed_kind?]
  guards t g := by rw [← s.unnamed_guards, same, r.unnamed_guards]
  edgesInto t := by rw [← s.unnamed_edgesInto, same, r.unnamed_edgesInto]

theorem resolve_eq_ok_of_unnamed {t : Token} {g : Combined ε V} :
    s.resolve t = .ok g ↔ r.resolve t = .ok g := by
  rw [← unnamed_resolve_eq_ok, same, unnamed_resolve_eq_ok]

theorem failure?_resolve_of_unnamed (t : Token) :
    (failure? (s.resolve t)).map ConfigError.unnamed =
      (failure? (r.resolve t)).map ConfigError.unnamed := by
  have accepts (g : Combined ε V) := resolve_eq_ok_of_unnamed (g := g) (t := t) same
  cases old : r.resolve t with
  | ok g => rw [(accepts g).2 old]
  | error e =>
    cases new : s.resolve t with
    | ok g =>
      rw [(accepts g).1 new] at old
      cases old
    | error e' =>
      rw [(resolve_eq_error.1 old).2, (resolve_eq_error.1 new).2]
      rfl

end Registry

theorem Slot.unnamed_of_compile {types : List Token} {a b : Slot ε V}
    (old : Slot.compile r types = .ok a) (new : Slot.compile s types = .ok b) :
    b.unnamed = a.unnamed := by
  obtain ⟨_, more, entries, guards⟩ := compile_eq_ok.1 old
  have accepted : s.accepted types = r.accepted types := by
    rw [Registry.accepted_eq_widening, Registry.accepted_eq_widening,
      (Registry.resembles_of_unnamed same).agrees.widening]
  -- The members of the one slot are members of the other; only the label is made anew.
  have made : Slot.compile s types = .ok ⟨_, a.widened, a.members⟩ :=
    compile_eq_ok.2 ⟨rfl, more, entries.trans accepted.symm, fun m member =>
      (Registry.resolve_eq_ok_of_unnamed same).2 (guards m member)⟩
  cases new.symm.trans made
  rfl

theorem Candidate.unnamed_of_compile {o : Overload ε V} {a b : Candidate ε V}
    (old : Candidate.compile r o = .ok a) (new : Candidate.compile s o = .ok b) :
    b.unnamed = a.unnamed := by
  obtain ⟨method, slots⟩ := compile_eq_ok.1 old
  obtain ⟨method', slots'⟩ := compile_eq_ok.1 new
  have parts : b.signature.slots.map Slot.unnamed = a.signature.slots.map Slot.unnamed :=
    map_eq_of_common slots' slots fun _ _ _ is was => Slot.unnamed_of_compile same was is
  rw [unnamed, unnamed, parts, method, method']

theorem KnownType.unnamed_of_ofToken {t : Token} {a b : KnownType ε V}
    (old : KnownType.ofToken r t = .ok a) (new : KnownType.ofToken s t = .ok b) :
    b.unnamed = a.unnamed := by
  obtain ⟨token, _, resolved⟩ := KnownType.ofToken_eq_ok.1 old
  obtain ⟨token', _, resolved'⟩ := KnownType.ofToken_eq_ok.1 new
  have guard := resolved'.symm.trans ((Registry.resolve_eq_ok_of_unnamed same).2 resolved)
  rw [unnamed, unnamed, token, token', Except.ok.inj guard]

namespace Dispatcher

variable {d e : Definition ε V} (overloads : e.overloads = d.overloads)

include overloads

theorem failure?_build_of_unnamed : (failure? (build s e)).map ConfigError.unnamed =
    (failure? (build r d)).map ConfigError.unnamed := by
  have agrees := (Registry.resembles_of_unnamed same).agrees
  have nullary : e.nullary = d.nullary := by rw [Definition.nullary, overloads, Definition.nullary]
  rw [failure?_build, failure?_build, overloads, nullary, agrees.reached overloads]
  split
  · rfl
  · split
    · rfl
    · rw [List.map_findSome?, List.map_findSome?]
      exact congrArg (List.findSome? · (d.reached r))
        (funext fun t => Registry.failure?_resolve_of_unnamed same t)

theorem unnamed_of_build {f g : Dispatcher ε V} (old : build r d = .ok f)
    (new : build s e = .ok g) : g.unnamed = f.unnamed := by
  have agrees := (Registry.resembles_of_unnamed same).agrees
  obtain ⟨_, _, _, compiled, indexed, types⟩ := build_eq_ok.1 old
  obtain ⟨_, _, _, compiled', indexed', types'⟩ := build_eq_ok.1 new
  rw [accepted_of_candidates compiled] at types
  rw [accepted_of_candidates compiled', agrees.reached overloads] at types'
  rw [overloads] at compiled'
  have candidates : g.candidates.map Candidate.unnamed = f.candidates.map Candidate.unnamed :=
    map_eq_of_common compiled' compiled fun _ _ _ is was =>
      Candidate.unnamed_of_compile same was is
  have known : g.known.map KnownType.unnamed = f.known.map KnownType.unnamed :=
    map_eq_of_common types' types fun _ _ _ is was => KnownType.unnamed_of_ofToken same was is
  have arity (c : Candidate ε V) : c.unnamed.arity = c.arity := List.length_map ..
  have arities := congrArg (List.map (·.arity)) candidates
  simp only [List.map_map, Function.comp_def, arity] at arities
  rw [unnamed, unnamed, candidates, known, indexed, indexed', arities]

theorem sameButNames_of_unnamed : SameButNames (build r d) (build s e) := by
  have agrees := (Registry.resembles_of_unnamed same).agrees
  have failures := failure?_build_of_unnamed same overloads
  cases old : build r d with
  | error a =>
    cases new : build s e with
    | error b =>
      rw [old, new] at failures
      exact .error (Option.some.inj failures).symm
    | ok g =>
      rw [old, new] at failures
      cases failures
  | ok f =>
    cases new : build s e with
    | error b =>
      rw [old, new] at failures
      cases failures
    | ok g =>
      have dispatch (args : List V) :
          (f.dispatch args).toOption = (g.dispatch args).toOption := by
        rw [dispatch_eq old, dispatch_eq new, agrees.toOption_dispatch overloads]
      refine .ok (unnamed_of_build same overloads old new).symm dispatch fun receiver args => ?_
      have call := congrArg Except.toOption (val_call_eq_dispatch old receiver args)
      have call' := congrArg Except.toOption (val_call_eq_dispatch new receiver args)
      rw [toOption_map, toOption_map] at call call'
      rw [overloads, ← dispatch, ← call] at call'
      exact (Option.map_injective (fun _ _ => Option.some.inj) call').symm

end Dispatcher

end Renamed

/-- Two runs that differ in declared names only give the same answers, operation by operation.
Against the registries that they leave, functions that differ in their own names only fail to build
for the same kind of reason, or are the same but for labels and the names of types. Then every call
finds no match with either, or has the same winner, the same converted arguments and the same
result. -/
theorem Dispatcher.names_diagnostic (stamp : Nat) (settings : Settings)
    (ops ops' : List (Operation ε V τ))
    (same : ops.map Operation.unnamed = ops'.map Operation.unnamed) :
    (Registry.empty stamp settings).outcomes ops = (Registry.empty stamp settings).outcomes ops' ∧
      ∀ d e : Definition ε V, e.overloads = d.overloads →
        SameButNames (build ((Registry.empty stamp settings).after ops) d)
          (build ((Registry.empty stamp settings).after ops') e) := by
  have first := Registry.run_unnamed ops (Registry.empty stamp settings)
  have second := Registry.run_unnamed ops' (Registry.empty stamp settings)
  rw [same] at first
  constructor
  · exact first.1.symm.trans second.1
  · intro d e overloads
    exact sameButNames_of_unnamed (second.2.symm.trans first.2) overloads

namespace Amount

def pantry (first second : String) : List (Operation String Amount Nat) :=
  [.declare first, .declare second, .nominal 0,
    .add (.guards [(⟨0, 0⟩, ⟨.made 0, instanceTest 1⟩), (⟨0, 1⟩, ⟨.made 1, instanceTest 2⟩)]),
    .registerConversion (exchange 1 0 2), .registerGuard ⟨1, 0⟩ ⟨.made 0, instanceTest 1⟩]

def pour (name : String) : Definition String Amount where
  name? := some name
  overloads := [
    ⟨[[⟨0, 1⟩], [⟨0, 1⟩]], fun _ args => pure (args.headD ⟨0, 0⟩)⟩,
    ⟨[[⟨0, 0⟩]], fun _ args => pure (args.headD ⟨0, 0⟩)⟩]

theorem pour_builds :
    ∃ f, Dispatcher.build ((Registry.empty 0 {}).after (pantry "cup" "cup")) (pour "cup") = .ok f ∧
      f.dispatch [⟨2, 4⟩] = .ok (1, [⟨0, 8⟩]) := by
  unfold Dispatcher.build Candidate.compile Signature.compile Slot.compile
  simp only [Registry.accepted_eq_widening]
  exact ⟨_, rfl, rfl⟩

theorem names_diagnostic_pantry :
    (Registry.empty 0 {}).outcomes (pantry "cup" "cup") =
        (Registry.empty 0 {}).outcomes (pantry "pint" "gill") ∧
      ∃ g, Dispatcher.build ((Registry.empty 0 {}).after (pantry "pint" "gill")) (pour "mix") =
          .ok g ∧ (g.dispatch [⟨2, 4⟩]).toOption = some (1, [⟨0, 8⟩]) := by
  obtain ⟨f, built, answer⟩ := pour_builds
  obtain ⟨answers, functions⟩ :=
    Dispatcher.names_diagnostic 0 {} (pantry "cup" "cup") (pantry "pint" "gill") rfl
  have same := functions (pour "cup") (pour "mix") rfl
  rw [built] at same
  generalize Dispatcher.build ((Registry.empty 0 {}).after (pantry "pint" "gill")) (pour "mix") = g?
    at same
  cases same with
  | ok parts dispatch =>
    refine ⟨answers, _, rfl, ?_⟩
    rw [← dispatch, answer]
    rfl

end Amount

end MultiDispatch

import MultiDispatch.Proofs.Outcome
import MultiDispatch.Proofs.Selection

/-! Why a function does not build. Building visits overloads, parameters and accepted types in order
and stops at the first type that no guard recognises, so what it reports is a search through all the
types that the function reaches. -/
namespace MultiDispatch

variable {ε V τ κ α β : Type}

theorem findSome?_flatMap (f : α → List β) (g : β → Option κ) (xs : List α) :
    (xs.flatMap f).findSome? g = xs.findSome? fun x => (f x).findSome? g := by
  induction xs with
  | nil => rfl
  | cons x xs ih =>
    rw [List.flatMap_cons, List.findSome?_append, List.findSome?_cons, ih]
    cases (f x).findSome? g <;> rfl

namespace Registry

/-- The types that a parameter accepts, in slot order. -/
def acceptedTokens (r : Registry ε V τ) (declared : List Token) : List Token :=
  (r.accepted declared).map (·.token)

/-- The type is foreign, or it has no guards and is not a run-time type that may do without. -/
def Miswired (r : Registry ε V τ) (t : Token) : Prop :=
  r.owns t = false ∨ r.guards t = [] ∧
    ¬ (r.settings.autoRegister = true ∧ ∃ e type, r.get? t = some e ∧ e.kind = .nominal type)

/-- The type is declared, or registered edges lead from it to a declared one, of which a single hop
follows one only. -/
def Widens (r : Registry ε V τ) (declared : List Token) (t : Token) : Prop :=
  ∃ n, (r.settings.reach = .singleHop → n ≤ 1) ∧ r.Leads declared n t

theorem acceptedTokens_eq (r : Registry ε V τ) (declared : List Token) :
    r.acceptedTokens declared = (r.widening declared).map (·.token) := by
  rw [acceptedTokens, accepted_eq_widening]

theorem declared_prefix_acceptedTokens (r : Registry ε V τ) (declared : List Token) :
    declared.eraseDups <+: r.acceptedTokens declared := by
  rw [acceptedTokens_eq, ← Accepted.map_declared (ε := ε) (V := V)]
  exact (r.declared_prefix_widening declared).map _

theorem owns_of_wired {r : Registry ε V τ} {t : Token} (wired : ¬ r.Miswired t) :
    r.owns t = true := by
  by_contra foreign
  exact wired (.inl (by simpa using foreign))

variable [Typed V τ] [DecidableEq τ]

theorem mem_acceptedTokens {r : Registry ε V τ} (reachable : r.Reachable) {declared : List Token}
    {t : Token} : t ∈ r.acceptedTokens declared ↔ r.Widens declared t := by
  rw [acceptedTokens_eq, Widens]
  cases reach : r.settings.reach with
  | singleHop =>
    rw [widening_of_singleHop reach, mem_map_rounds reachable]
    simp
  | transitive =>
    rw [mem_map_widening reachable reach]
    simp

theorem resolve_eq_error {r : Registry ε V τ} {t : Token} {e : ConfigError} :
    r.resolve t = .error e ↔ r.Miswired t ∧ e = r.unknown t := by
  have reported : (.error (r.unknown t) : Except ConfigError (Combined ε V)) = .error e ↔
      e = r.unknown t := by rw [Except.error.injEq, eq_comm]
  unfold resolve Miswired guards
  rw [← isSome_get?]
  cases entry : r.get? t with
  | none => simp [reported]
  | some held =>
    obtain ⟨name, kind, guards, incoming⟩ := held
    cases guards with
    | cons => simp
    | nil =>
      cases kind with
      | structural => simp [reported]
      | nominal type => cases r.settings.autoRegister <;> simp [reported]

theorem failure?_resolve_eq_none {r : Registry ε V τ} {t : Token} :
    failure? (r.resolve t) = none ↔ ¬ r.Miswired t := by
  constructor
  · intro resolved miswired
    have failed := failure?_eq_some.2 (resolve_eq_error.2 ⟨miswired, rfl⟩)
    rw [resolved] at failed
    cases failed
  · intro wired
    refine Option.eq_none_iff_forall_ne_some.2 fun e failed => ?_
    exact wired (resolve_eq_error.1 (failure?_eq_some.1 failed)).1

theorem wired_of_resolve {r : Registry ε V τ} {t : Token} {g : Combined ε V}
    (resolved : r.resolve t = .ok g) : ¬ r.Miswired t :=
  failure?_resolve_eq_none.1 (failure?_eq_none.2 ⟨g, resolved⟩)

theorem owns_of_resolve {r : Registry ε V τ} {t : Token} {g : Combined ε V}
    (resolved : r.resolve t = .ok g) : r.owns t = true := owns_of_wired (wired_of_resolve resolved)

end Registry

/-- The types that the parameters of the overload accept, in slot order. -/
def Overload.reached (o : Overload ε V) (r : Registry ε V τ) : List Token :=
  o.params.flatMap r.acceptedTokens

/-- The types that the function's parameters accept, overload by overload. -/
def Definition.reached (d : Definition ε V) (r : Registry ε V τ) : List Token :=
  d.overloads.flatMap (·.reached r)

theorem Definition.mem_reached_of_param {r : Registry ε V τ} {d : Definition ε V}
    {o : Overload ε V} (listed : o ∈ d.overloads) {types : List Token} (param : types ∈ o.params)
    {t : Token} (member : t ∈ r.acceptedTokens types) : t ∈ d.reached r :=
  List.mem_flatMap.2 ⟨o, listed, List.mem_flatMap.2 ⟨types, param, member⟩⟩

variable [Typed V τ] [DecidableEq τ] {r : Registry ε V τ}

theorem Slot.failure?_compile (declared : List Token) :
    failure? (Slot.compile r declared) =
      (r.acceptedTokens declared).findSome? fun t => failure? (r.resolve t) := by
  have member (a : Accepted ε V) :
      failure? (Member.ofAccepted r a) = failure? (r.resolve a.token) := failure?_bind_pure ..
  rw [Slot.compile, failure?_bind_pure, failure?_mapM, Registry.acceptedTokens, List.findSome?_map]
  simp only [member]
  rfl

theorem Slot.map_token_members {declared : List Token} {s : Slot ε V}
    (compiled : Slot.compile r declared = .ok s) :
    s.members.map (·.token) = r.acceptedTokens declared := by
  rw [Registry.acceptedTokens_eq]
  exact accepted_of_compile compiled

theorem Slot.wired_of_compile {declared : List Token} {s : Slot ε V}
    (compiled : Slot.compile r declared = .ok s) :
    ∀ t ∈ r.acceptedTokens declared, ¬ r.Miswired t := by
  have first := (failure?_compile declared).symm.trans (failure?_eq_none.2 ⟨s, compiled⟩)
  rw [List.findSome?_eq_none_iff] at first
  exact fun t member => Registry.failure?_resolve_eq_none.1 (first t member)

theorem Candidate.failure?_compile (o : Overload ε V) :
    failure? (Candidate.compile r o) =
      (o.reached r).findSome? fun t => failure? (r.resolve t) := by
  rw [Candidate.compile, failure?_bind_pure, Signature.compile, failure?_bind_pure, failure?_mapM,
    Overload.reached, findSome?_flatMap]
  simp only [Slot.failure?_compile]

theorem failure?_candidates (d : Definition ε V) :
    failure? (d.overloads.mapM (Candidate.compile r)) =
      (d.reached r).findSome? fun t => failure? (r.resolve t) := by
  rw [failure?_mapM, Definition.reached, findSome?_flatMap]
  simp only [Candidate.failure?_compile]

theorem Candidate.accepted_of_compile {o : Overload ε V} {c : Candidate ε V}
    (compiled : Candidate.compile r o = .ok c) : c.signature.accepted = o.reached r := by
  have slots := (Candidate.compile_eq_ok.1 compiled).2
  refine (flatMap_eq_of_forall₂ slots fun declared s slot => ?_).symm
  rw [Registry.acceptedTokens_eq, Slot.accepted_of_compile slot]

theorem accepted_of_candidates {d : Definition ε V} {candidates : List (Candidate ε V)}
    (compiled : List.Forall₂ (fun o c => Candidate.compile r o = .ok c) d.overloads candidates) :
    candidates.flatMap (·.signature.accepted) = d.reached r :=
  (flatMap_eq_of_forall₂ compiled fun _ _ made => (Candidate.accepted_of_compile made).symm).symm

/-- The types of compiled candidates have been resolved before and resolve again. -/
theorem exists_known {d : Definition ε V} {candidates : List (Candidate ε V)}
    (compiled : d.overloads.mapM (Candidate.compile r) = .ok candidates) :
    ∃ known, (candidates.flatMap (·.signature.accepted)).eraseDups.mapM (KnownType.ofToken r) =
      .ok known := by
  have first := failure?_candidates (r := r) d
  rw [failure?_eq_none.2 ⟨_, compiled⟩, eq_comm, List.findSome?_eq_none_iff] at first
  rw [← failure?_eq_none, failure?_mapM, List.findSome?_eq_none_iff]
  intro t member
  rw [List.mem_eraseDups, accepted_of_candidates (mapM_eq_ok.1 compiled)] at member
  exact (failure?_bind_pure ..).trans (first t member)

namespace Dispatcher

theorem failure?_build (d : Definition ε V) :
    failure? (build r d) =
      if d.overloads = [] then some (.noSignatures d.name)
      else if 1 < d.nullary then some (.ambiguousNullary d.name d.nullary)
      else (d.reached r).findSome? fun t => failure? (r.resolve t) := by
  rw [build, ← failure?_candidates]
  simp only [List.isEmpty_iff]
  split
  · rfl
  · split
    · rfl
    · cases compiled : d.overloads.mapM (Candidate.compile r) with
      | error e => rfl
      | ok candidates =>
        exact (failure?_bind_pure ..).trans (failure?_eq_none.2 (exists_known compiled))

theorem findSome?_reached (d : Definition ε V) (e : ConfigError) :
    (d.reached r).findSome? (fun t => failure? (r.resolve t)) = some e ↔
      ∃ before t after, d.reached r = before ++ t :: after ∧ (∀ u ∈ before, ¬ r.Miswired u) ∧
        r.Miswired t ∧ e = r.unknown t := by
  simp only [List.findSome?_eq_some_iff, failure?_eq_some, Registry.resolve_eq_error,
    Registry.failure?_resolve_eq_none]
  constructor
  · rintro ⟨before, t, after, split, ⟨miswired, error⟩, wired⟩
    exact ⟨before, t, after, split, wired, miswired, error⟩
  · rintro ⟨before, t, after, split, wired, miswired, error⟩
    exact ⟨before, t, after, split, ⟨miswired, error⟩, wired⟩

theorem build_eq_error {d : Definition ε V} {e : ConfigError} : build r d = .error e ↔
    d.overloads = [] ∧ e = .noSignatures d.name ∨
    1 < d.nullary ∧ e = .ambiguousNullary d.name d.nullary ∨
    d.overloads ≠ [] ∧ d.nullary ≤ 1 ∧
      ∃ before t after, d.reached r = before ++ t :: after ∧ (∀ u ∈ before, ¬ r.Miswired u) ∧
        r.Miswired t ∧ e = r.unknown t := by
  rw [← failure?_eq_some, failure?_build]
  split
  · rename_i empty
    simp [empty, Definition.nullary, eq_comm]
  · rename_i some
    split
    · rename_i many
      simp [some, many, Nat.not_le.2 many, eq_comm]
    · rename_i few
      simp [some, few, Nat.not_lt.1 few, findSome?_reached]

theorem exists_build {d : Definition ε V} : (∃ f, build r d = .ok f) ↔
    d.overloads ≠ [] ∧ d.nullary ≤ 1 ∧ ∀ t ∈ d.reached r, ¬ r.Miswired t := by
  rw [← failure?_eq_none, failure?_build]
  split
  · rename_i empty
    simp [empty]
  · rename_i some
    split
    · rename_i many
      simp [Nat.not_le.2 many]
    · rename_i few
      simp [some, Nat.not_lt.1 few, Registry.failure?_resolve_eq_none]

theorem mem_reached (reachable : r.Reachable) {d : Definition ε V} {t : Token} :
    t ∈ d.reached r ↔ ∃ o ∈ d.overloads, ∃ declared ∈ o.params, r.Widens declared t := by
  simp only [Definition.reached, Overload.reached, List.mem_flatMap,
    Registry.mem_acceptedTokens reachable]

/-- A function fails to build for having no overloads, else for having more than one without
parameters, else for the first type it reaches that the registry cannot recognise. Otherwise it
builds: no type that was accepted turns out to be unknown later. -/
theorem build_outcome (r : Registry ε V τ) (reachable : r.Reachable) (d : Definition ε V) :
    (∀ n, build r d = .error (.noSignatures n) ↔ d.overloads = [] ∧ n = d.name) ∧
    (∀ n k, build r d = .error (.ambiguousNullary n k) ↔
      1 < d.nullary ∧ n = d.name ∧ k = d.nullary) ∧
    (∀ n, build r d = .error (.unknownType n) ↔ d.overloads ≠ [] ∧ d.nullary ≤ 1 ∧
      ∃ before t after, d.reached r = before ++ t :: after ∧ (∀ u ∈ before, ¬ r.Miswired u) ∧
        r.Miswired t ∧ n = r.name t) ∧
    ((∃ f, build r d = .ok f) ↔ d.overloads ≠ [] ∧ d.nullary ≤ 1 ∧
      ∀ t ∈ d.reached r, ¬ r.Miswired t) ∧
    (∀ t, t ∈ d.reached r ↔ ∃ o ∈ d.overloads, ∃ declared ∈ o.params, r.Widens declared t) ∧
    (∀ declared, declared.eraseDups <+: r.acceptedTokens declared) ∧
    (∀ t, r.owns t = false → r.name t = "<foreign type>") ∧
    ∀ candidates, d.overloads.mapM (Candidate.compile r) = .ok candidates →
      ∃ known, (candidates.flatMap (·.signature.accepted)).eraseDups.mapM (KnownType.ofToken r) =
        .ok known := by
  refine ⟨fun n => ?_, fun n k => ?_, fun n => ?_, exists_build, fun t => mem_reached reachable,
    r.declared_prefix_acceptedTokens, fun t => Registry.name_of_foreign,
    fun candidates => exists_known⟩
  · simp [build_eq_error, Registry.unknown]
  · simp [build_eq_error, Registry.unknown]
  · simp [build_eq_error, Registry.unknown]

end Dispatcher

namespace Amount

def stray : Definition String Amount where
  overloads := [⟨[[⟨0, 0⟩, ⟨1, 0⟩]], fun _ _ => pure ⟨0, 0⟩⟩]

theorem build_outcome_units :
    Dispatcher.build units stray = .error (.unknownType "<foreign type>") := by
  have reached : stray.reached units = [⟨0, 0⟩] ++ ⟨1, 0⟩ :: [⟨0, 1⟩, ⟨0, 2⟩, ⟨0, 3⟩] := by
    have tokens := funext units.acceptedTokens_eq
    simp only [Definition.reached, Overload.reached, tokens]
    decide
  have wired : ¬ units.Miswired ⟨0, 0⟩ := Registry.failure?_resolve_eq_none.1 rfl
  refine ((Dispatcher.build_outcome units units_reachable stray).2.2.1 _).2
    ⟨List.cons_ne_nil _ _, by decide, _, _, _, reached, ?_, .inl rfl, rfl⟩
  simpa using wired

end Amount

end MultiDispatch

import MultiDispatch.Proofs.Locality
import MultiDispatch.Proofs.Registry.Tokens
import MultiDispatch.Realm

/-! Who owns a token. Registries are created and used in any order. The stamp of a registry is its
place among all registries and the index of a token its place among the tokens of its registry, so
a registry takes back the tokens that it gave out itself and no others, whatever these others are
called there. -/
namespace MultiDispatch

variable {ε V τ : Type} [Typed V τ] [DecidableEq τ]

namespace Registry

theorem Reachable.perform {r : Registry ε V τ} (reachable : r.Reachable) (op : Operation ε V τ) :
    (op.perform r).2.Reachable := by
  obtain ⟨ops, eq⟩ := reachable
  have longer := reachable_after r.stamp r.settings (ops ++ [op])
  rw [after_append, ← eq] at longer
  exact longer

/-- The registry treats the token as foreign: what names it is refused and changes nothing, the
token has no guard, and no function that declares it builds. -/
structure Rejects (r : Registry ε V τ) (t : Token) : Prop where
  registerGuard : ∀ g, (Operation.registerGuard t g).perform r =
    (.refused (.unknownType "<foreign type>"), r)
  registerConversion : ∀ edge, edge.source = t ∨ edge.target = t →
    (Operation.registerConversion edge).perform r = (.refused (.unknownType "<foreign type>"), r)
  add : ∀ batch, t ∈ batch.tokens →
    (Operation.add batch).perform r = (.refused (.unknownType "<foreign type>"), r)
  autoRegister : (Operation.autoRegister t).perform r =
    (.refused (.unknownType "<foreign type>"), r)
  resolve : r.resolve t = .error (.unknownType "<foreign type>")
  build : ∀ d, t ∈ d.declared → ∃ e, Dispatcher.build r d = .error e

theorem rejects_of_foreign {r : Registry ε V τ} {t : Token} (foreign : r.owns t = false) :
    r.Rejects t where
  registerGuard g := by simp [Operation.perform_registerGuard, foreign]
  registerConversion edge named := by
    rw [Operation.perform_registerConversion, if_neg]
    rintro ⟨source, target⟩
    rcases named with rfl | rfl
    · simp [source] at foreign
    · simp [target] at foreign
  add batch named := by
    rw [Operation.perform_add, if_neg]
    intro owned
    simp [owned t named] at foreign
  autoRegister := by
    rcases Operation.perform_autoRegister t r with ⟨owned, _⟩ | ⟨_, refused⟩
    · simp [owned] at foreign
    · exact refused
  resolve := resolve_eq_error.2 ⟨.inl foreign, (unknown_of_foreign foreign).symm⟩
  build d declared := by
    obtain ⟨o, listed, member⟩ := List.mem_flatMap.1 declared
    obtain ⟨types, param, member⟩ := List.mem_flatten.1 member
    have accepted : t ∈ r.acceptedTokens types :=
      (r.declared_prefix_acceptedTokens types).subset (List.mem_eraseDups.2 member)
    cases built : Dispatcher.build r d with
    | error e => exact ⟨e, rfl⟩
    | ok f =>
      have wired := (Dispatcher.exists_build.1 ⟨f, built⟩).2.2
      exact absurd (.inl foreign) (wired t (Definition.mem_reached_of_param listed param accepted))

end Registry

namespace Realm

theorem registries_create (realm : Realm ε V τ) (settings : Settings) (s : Nat) :
    (realm.act (.create settings)).registries[s]? =
      if s = realm.registries.length then some (.empty s settings) else realm.registries[s]? := by
  simp only [act, create, List.getElem?_append]
  rcases Nat.lt_trichotomy s realm.registries.length with lt | rfl | gt
  · simp [lt, Nat.ne_of_lt lt]
  · simp
  · have past : s - realm.registries.length ≠ 0 := by omega
    simp [Nat.not_lt.2 (Nat.le_of_lt gt), Nat.ne_of_gt gt, past]

theorem perform_eq (realm : Realm ε V τ) (s : Nat) (op : Operation ε V τ) :
    realm.perform s op = realm.registries[s]?.map fun r =>
      ((op.perform r).1, ⟨realm.registries.set s (op.perform r).2⟩) := by
  unfold perform registry?
  cases realm.registries[s]? <;> rfl

theorem registries_perform (realm : Realm ε V τ) (u : Nat) (op : Operation ε V τ) (s : Nat) :
    (realm.act (.perform u op)).registries[s]? =
      realm.registries[s]?.map fun r => if s = u then (op.perform r).2 else r := by
  cases held : realm.registries[u]? with
  | none =>
    have idle : realm.act (.perform u op) = realm := by simp [act, perform_eq, held]
    rw [idle]
    by_cases here : s = u
    · simp [here, held]
    · simp [here]
  | some r =>
    have turn : realm.act (.perform u op) = ⟨realm.registries.set u (op.perform r).2⟩ := by
      simp [act, perform_eq, held]
    rw [turn, List.getElem?_set]
    by_cases here : s = u
    · subst here
      obtain ⟨bound, rfl⟩ := List.getElem?_eq_some_iff.1 held
      simp [bound]
    · simp [here, Ne.symm here]

theorem fst_perform (realm : Realm ε V τ) (s : Nat) (op : Operation ε V τ) :
    (realm.perform s op).map (·.1) = realm.registries[s]?.map fun r => (op.perform r).1 := by
  simp [perform_eq, Function.comp_def]

/-- Each registry bears its place as its stamp, and was made by operations. -/
structure Sound (realm : Realm ε V τ) : Prop where
  stamp : ∀ (s : Nat) r, realm.registries[s]? = some r → r.stamp = s
  reachable : ∀ (s : Nat) r, realm.registries[s]? = some r → r.Reachable

theorem sound_act {realm : Realm ε V τ} (sound : realm.Sound) (a : Act ε V τ) :
    (realm.act a).Sound := by
  cases a with
  | create settings =>
    have cases (s : Nat) (r : Registry ε V τ)
        (there : (realm.act (.create settings)).registries[s]? = some r) :
        r = .empty s settings ∨ realm.registries[s]? = some r := by
      rw [registries_create] at there
      split at there
      · exact .inl (Option.some.inj there).symm
      · exact .inr there
    constructor
    · intro s r there
      rcases cases s r there with rfl | old
      · rfl
      · exact sound.stamp s r old
    · intro s r there
      rcases cases s r there with rfl | old
      · exact ⟨[], rfl⟩
      · exact sound.reachable s r old
  | perform u op =>
    have cases (s : Nat) (r : Registry ε V τ)
        (there : (realm.act (.perform u op)).registries[s]? = some r) :
        ∃ old, realm.registries[s]? = some old ∧ (r = (op.perform old).2 ∨ r = old) := by
      rw [registries_perform] at there
      obtain ⟨old, held, rfl⟩ := Option.map_eq_some_iff.1 there
      refine ⟨old, held, ?_⟩
      by_cases here : s = u <;> simp [here]
    constructor
    · intro s r there
      obtain ⟨old, held, rfl | rfl⟩ := cases s r there
      · exact (old.grows_after [op]).stamp.trans (sound.stamp s old held)
      · exact sound.stamp s r held
    · intro s r there
      obtain ⟨old, held, rfl | rfl⟩ := cases s r there
      · exact (sound.reachable s old held).perform op
      · exact sound.reachable s r held

/-- No act removes a registry, and each only grows. -/
theorem exists_grows_act {realm : Realm ε V τ} {s : Nat} {r : Registry ε V τ}
    (there : realm.registries[s]? = some r) (a : Act ε V τ) :
    ∃ r', (realm.act a).registries[s]? = some r' ∧ r.Grows r' := by
  cases a with
  | create settings =>
    obtain ⟨bound, _⟩ := List.getElem?_eq_some_iff.1 there
    exact ⟨r, by rw [registries_create, if_neg (Nat.ne_of_lt bound), there], .refl r⟩
  | perform u op =>
    refine ⟨_, by rw [registries_perform, there, Option.map_some], ?_⟩
    split
    · exact r.grows_after [op]
    · exact .refl r

section Runs

variable {acts : List (Act ε V τ)} {n : Nat}

theorem before_succ {a : Act ε V τ} (here : acts[n]? = some a) :
    before acts (n + 1) = (before acts n).act a := by
  simp [before, List.take_add_one, here]

theorem before_succ_of_none (past : acts[n]? = none) : before acts (n + 1) = before acts n := by
  simp [before, List.take_add_one, past]

/-- What one act keeps holds all along. -/
theorem before_keeps {motive : Realm ε V τ → Prop}
    (kept : ∀ realm a, motive realm → motive (realm.act a)) {m : Nat} (le : m ≤ n)
    (initial : motive (before acts m)) : motive (before acts n) := by
  induction le with
  | refl => exact initial
  | @step n _ ih =>
    cases here : acts[n]? with
    | none => rwa [before_succ_of_none here]
    | some a =>
      rw [before_succ here]
      exact kept _ a ih

theorem sound_before (acts : List (Act ε V τ)) (n : Nat) : (before acts n).Sound := by
  refine before_keeps (fun realm a sound => sound_act sound a) (Nat.zero_le n) ?_
  constructor <;> simp [before]

theorem exists_grows_before {m : Nat} (le : m ≤ n) {s : Nat} {r : Registry ε V τ}
    (there : (before acts m).registries[s]? = some r) :
    ∃ r', (before acts n).registries[s]? = some r' ∧ r.Grows r' := by
  refine before_keeps (motive := fun realm => ∃ r', realm.registries[s]? = some r' ∧ r.Grows r')
    ?_ le ⟨r, there, .refl r⟩
  rintro realm a ⟨r', held, growth⟩
  obtain ⟨r'', later, more⟩ := exists_grows_act held a
  exact ⟨r'', later, growth.trans more⟩

/-- The act at the position creates the registry with the stamp. -/
def Creates (acts : List (Act ε V τ)) (c s : Nat) : Prop :=
  ∃ settings, acts[c]? = some (.create settings) ∧ ((before acts c).create settings).1 = s

/-- The operation at the position is performed on the registry with the stamp, and is answered with
the token. -/
structure Returns (acts : List (Act ε V τ)) (k s : Nat) (op : Operation ε V τ) (t : Token) :
    Prop where
  act : acts[k]? = some (.perform s op)
  answer : ((before acts k).perform s op).map (·.1) = some (.token t)

/-- Among all answers this is the first with the token. -/
structure Allots (acts : List (Act ε V τ)) (k s : Nat) (t : Token) : Prop where
  returns : ∃ op, Returns acts k s op t
  first : ∀ j < k, ∀ u op, ¬ Returns acts j u op t

/-- The registries of a run are those that it has created. -/
theorem exists_registry_iff {s : Nat} :
    (∃ r, (before acts n).registries[s]? = some r) ↔ ∃ c < n, Creates acts c s := by
  induction n with
  | zero => simp [before]
  | succ n ih =>
    rw [Nat.exists_lt_succ_right, ← ih]
    cases here : acts[n]? with
    | none => simp [before_succ_of_none here, Creates, here]
    | some a =>
      rw [before_succ here]
      cases a with
      | create settings =>
        rw [registries_create]
        by_cases new : s = (before acts n).registries.length
        · simp [new, Creates, here, create]
        · simp [new, Ne.symm new, Creates, here, create]
      | perform u op =>
        simp [registries_perform, Creates, here]

/-- Registries are stamped in the order of their creation. -/
theorem stamp_lt_of_creates {c c' s u : Nat} (creates : Creates acts c s)
    (later : Creates acts c' u) (lt : c < c') : s < u := by
  obtain ⟨r, there⟩ := exists_registry_iff.2 ⟨c, lt, creates⟩
  obtain ⟨bound, _⟩ := List.getElem?_eq_some_iff.1 there
  obtain ⟨settings, _, stamp⟩ := later
  exact stamp ▸ bound

theorem returns_iff {k s : Nat} {op : Operation ε V τ} {t : Token} :
    Returns acts k s op t ↔ acts[k]? = some (.perform s op) ∧
      ∃ r, (before acts k).registries[s]? = some r ∧ (op.perform r).1 = .token t := by
  have answer : ((before acts k).perform s op).map (·.1) = some (.token t) ↔
      ∃ r, (before acts k).registries[s]? = some r ∧ (op.perform r).1 = .token t := by
    rw [fst_perform, Option.map_eq_some_iff]
  constructor
  · rintro ⟨act, token⟩
    exact ⟨act, answer.1 token⟩
  · rintro ⟨act, token⟩
    exact ⟨act, answer.2 token⟩

theorem Returns.exists_registry {k s : Nat} {op : Operation ε V τ} {t : Token}
    (returns : Returns acts k s op t) (le : k ≤ n) :
    ∃ r, (before acts n).registries[s]? = some r := by
  obtain ⟨_, r, there, _⟩ := returns_iff.1 returns
  obtain ⟨r', later, _⟩ := exists_grows_before le there
  exact ⟨r', later⟩

/-- A registry owns exactly the tokens that it has answered with. -/
theorem owns_iff_returns {s : Nat} {r : Registry ε V τ}
    (there : (before acts n).registries[s]? = some r) {t : Token} :
    r.owns t = true ↔ ∃ k < n, ∃ op, Returns acts k s op t := by
  induction n generalizing r with
  | zero => simp [before] at there
  | succ n ih =>
    rw [Nat.exists_lt_succ_right]
    cases here : acts[n]? with
    | none =>
      rw [before_succ_of_none here] at there
      simp [ih there, returns_iff, here]
    | some a =>
      rw [before_succ here] at there
      cases a with
      | create settings =>
        rw [registries_create] at there
        split at there
        · rename_i new
          cases there
          -- A registry that is new owns nothing, and nothing was asked of it before.
          refine iff_of_false (by simp [Registry.owns, Registry.size, Registry.empty]) ?_
          rintro (⟨k, lt, op, returns⟩ | ⟨op, returns⟩)
          · obtain ⟨r, held⟩ := returns.exists_registry (Nat.le_of_lt lt)
            obtain ⟨bound, _⟩ := List.getElem?_eq_some_iff.1 held
            omega
          · simp [returns_iff, here] at returns
        · simp [ih there, returns_iff, here]
      | perform u op =>
        rw [registries_perform] at there
        obtain ⟨old, held, rfl⟩ := Option.map_eq_some_iff.1 there
        have matched := ((sound_before acts n).reachable s old held).wellFormed.matched
        by_cases same : s = u
        · subst same
          simp [op.owns_perform_iff matched, ih held, returns_iff, here, held]
        · simp [same, ih held, returns_iff, here, Ne.symm same]

section Returned

variable {k s : Nat} {op : Operation ε V τ} {t : Token} (returns : Returns acts k s op t)

include returns

/-- The token stands for what was asked for. It is new to the registry, or the registry has met the
run-time type before. -/
theorem Returns.exists_kind : ∃ kind r, op.allots? = some kind ∧
    (before acts k).registries[s]? = some r ∧
    (∃ r', (before acts (k + 1)).registries[s]? = some r' ∧ r'.kind? t = some kind) ∧
    (t = r.nextToken ∨ ∃ type, kind = .nominal type ∧ r.kind? t = some (.nominal type)) := by
  obtain ⟨act, r, there, answer⟩ := returns_iff.1 returns
  have matched := ((sound_before acts k).reachable s r there).wellFormed.matched
  cases asks : op.allots? with
  | none => exact absurd answer ((Operation.owns_perform_of_edit asks r).2 t)
  | some kind =>
    obtain ⟨u, given, known, _, origin⟩ := Operation.perform_of_allots asks matched
    obtain rfl := Outcome.token.inj (answer.symm.trans given)
    refine ⟨kind, r, rfl, there, ⟨(op.perform r).2, ?_, known⟩, origin⟩
    simp [before_succ act, registries_perform, there]

/-- From then on the token stands for what was asked for. -/
theorem Returns.kind? (lt : k < n) {r : Registry ε V τ}
    (there : (before acts n).registries[s]? = some r) : r.kind? t = op.allots? := by
  obtain ⟨kind, _, asks, _, ⟨r', next, known⟩, _⟩ := returns.exists_kind
  obtain ⟨r'', later, growth⟩ := exists_grows_before lt next
  obtain rfl := Option.some.inj (later.symm.trans there)
  rw [growth.kind? fun _ => Registry.owns_of_kind? known, known, asks]

theorem Returns.stamp : t.registry = s := by
  obtain ⟨_, _, _, _, ⟨r', next, known⟩, _⟩ := returns.exists_kind
  rw [Registry.registry_of_owns (Registry.owns_of_kind? known)]
  exact (sound_before acts (k + 1)).stamp s r' next

end Returned

/-- Only the token of a run-time type is answered again, and always is. -/
theorem returns_eq_iff_of_lt {i j s u : Nat} {op op' : Operation ε V τ} {t t' : Token} (lt : i < j)
    (first : Returns acts i s op t) (second : Returns acts j u op' t') :
    t = t' ↔ s = u ∧ ∃ type, op = .nominal type ∧ op' = .nominal type := by
  constructor
  · rintro rfl
    obtain rfl : s = u := first.stamp.symm.trans second.stamp
    obtain ⟨kind, r, asks, there, _, origin⟩ := second.exists_kind
    have known := first.kind? lt there
    rcases origin with rfl | ⟨type, rfl, held⟩
    · obtain ⟨kind, _, asks, _⟩ := first.exists_kind
      rw [Registry.kind?_nextToken, asks] at known
      cases known
    · rw [held] at known
      exact ⟨rfl, type, Operation.allots?_eq_nominal.1 known.symm,
        Operation.allots?_eq_nominal.1 asks⟩
  · rintro ⟨rfl, type, rfl, rfl⟩
    obtain ⟨_, r, there, answer⟩ := returns_iff.1 second
    have matched := ((sound_before acts j).reachable s r there).wellFormed.matched
    rw [Operation.perform_nominal_of_known matched (first.kind? lt there)] at answer
    exact Outcome.token.inj answer

theorem returns_eq_iff {i j s u : Nat} {op op' : Operation ε V τ} {t t' : Token} (ne : i ≠ j)
    (first : Returns acts i s op t) (second : Returns acts j u op' t') :
    t = t' ↔ s = u ∧ ∃ type, op = .nominal type ∧ op' = .nominal type := by
  rcases Nat.lt_or_gt_of_ne ne with lt | gt
  · exact returns_eq_iff_of_lt lt first second
  · rw [eq_comm, returns_eq_iff_of_lt gt second first]
    constructor
    · rintro ⟨same, type, left, right⟩
      exact ⟨same.symm, type, right, left⟩
    · rintro ⟨same, type, left, right⟩
      exact ⟨same.symm, type, right, left⟩

theorem exists_returns {k c s : Nat} {op : Operation ε V τ} {kind : Kind τ}
    (act : acts[k]? = some (.perform s op)) (creates : Creates acts c s) (lt : c < k)
    (asks : op.allots? = some kind) : ∃ t, Returns acts k s op t := by
  obtain ⟨r, there⟩ := exists_registry_iff.2 ⟨c, lt, creates⟩
  have matched := ((sound_before acts k).reachable s r there).wellFormed.matched
  obtain ⟨t, answer, _⟩ := Operation.perform_of_allots asks matched
  exact ⟨t, returns_iff.2 ⟨act, r, there, answer⟩⟩

/-- A token that no act has answered with before is new. -/
theorem Allots.eq_nextToken {k s : Nat} {t : Token} (allots : Allots acts k s t) :
    ∃ r, (before acts k).registries[s]? = some r ∧ t = r.nextToken := by
  obtain ⟨op, returns⟩ := allots.returns
  obtain ⟨_, r, _, there, _, origin⟩ := returns.exists_kind
  refine ⟨r, there, ?_⟩
  rcases origin with new | ⟨type, _, known⟩
  · exact new
  · obtain ⟨j, lt, op', earlier⟩ := (owns_iff_returns there).1 (Registry.owns_of_kind? known)
    exact absurd earlier (allots.first j lt s op')

/-- A registry numbers its tokens in the order in which it allots them. -/
theorem index_lt_of_allots {i j s : Nat} {t t' : Token} (allots : Allots acts i s t)
    (later : Allots acts j s t') (lt : i < j) : t.index < t'.index := by
  obtain ⟨r, there, rfl⟩ := later.eq_nextToken
  obtain ⟨op, returns⟩ := allots.returns
  exact Registry.index_lt_of_owns ((owns_iff_returns there).2 ⟨i, lt, op, returns⟩)

theorem compare_tokens {i j s u c c' : Nat} {t t' : Token} (allots : Allots acts i s t)
    (allots' : Allots acts j u t') (creates : Creates acts c s) (creates' : Creates acts c' u) :
    compare t t' = (compare c c').then (compare i j) := by
  obtain ⟨op, returns⟩ := allots.returns
  obtain ⟨op', returns'⟩ := allots'.returns
  rw [Token.compare_eq, returns.stamp, returns'.stamp]
  rcases Nat.lt_trichotomy c c' with lt | rfl | gt
  · have stamps := stamp_lt_of_creates creates creates' lt
    simp [Nat.compare_eq_lt.2 lt, Nat.compare_eq_lt.2 stamps]
  · obtain ⟨_, _, rfl⟩ := creates
    obtain ⟨_, _, rfl⟩ := creates'
    rcases Nat.lt_trichotomy i j with lt | rfl | gt
    · simp [Nat.compare_eq_lt.2 lt, Nat.compare_eq_lt.2 (index_lt_of_allots allots allots' lt),
        create]
    · obtain ⟨r, there, rfl⟩ := allots.eq_nextToken
      obtain ⟨r', there', rfl⟩ := allots'.eq_nextToken
      obtain rfl := Option.some.inj (there.symm.trans there')
      simp [create]
    · simp [Nat.compare_eq_gt.2 gt, Nat.compare_eq_gt.2 (index_lt_of_allots allots' allots gt),
        create]
  · have stamps := stamp_lt_of_creates creates' creates gt
    simp [Nat.compare_eq_gt.2 gt, Nat.compare_eq_gt.2 stamps]

end Runs

/-- Registries may be created and used in any order. A registry answers every declaration and every
request for the token of a run-time type with a token. Two answers are the same token only for one
run-time type and one registry, and then they always are. A registry owns the tokens that it has
answered with and no others: every other registry rejects them. Tokens are ordered by the creation
of their registries, then by their first appearance. -/
theorem tokens_owned (acts : List (Act ε V τ)) :
    (∀ n s, (∃ r, (before acts n).registries[s]? = some r) ↔ ∃ c < n, Creates acts c s) ∧
    (∀ k c s op, acts[k]? = some (.perform s op) → Creates acts c s → c < k →
      ((∃ name, op = .declare name) ∨ ∃ type, op = .nominal type) →
      ∃ t, Returns acts k s op t) ∧
    (∀ i j s u op op' t t', i ≠ j → Returns acts i s op t → Returns acts j u op' t' →
      (t = t' ↔ s = u ∧ ∃ type, op = .nominal type ∧ op' = .nominal type)) ∧
    (∀ n s r t, (before acts n).registries[s]? = some r →
      (r.owns t = true ↔ ∃ k < n, ∃ op, Returns acts k s op t)) ∧
    (∀ k s op t, Returns acts k s op t → ∀ n u r, u ≠ s →
      (before acts n).registries[u]? = some r → r.owns t = false ∧ r.Rejects t) ∧
    ∀ i j s u c c' t t', Allots acts i s t → Allots acts j u t' →
      Creates acts c s → Creates acts c' u →
      compare t t' = (compare c c').then (compare i j) := by
  refine ⟨fun n s => exists_registry_iff, ?_, ?_, fun n s r t there => owns_iff_returns there,
    ?_, ?_⟩
  · rintro k c s op act creates lt (⟨name, rfl⟩ | ⟨type, rfl⟩)
    · exact exists_returns act creates lt rfl
    · exact exists_returns act creates lt rfl
  · intro i j s u op op' t t' ne first second
    exact returns_eq_iff ne first second
  · intro k s op t returns n u r other there
    have foreign : r.owns t = false := by
      rw [Bool.eq_false_iff]
      intro owned
      have stamp := (sound_before acts n).stamp u r there
      exact other (stamp.symm.trans ((Registry.registry_of_owns owned).symm.trans returns.stamp))
    exact ⟨foreign, Registry.rejects_of_foreign foreign⟩
  · intro i j s u c c' t t' allots allots' creates creates'
    exact compare_tokens allots allots' creates creates'

end Realm

namespace Amount

/-- Both registries have a token with index 0, and both know the run-time type 7. -/
def depots : List (Act String Amount Nat) :=
  [.create {}, .perform 0 (.declare "crate"), .create {}, .perform 1 (.declare "crate"),
    .perform 1 (.nominal 7), .perform 0 (.nominal 7), .perform 1 (.nominal 7)]

theorem tokens_owned_depots : Realm.Returns depots 1 0 (.declare "crate") ⟨0, 0⟩ ∧
    Realm.Returns depots 3 1 (.declare "crate") ⟨1, 0⟩ ∧
    ∃ r, (Realm.before depots 7).registries[1]? = some r ∧ r.owns ⟨1, 0⟩ = true ∧
      r.owns ⟨0, 0⟩ = false ∧ r.Rejects ⟨0, 0⟩ := by
  have near : Realm.Returns depots 1 0 (.declare "crate") ⟨0, 0⟩ := ⟨rfl, rfl⟩
  have far : Realm.Returns depots 3 1 (.declare "crate") ⟨1, 0⟩ := ⟨rfl, rfl⟩
  obtain ⟨registries, _, _, owns, rejects, _⟩ := Realm.tokens_owned depots
  obtain ⟨r, there⟩ := (registries 7 1).2 ⟨2, by decide, {}, rfl, rfl⟩
  refine ⟨near, far, r, there, (owns 7 1 r _ there).2 ⟨3, by decide, _, far⟩, ?_⟩
  exact rejects 1 0 _ _ near 7 1 r (by decide) there

end Amount

end MultiDispatch

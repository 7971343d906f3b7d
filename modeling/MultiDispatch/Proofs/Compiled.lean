import MultiDispatch.Dispatcher
import MultiDispatch.Proofs.Outcome
import MultiDispatch.Proofs.Widening.Chains

/-! What compiled functions are made of. Building goes through overloads, parameters and accepted
types in order and succeeds when each of them does, so every compiled part is that of the source
part at the same place. -/
namespace MultiDispatch

variable {ε V τ : Type}

/-- What a member keeps of the accepted type. -/
def Member.entry (m : Member ε V) : Accepted ε V := ⟨m.token, m.convert?⟩

variable [Typed V τ] [DecidableEq τ]

theorem Member.ofAccepted_eq_ok {r : Registry ε V τ} {a : Accepted ε V} {m : Member ε V} :
    Member.ofAccepted r a = .ok m ↔ m.entry = a ∧ r.resolve m.token = .ok m.guard := by
  obtain ⟨t, g, c⟩ := m
  unfold ofAccepted
  rw [bind_eq_ok]
  constructor
  · rintro ⟨g, resolved, eq⟩
    cases eq
    exact ⟨rfl, resolved⟩
  · rintro ⟨rfl, resolved⟩
    exact ⟨g, resolved, rfl⟩

theorem Member.mapM_ofAccepted_eq_ok {r : Registry ε V τ} {as : List (Accepted ε V)}
    {ms : List (Member ε V)} : as.mapM (ofAccepted r) = .ok ms ↔
      ms.map entry = as ∧ ∀ m ∈ ms, r.resolve m.token = .ok m.guard := by
  simp only [mapM_eq_ok, ofAccepted_eq_ok]
  induction ms generalizing as with
  | nil => simp [eq_comm]
  | cons m ms ih =>
    rw [List.forall₂_cons_right_iff]
    constructor
    · rintro ⟨a, as, ⟨entry, resolved⟩, rest, rfl⟩
      obtain ⟨entries, guards⟩ := ih.1 rest
      exact ⟨by rw [List.map_cons, entry, entries], List.forall_mem_cons.2 ⟨resolved, guards⟩⟩
    · rintro ⟨rfl, guards⟩
      obtain ⟨resolved, guards⟩ := List.forall_mem_cons.1 guards
      exact ⟨_, _, ⟨rfl, resolved⟩, ih.2 ⟨rfl, guards⟩, rfl⟩

omit [Typed V τ] [DecidableEq τ] in
/-- The names in a label, one for each declared type. -/
theorem Member.map_name_take {r : Registry ε V τ} {declared : List Token} {ms : List (Member ε V)}
    (entries : ms.map entry = r.accepted declared) :
    (ms.take declared.eraseDups.length).map (r.name ·.token) = declared.eraseDups.map r.name := by
  have plain : (ms.map entry).take declared.eraseDups.length = Accepted.declared declared := by
    rw [entries, r.accepted_eq_widening,
      List.prefix_iff_eq_take.1 (r.declared_prefix_widening declared), Accepted.declared,
      List.length_map]
  calc (ms.take declared.eraseDups.length).map (r.name ·.token)
      = ((ms.map entry).take declared.eraseDups.length).map (r.name ·.token) := by
        rw [← List.map_take, List.map_map]
        rfl
    _ = declared.eraseDups.map r.name := by
        rw [plain, Accepted.declared, List.map_map]
        rfl

theorem Slot.compile_eq_ok {r : Registry ε V τ} {declared : List Token} {s : Slot ε V} :
    Slot.compile r declared = .ok s ↔
      s.label = " | ".intercalate (declared.eraseDups.map r.name) ∧
      s.widened = decide (declared.eraseDups.length < s.members.length) ∧
      s.members.map Member.entry = r.accepted declared ∧
      ∀ m ∈ s.members, r.resolve m.token = .ok m.guard := by
  obtain ⟨label, widened, members⟩ := s
  unfold compile
  rw [bind_eq_ok]
  simp only [Member.mapM_ofAccepted_eq_ok]
  constructor
  · rintro ⟨ms, ⟨entries, guards⟩, eq⟩
    cases eq
    exact ⟨by rw [Member.map_name_take entries], rfl, entries, guards⟩
  · rintro ⟨rfl, more, entries, guards⟩
    refine ⟨members, ⟨entries, guards⟩, pure_eq_ok.2 ?_⟩
    rw [Member.map_name_take entries, ← more]

theorem Slot.resolve_of_compile {r : Registry ε V τ} {declared : List Token} {s : Slot ε V}
    (compiled : Slot.compile r declared = .ok s) {m : Member ε V} (member : m ∈ s.members) :
    r.resolve m.token = .ok m.guard := by
  obtain ⟨-, -, -, guards⟩ := compile_eq_ok.1 compiled
  exact guards m member

theorem Signature.compile_eq_ok {r : Registry ε V τ} {params : List (List Token)}
    {s : Signature ε V} :
    Signature.compile r params = .ok s ↔
      List.Forall₂ (fun declared slot => Slot.compile r declared = .ok slot) params s.slots := by
  obtain ⟨slots⟩ := s
  unfold compile
  rw [bind_eq_ok]
  simp only [mapM_eq_ok]
  constructor
  · rintro ⟨made, each, eq⟩
    cases eq
    exact each
  · intro each
    exact ⟨slots, each, rfl⟩

theorem Candidate.compile_eq_ok {r : Registry ε V τ} {o : Overload ε V} {c : Candidate ε V} :
    Candidate.compile r o = .ok c ↔ c.method = o.method ∧
      List.Forall₂ (fun declared slot => Slot.compile r declared = .ok slot) o.params
        c.signature.slots := by
  obtain ⟨signature, method⟩ := c
  unfold compile
  rw [bind_eq_ok]
  simp only [Signature.compile_eq_ok]
  constructor
  · rintro ⟨made, each, eq⟩
    cases eq
    exact ⟨rfl, each⟩
  · rintro ⟨rfl, each⟩
    exact ⟨signature, each, rfl⟩

theorem KnownType.ofToken_eq_ok {r : Registry ε V τ} {t : Token} {k : KnownType ε V} :
    KnownType.ofToken r t = .ok k ↔
      k.token = t ∧ k.name = r.name t ∧ r.resolve t = .ok k.guard := by
  obtain ⟨token, name, guard⟩ := k
  unfold ofToken
  rw [bind_eq_ok]
  constructor
  · rintro ⟨g, resolved, eq⟩
    cases eq
    exact ⟨rfl, rfl, resolved⟩
  · rintro ⟨same, named, resolved⟩
    dsimp only at same named resolved
    subst same named
    exact ⟨guard, resolved, rfl⟩

theorem Dispatcher.build_eq_ok {r : Registry ε V τ} {d : Definition ε V} {f : Dispatcher ε V} :
    Dispatcher.build r d = .ok f ↔ d.overloads ≠ [] ∧ d.nullary ≤ 1 ∧ f.name = d.name ∧
      List.Forall₂ (fun o c => Candidate.compile r o = .ok c) d.overloads f.candidates ∧
      f.index = .ofArities (f.candidates.map (·.arity)) ∧
      List.Forall₂ (fun t k => KnownType.ofToken r t = .ok k)
        (f.candidates.flatMap (·.signature.accepted)).eraseDups f.known := by
  obtain ⟨name, candidates, index, known⟩ := f
  unfold build
  split
  · rename_i empty
    simp [List.isEmpty_iff.1 empty]
  · rename_i some
    split
    · rename_i many
      simp [Nat.not_le.2 many]
    · rename_i few
      simp only [bind_eq_ok, mapM_eq_ok]
      constructor
      · rintro ⟨cs, overloads, ks, types, eq⟩
        cases eq
        exact ⟨by simpa using some, Nat.not_lt.1 few, rfl, overloads, rfl, types⟩
      · rintro ⟨_, _, rfl, overloads, rfl, types⟩
        exact ⟨candidates, overloads, known, types, rfl⟩

end MultiDispatch

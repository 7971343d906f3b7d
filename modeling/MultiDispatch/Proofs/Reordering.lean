import MultiDispatch.Proofs.Meaning
import MultiDispatch.Proofs.Registry.Effects

/-! In which order guards and conversions are registered. A type collects its guards and its edges
apart from every other type. The order of guards decides which is asked first, but not what they
accept together. The order of edges into one type decides which conversion a source gets, so that
order counts, and it is the only one that does. -/
namespace MultiDispatch

variable {ε V τ : Type}

/-- The edge that the operation registers, if it leads into the type. -/
def Operation.into? (t : Token) : Operation ε V τ → Option (Edge ε V)
  | registerConversion edge => if edge.target = t then some edge else none
  | _ => none

namespace Registry

/-- The type has the guard, or is to have it. -/
def Offers (r : Registry ε V τ) (ops : List (Operation ε V τ)) (t : Token) (g : Guard ε V) : Prop :=
  g ∈ r.guards t ∨ .registerGuard t g ∈ ops

/-- Guards of one type that are known by the same identity are the same guard. Otherwise the one
that comes first would keep the other out. -/
def Identified (r : Registry ε V τ) (ops : List (Operation ε V τ)) : Prop :=
  ∀ t g h, r.Offers ops t g → r.Offers ops t h → g.identity = h.identity → g = h

/-- The edges into a type after one more has been registered, unless a token is foreign. -/
def extend (r : Registry ε V τ) (held : List (Edge ε V)) (edge : Edge ε V) : List (Edge ε V) :=
  if r.owns edge.source = true ∧ r.owns edge.target = true ∧ ∀ e ∈ held, e.key ≠ edge.key then
    held ++ [edge]
  else held

theorem extend_congr {r s : Registry ε V τ} (same : ∀ t, s.owns t = r.owns t) :
    s.extend = r.extend := by
  funext held edge
  simp only [extend, same]

theorem edgesInto_connect_self {r : Registry ε V τ} {edge : Edge ε V}
    (source : r.owns edge.source = true) (target : r.owns edge.target = true) :
    (r.update edge.target (·.connect edge)).edgesInto edge.target =
      r.extend (r.edgesInto edge.target) edge := by
  obtain ⟨e, entry⟩ := exists_get? target
  have before : r.edgesInto edge.target = e.incoming := by simp [edgesInto, entry]
  have after : (r.update edge.target (·.connect edge)).edgesInto edge.target =
      (e.connect edge).incoming := by simp [edgesInto_update, entry]
  rw [before, after, Entry.connect, extend]
  split
  · rename_i held
    obtain ⟨old, member, same⟩ := List.any_eq_true.1 held
    obtain ⟨start, serial⟩ := of_decide_eq_true same
    rw [if_neg fun new => new.2.2 old member (Prod.ext start serial)]
  · rename_i new
    have fresh : ∀ old ∈ e.incoming, old.key ≠ edge.key := by
      intro old member same
      exact new (List.any_eq_true.2 ⟨old, member, decide_eq_true (Prod.mk.inj same)⟩)
    rw [if_pos ⟨source, target, fresh⟩]

theorem mem_guards_attach {r : Registry ε V τ} {t : Token} (owned : r.owns t = true)
    {h : Guard ε V} (identified : ∀ g ∈ r.guards t, g.identity = h.identity → g = h)
    (g : Guard ε V) : g ∈ (r.update t (·.attach h)).guards t ↔ g ∈ r.guards t ∨ g = h := by
  rw [guards_attach_self owned]
  split
  · rename_i held
    obtain ⟨old, member, same⟩ := List.any_eq_true.1 held
    obtain rfl := identified old member (of_decide_eq_true same)
    constructor
    · exact .inl
    · rintro (kept | rfl)
      · exact kept
      · exact member
  · simp

end Registry

variable [Typed V τ] [DecidableEq τ]

namespace Operation

variable {op : Operation ε V τ} (registers : op.Registers) (r : Registry ε V τ)

include registers

theorem edgesInto_perform_eq (t : Token) : (op.perform r).2.edgesInto t =
    match op.into? t with
    | some edge => r.extend (r.edgesInto t) edge
    | none => r.edgesInto t := by
  cases op with
  | registerGuard u g =>
    rw [perform_registerGuard]
    split
    · exact r.edgesInto_attach u g t
    · rfl
  | registerConversion edge =>
    rw [perform_registerConversion, into?]
    by_cases here : edge.target = t
    · subst here
      rw [if_pos rfl]
      split
      · rename_i owned
        exact Registry.edgesInto_connect_self owned.1 owned.2
      · rename_i foreign
        exact (if_neg fun owned => foreign ⟨owned.1, owned.2.1⟩).symm
    · rw [if_neg here]
      split
      · exact r.edgesInto_connect_of_ne (Ne.symm here)
      · rfl
  | _ => exact registers.elim

/-- A registration gives a type a guard if it is about that type and the registry owns it. -/
theorem mem_guards_perform {t : Token} (identified : ∀ g h, op = .registerGuard t h →
      g ∈ r.guards t → g.identity = h.identity → g = h) (g : Guard ε V) :
    g ∈ (op.perform r).2.guards t ↔
      g ∈ r.guards t ∨ r.owns t = true ∧ op = .registerGuard t g := by
  cases op with
  | registerGuard u h =>
    rw [perform_registerGuard]
    by_cases here : t = u
    · subst here
      split
      · rename_i owned
        rw [Registry.mem_guards_attach owned fun g held => identified g h rfl held]
        simp [owned, eq_comm]
      · rename_i foreign
        simp [foreign]
    · have other : registerGuard u h ≠ (registerGuard t g : Operation ε V τ) := by
        simp [Ne.symm here]
      split
      · rw [r.guards_attach h here]
        simp [other]
      · simp [other]
  | registerConversion edge =>
    rw [perform_registerConversion]
    split
    · simp [r.guards_connect edge t edge.target]
    · simp
  | _ => exact registers.elim

end Operation

namespace Registry

variable {r : Registry ε V τ} {ops : List (Operation ε V τ)}

theorem edgesInto_after_eq (registers : ∀ op ∈ ops, op.Registers) (t : Token) :
    (r.after ops).edgesInto t = (ops.filterMap (·.into? t)).foldl r.extend (r.edgesInto t) := by
  induction ops generalizing r with
  | nil => rfl
  | cons op ops ih =>
    obtain ⟨first, rest⟩ := List.forall_mem_cons.1 registers
    have later := ih (r := (op.perform r).2) rest
    -- The same tokens are owned all along, so every edge is judged as it would be at the start.
    rw [extend_congr (op.owns_perform first r), op.edgesInto_perform_eq first r] at later
    rw [List.filterMap_cons]
    refine later.trans ?_
    cases op.into? t <;> rfl

theorem mem_guards_after (registers : ∀ op ∈ ops, op.Registers) (identified : r.Identified ops)
    (t : Token) (g : Guard ε V) : g ∈ (r.after ops).guards t ↔
      g ∈ r.guards t ∨ r.owns t = true ∧ .registerGuard t g ∈ ops := by
  induction ops generalizing r with
  | nil => simp [after]
  | cons op ops ih =>
    obtain ⟨first, rest⟩ := List.forall_mem_cons.1 registers
    have made (t : Token) (g : Guard ε V) : g ∈ (op.perform r).2.guards t ↔
        g ∈ r.guards t ∨ r.owns t = true ∧ op = .registerGuard t g := by
      refine op.mem_guards_perform first r (fun g h here held => ?_) g
      exact identified t g h (.inl held) (.inr (here ▸ List.mem_cons_self))
    -- What the rest of the run meets was there at the start or is registered by the run.
    have still : (op.perform r).2.Identified ops := by
      have earlier (t : Token) (g : Guard ε V) (offered : (op.perform r).2.Offers ops t g) :
          r.Offers (op :: ops) t g := by
        rcases offered with held | later
        · rcases (made t g).1 held with old | ⟨_, new⟩
          · exact .inl old
          · exact .inr (new ▸ List.mem_cons_self)
        · exact .inr (List.mem_cons_of_mem _ later)
      exact fun t g h one other => identified t g h (earlier t g one) (earlier t h other)
    have later := ih rest still
    rw [made, op.owns_perform first r] at later
    rw [List.mem_cons, @eq_comm _ _ op]
    refine later.trans ?_
    tauto

/-- Two orders of one list of registrations leave the same registry up to the order of guards, if
they keep the order of the edges into each type. -/
theorem resembles_of_perm {ops' : List (Operation ε V τ)} (registers : ∀ op ∈ ops, op.Registers)
    (identified : r.Identified ops) (perm : ops.Perm ops')
    (order : ∀ t, ops.filterMap (·.into? t) = ops'.filterMap (·.into? t)) :
    (r.after ops).Resembles (r.after ops') := by
  have registers' : ∀ op ∈ ops', op.Registers :=
    fun op member => registers op (perm.mem_iff.2 member)
  have identified' : r.Identified ops' := by
    simpa only [Identified, Offers, perm.mem_iff] using identified
  have growth := r.grows_after ops
  have growth' := r.grows_after ops'
  refine ⟨by rw [growth.settings, growth'.settings], fun t => ?_, fun t g => ?_, fun t => ?_⟩
  · rw [growth.kind? fun owned => owns_after registers t ▸ owned,
      growth'.kind? fun owned => owns_after registers' t ▸ owned]
  · rw [mem_guards_after registers identified, mem_guards_after registers' identified',
      perm.mem_iff]
  · rw [edgesInto_after_eq registers, edgesInto_after_eq registers', order]

end Registry

namespace Dispatcher

/-- Guards may be registered in any order, before or after any conversions, and conversions in any
order that keeps those into one type in theirs: a function fails to build with the same error, or
answers every call alike. -/
theorem build_reordered (r : Registry ε V τ) (ops ops' : List (Operation ε V τ))
    (registers : ∀ op ∈ ops, op.Registers) (perm : ops.Perm ops')
    (order : ∀ t, ops.filterMap (·.into? t) = ops'.filterMap (·.into? t))
    (identified : r.Identified ops) (d : Definition ε V) :
    SameOutcome (build (r.after ops) d) (build (r.after ops') d) := by
  have registers' : ∀ op ∈ ops', op.Registers :=
    fun op member => registers op (perm.mem_iff.2 member)
  have alike := Registry.resembles_of_perm registers identified perm order
  refine alike.agrees.sameOutcome (fun t => ?_) d
  rw [(r.grows_after ops).name fun owned => Registry.owns_after registers t ▸ owned,
    (r.grows_after ops').name fun owned => Registry.owns_after registers' t ▸ owned]

end Dispatcher

namespace Amount

def bay : Registry String Amount Nat :=
  (Registry.empty 0 {}).after [.declare "box", .declare "crate"]

/-- Two rates for crates, of which the first counts, and a guard that is registered twice. -/
def cargo : List (Operation String Amount Nat) :=
  [.registerGuard ⟨0, 0⟩ ⟨.made 0, instanceTest 0⟩, .registerConversion (exchange 1 0 2),
    .registerGuard ⟨0, 1⟩ ⟨.made 1, instanceTest 1⟩,
    .registerGuard ⟨0, 0⟩ ⟨.made 2, fun v => pure (v.count < 10)⟩,
    .registerConversion (exchange 1 0 3), .registerGuard ⟨0, 0⟩ ⟨.made 0, instanceTest 0⟩]

def rearranged : List (Operation String Amount Nat) :=
  [.registerConversion (exchange 1 0 2),
    .registerGuard ⟨0, 0⟩ ⟨.made 2, fun v => pure (v.count < 10)⟩,
    .registerConversion (exchange 1 0 3), .registerGuard ⟨0, 0⟩ ⟨.made 0, instanceTest 0⟩,
    .registerGuard ⟨0, 0⟩ ⟨.made 0, instanceTest 0⟩,
    .registerGuard ⟨0, 1⟩ ⟨.made 1, instanceTest 1⟩]

def load : Definition String Amount where
  overloads := [⟨[[⟨0, 0⟩]], fun _ args => pure (args.headD ⟨0, 0⟩)⟩]

theorem perm_cargo : cargo.Perm rearranged :=
  (by decide : [0, 1, 2, 3, 4, 5].Perm [1, 3, 4, 0, 5, 2]).map fun i => cargo.getD i (.declare "")

theorem identified_cargo : bay.Identified cargo := by
  have bare (t : Token) : bay.guards t = [] := by
    refine (Registry.guards_after ?_).trans ?_
    · simp [Operation.parts, Operation.guarded?]
    · simp [Registry.guards, Registry.empty, Registry.get?]
  intro t g h one other same
  simp only [Registry.Offers, bare, cargo, List.mem_cons, List.not_mem_nil, reduceCtorEq,
    Operation.registerGuard.injEq, false_or, or_false] at one other
  rcases one with ⟨rfl, rfl⟩ | ⟨rfl, rfl⟩ | ⟨rfl, rfl⟩ | ⟨rfl, rfl⟩ <;>
    rcases other with ⟨_, rfl⟩ | ⟨_, rfl⟩ | ⟨_, rfl⟩ | ⟨_, rfl⟩ <;>
    first | rfl | cases same

theorem load_builds : ∃ f, Dispatcher.build (bay.after cargo) load = .ok f ∧
    f.dispatch [⟨1, 4⟩] = .ok (0, [⟨0, 8⟩]) := by
  unfold Dispatcher.build Candidate.compile Signature.compile Slot.compile
  simp only [Registry.accepted_eq_widening]
  exact ⟨_, rfl, rfl⟩

theorem build_reordered_bay : ∃ g, Dispatcher.build (bay.after rearranged) load = .ok g ∧
    g.dispatch [⟨1, 4⟩] = .ok (0, [⟨0, 8⟩]) := by
  obtain ⟨f, built, answer⟩ := load_builds
  have registers : ∀ op ∈ cargo, op.Registers := by simp [cargo, Operation.Registers]
  have order (t : Token) :
      cargo.filterMap (·.into? t) = rearranged.filterMap (·.into? t) := by
    by_cases here : ⟨0, 0⟩ = t <;> simp [cargo, rearranged, Operation.into?, exchange, here]
  have same := Dispatcher.build_reordered bay cargo rearranged registers perm_cargo order
    identified_cargo load
  rw [built] at same
  generalize Dispatcher.build (bay.after rearranged) load = again at same
  cases same with
  | ok dispatch => exact ⟨_, rfl, (dispatch _).symm.trans answer⟩

end Amount

end MultiDispatch

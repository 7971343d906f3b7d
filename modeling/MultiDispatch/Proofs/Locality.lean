import MultiDispatch.Proofs.Registry.Effects
import MultiDispatch.Proofs.Widening.Frontier
import MultiDispatch.Proofs.Widening.Monotone

/-! What a function depends on. Building reads the types that the function reaches, and the edges
into those from which widening goes on. Whatever else happens to the registry, new types, edges that
lead elsewhere, guards of other types, the function comes out the same, or fails for the same
reason. -/
namespace MultiDispatch

variable {ε V τ : Type}

/-- No part of the operation is about the guards of the types or the edges into the frontier. -/
def Operation.Spares (op : Operation ε V τ) (types frontier : List Token) : Prop :=
  ∀ part ∈ op.parts, (∀ t ∈ types, part.guarded? ≠ some t) ∧
    ∀ t ∈ frontier, part.fed? ≠ some t

namespace Definition

/-- The types that the function's parameters declare. -/
def declared (d : Definition ε V) : List Token := d.overloads.flatMap (·.params.flatten)

/-- The types whose edges decide which types the function reaches. -/
def frontier (d : Definition ε V) (r : Registry ε V τ) : List Token :=
  match r.settings.reach with
  | .singleHop => d.declared
  | .transitive => d.reached r

/-- A token is known only once it has been allocated: those that bear the registry's stamp are the
registry's own. -/
def Issued (d : Definition ε V) (r : Registry ε V τ) : Prop :=
  ∀ t ∈ d.declared, t.registry = r.stamp → r.owns t = true

section Parameters

variable {d : Definition ε V} {o : Overload ε V} {types : List Token} {t : Token}
  (listed : o ∈ d.overloads) (param : types ∈ o.params)

include listed param

theorem mem_declared (member : t ∈ types) : t ∈ d.declared :=
  List.mem_flatMap.2 ⟨o, listed, List.mem_flatten.2 ⟨types, param, member⟩⟩

theorem mem_frontier {r : Registry ε V τ} (member : t ∈ r.frontier types) : t ∈ d.frontier r := by
  unfold Registry.frontier at member
  unfold frontier
  cases reach : r.settings.reach with
  | singleHop =>
    rw [reach] at member
    exact mem_declared listed param member
  | transitive =>
    rw [reach] at member
    exact mem_reached_of_param listed param member

end Parameters

end Definition

namespace Registry

/-- The types have the guards that they had, and the edges into the frontier are as they were. -/
structure Undisturbed (r s : Registry ε V τ) (types frontier : List Token) : Prop where
  guards : ∀ t ∈ types, s.guards t = r.guards t
  edgesInto : ∀ t ∈ frontier, s.edgesInto t = r.edgesInto t

/-- A type that keeps its guards keeps its face in a registry that only grows, unless its token is
one that the registry has yet to allocate. -/
theorem Grows.face {r s : Registry ε V τ} (growth : r.Grows s) {t : Token}
    (known : s.owns t = true → r.owns t = true) (guards : s.guards t = r.guards t) :
    (s.get? t).map Entry.face = (r.get? t).map Entry.face := by
  cases owned : r.owns t with
  | false =>
    have foreign : s.owns t = false := by simpa [owned] using known
    rw [get?_of_foreign owned, get?_of_foreign foreign]
  | true =>
    obtain ⟨e, held⟩ := exists_get? owned
    obtain ⟨f, later, more⟩ := growth.entries t e held
    have same : f.guards = e.guards := by simpa [Registry.guards, held, later] using guards
    simp [held, later, Entry.face, more.name, more.kind, same]

end Registry

section Congruence

variable [Typed V τ] [DecidableEq τ] {r s : Registry ε V τ}

theorem Slot.compile_congr {types : List Token} (accepted : s.accepted types = r.accepted types)
    (resolve : ∀ t ∈ r.acceptedTokens types, s.resolve t = r.resolve t)
    (name : ∀ t ∈ r.acceptedTokens types, s.name t = r.name t) :
    Slot.compile s types = Slot.compile r types := by
  have label : types.eraseDups.map s.name = types.eraseDups.map r.name :=
    List.map_congr_left fun t member =>
      name t ((r.declared_prefix_acceptedTokens types).subset member)
  have members : (r.accepted types).mapM (Member.ofAccepted s) =
      (r.accepted types).mapM (Member.ofAccepted r) :=
    mapM_congr fun a member => by
      rw [Member.ofAccepted, Member.ofAccepted, resolve _ (List.mem_map_of_mem member)]
  rw [compile, compile, accepted, members]
  refine bind_congr_of_ok fun ms made => ?_
  obtain ⟨entries, -⟩ := Member.mapM_ofAccepted_eq_ok.1 made
  rw [Member.map_name_take entries, Member.map_name_take (entries.trans accepted.symm), label]

theorem Candidate.compile_congr {o : Overload ε V}
    (accepted : ∀ types ∈ o.params, s.accepted types = r.accepted types)
    (resolve : ∀ t ∈ o.reached r, s.resolve t = r.resolve t)
    (name : ∀ t ∈ o.reached r, s.name t = r.name t) :
    Candidate.compile s o = Candidate.compile r o := by
  have slots : o.params.mapM (Slot.compile s) = o.params.mapM (Slot.compile r) :=
    mapM_congr fun types param => Slot.compile_congr (accepted types param)
      (fun t member => resolve t (List.mem_flatMap.2 ⟨types, param, member⟩))
      fun t member => name t (List.mem_flatMap.2 ⟨types, param, member⟩)
  rw [compile, compile, Signature.compile, Signature.compile, slots]

/-- Building reads the accepted types of each parameter, their names and their guards. -/
theorem Dispatcher.build_congr {d : Definition ε V}
    (accepted : ∀ o ∈ d.overloads, ∀ types ∈ o.params, s.accepted types = r.accepted types)
    (resolve : ∀ t ∈ d.reached r, s.resolve t = r.resolve t)
    (name : ∀ t ∈ d.reached r, s.name t = r.name t) : build s d = build r d := by
  have candidates : d.overloads.mapM (Candidate.compile s) =
      d.overloads.mapM (Candidate.compile r) :=
    mapM_congr fun o listed => Candidate.compile_congr (accepted o listed)
      (fun t member => resolve t (List.mem_flatMap.2 ⟨o, listed, member⟩))
      fun t member => name t (List.mem_flatMap.2 ⟨o, listed, member⟩)
  unfold build
  rw [candidates]
  -- The known types are those of the compiled candidates, and are compared once these are there.
  refine congrArg (fun x => ite _ _ (ite _ _ x)) (bind_congr_of_ok fun cs compiled => ?_)
  have known : (cs.flatMap (·.signature.accepted)).eraseDups.mapM (KnownType.ofToken s) =
      (cs.flatMap (·.signature.accepted)).eraseDups.mapM (KnownType.ofToken r) := by
    refine mapM_congr fun t member => ?_
    rw [List.mem_eraseDups, accepted_of_candidates (mapM_eq_ok.1 compiled)] at member
    rw [KnownType.ofToken, KnownType.ofToken, resolve t member, name t member]
  simp only [known]

end Congruence

variable [Typed V τ] [DecidableEq τ]

namespace Registry

theorem undisturbed_of_spares {r : Registry ε V τ} {ops : List (Operation ε V τ)}
    {types frontier : List Token} (spared : ∀ op ∈ ops, op.Spares types frontier) :
    r.Undisturbed (r.after ops) types frontier where
  guards t member :=
    guards_after fun op listed part entry => (spared op listed part entry).1 t member
  edgesInto t member :=
    edgesInto_after fun op listed part entry => (spared op listed part entry).2 t member

/-- Types that a function reaches without declaring them are those of registered edges. -/
theorem Reachable.owns_of_mem_reached {r : Registry ε V τ} (reachable : r.Reachable)
    {d : Definition ε V} (issued : d.Issued r) {t : Token} (member : t ∈ d.reached r)
    (own : t.registry = r.stamp) : r.owns t = true := by
  obtain ⟨o, listed, types, param, n, _, leads⟩ := (Dispatcher.mem_reached reachable).1 member
  cases leads with
  | here declared => exact issued t (Definition.mem_declared listed param declared) own
  | edge registered =>
    obtain ⟨u, into⟩ := mem_edges.1 registered
    exact (reachable.wellFormed.joined u _ into).2.1

end Registry

namespace Dispatcher

theorem build_of_undisturbed {r s : Registry ε V τ} (reachable : r.Reachable) (growth : r.Grows s)
    {d : Definition ε V} (issued : d.Issued r)
    (quiet : r.Undisturbed s (d.reached r) (d.frontier r)) : build s d = build r d := by
  have known (t : Token) (member : t ∈ d.reached r) (later : s.owns t = true) :
      r.owns t = true := by
    refine reachable.owns_of_mem_reached issued member ?_
    rw [← growth.stamp]
    exact Registry.registry_of_owns later
  refine build_congr (fun o listed types param => ?_)
    (fun t member => Registry.resolve_congr growth.settings
      (growth.face (known t member) (quiet.guards t member)))
    fun t member => growth.name (known t member)
  rw [Registry.accepted_eq_widening, Registry.accepted_eq_widening]
  refine Registry.widening_congr (by rw [growth.settings]) fun t member => ?_
  exact quiet.edgesInto t (Definition.mem_frontier listed param member)

/-- Operations that leave the guards of the reached types and the edges into the frontier as they
are change nothing about the function: building fails as before, or makes the very same function.
Operations that do not name these types are such; others may be, when they are refused or repeat
what is registered. -/
theorem build_undisturbed (r : Registry ε V τ) (reachable : r.Reachable) (d : Definition ε V)
    (issued : d.Issued r) (ops : List (Operation ε V τ)) :
    ((∀ op ∈ ops, op.Spares (d.reached r) (d.frontier r)) →
      build (r.after ops) d = build r d) ∧
    (r.Undisturbed (r.after ops) (d.reached r) (d.frontier r) →
      build (r.after ops) d = build r d) := by
  have growth := r.grows_after ops
  constructor
  · intro spared
    exact build_of_undisturbed reachable growth issued (Registry.undisturbed_of_spares spared)
  · exact build_of_undisturbed reachable growth issued

end Dispatcher

namespace Amount

def barter : Definition String Amount where
  overloads := [⟨[[⟨0, 1⟩], [⟨0, 1⟩]], fun _ args => pure (args.headD ⟨0, 0⟩)⟩]

/-- Much happens on the market, but not to what is bartered. -/
def bustle : List (Operation String Amount Nat) :=
  [.declare "stall", .registerConversion (exchange 1 0 3), .registerConversion (exchange 3 0 5),
    .registerGuard ⟨0, 3⟩ ⟨.made 0, instanceTest 1⟩, .autoRegister ⟨0, 0⟩, .nominal 7]

/-- Is refused as a whole for a token of another registry. -/
def raid : Operation String Amount Nat :=
  .add (.guards [(⟨0, 1⟩, ⟨.made 1, fun _ => pure false⟩),
    (⟨1, 0⟩, ⟨.made 1, fun _ => pure false⟩)])

theorem build_undisturbed_market : (∃ f, Dispatcher.build market barter = .ok f) ∧
    Dispatcher.build (market.after bustle) barter = Dispatcher.build market barter ∧
    Dispatcher.build (market.after [raid]) barter = Dispatcher.build market barter := by
  have reached : barter.reached market = [⟨0, 1⟩, ⟨0, 2⟩, ⟨0, 1⟩, ⟨0, 2⟩] := by
    have tokens := funext market.acceptedTokens_eq
    simp only [Definition.reached, Overload.reached, tokens]
    decide
  have frontier : barter.frontier market = barter.reached market := rfl
  have issued : barter.Issued market := by unfold Definition.Issued; decide
  have reachable : market.Reachable := ⟨_, rfl⟩
  have spared := (Dispatcher.build_undisturbed market reachable barter issued bustle).1
  have quiet := (Dispatcher.build_undisturbed market reachable barter issued [raid]).2
  rw [frontier, reached] at spared quiet
  refine ⟨?_, spared ?_, quiet ⟨fun _ _ => rfl, fun _ _ => rfl⟩⟩
  · unfold Dispatcher.build Candidate.compile Signature.compile Slot.compile
    simp only [Registry.accepted_eq_widening]
    exact ⟨_, rfl⟩
  · unfold Operation.Spares
    decide

end Amount

end MultiDispatch

import MultiDispatch.Proofs.Layout
import MultiDispatch.Proofs.Scan
import MultiDispatch.Proofs.Wiring
import MultiDispatch.Proofs.Widening.Shortest

/-! The order in which a call runs things. The steps of a call are read off the registry and the
overloads: candidates, positions, accepted types and guards are gone through in order, each up to
the first that settles the question. What a compiled function records is what these steps record. -/
namespace MultiDispatch

open Traced

variable {ε V τ : Type}

namespace Step

def isTest : Step ε V → Bool
  | test .. => true
  | _ => false

def isRun : Step ε V → Bool
  | run .. => true
  | _ => false

end Step

/-- The converters of a chain, each on what the one before it made. -/
def Edge.steps : List (Edge ε V) → V → List (Step ε V)
  | [], _ => []
  | e :: es, v => .convert e v :: steps es (e.converter.apply v).val

theorem Edge.log_along (es : List (Edge ε V)) (v : V) :
    (along es v).log = (steps es v).flatMap Step.log := by
  induction es generalizing v with
  | nil => rfl
  | cons e es ih =>
    rw [along, log_bind, ih]
    rfl

theorem Edge.log_conversion? (es : List (Edge ε V)) (v : V) :
    (match conversion? es with
      | some conversion => conversion v
      | none => pure v).log = (steps es v).flatMap Step.log := by
  cases es with
  | nil => rfl
  | cons => exact log_along _ v

variable [Typed V τ] [DecidableEq τ]

namespace Registry

/-- The tests that decide on a type, in the order in which they are run. -/
def tests (r : Registry ε V τ) (t : Token) : List (Test ε V) :=
  match r.get? t with
  | none => []
  | some { kind := .nominal type, guards := [], .. } =>
    if r.settings.autoRegister then [instanceTest type] else []
  | some { guards, .. } => guards.map (·.test)

/-- The tests of a type are run up to the first that rejects the value. -/
def typeSteps (r : Registry ε V τ) (t : Token) (v : V) : List (Step ε V) :=
  (upToFirst (fun test => !(test v).val) (r.tests t)).map (.test · v)

/-- Types are tried up to the first that recognises the value. -/
def searchSteps (r : Registry ε V τ) (ts : List Token) (v : V) : List (Step ε V) :=
  (upToFirst (r.recognises · v) ts).flatMap (r.typeSteps · v)

def takes (r : Registry ε V τ) (declared : List Token) (v : V) : Bool :=
  (r.acceptedTokens declared).any (r.recognises · v)

/-- Positions are gone through up to the first that does not take its argument. -/
def fitSteps (r : Registry ε V τ) (params : List (List Token)) (args : List V) :
    List (Step ε V) :=
  (upToFirst (fun (declared, v) => !r.takes declared v) (params.zip args)).flatMap
    fun (declared, v) => r.searchSteps (r.acceptedTokens declared) v

/-- A parameter that accepts more than it declares is searched once more, and the converters on the
chain of the type found are run at once. -/
def convertSteps (r : Registry ε V τ) (chain : List Token → Token → List (Edge ε V))
    (declared : List Token) (v : V) : List (Step ε V) :=
  let accepted := r.acceptedTokens declared
  if ∀ t ∈ accepted, t ∈ declared then []
  else r.searchSteps accepted v ++
    ((accepted.find? (r.recognises · v)).toList.flatMap fun t => Edge.steps (chain declared t) v)

end Registry

/-- Overloads are tried up to the first whose parameters take the arguments. -/
def Registry.askSteps (r : Registry ε V τ) (os : List (Overload ε V)) (args : List V) :
    List (Step ε V) :=
  (upToFirst (fun o => decide (r.Fits o.params args)) os).flatMap (r.fitSteps ·.params args)

/-- The arguments are converted from left to right, and the method runs on what they become. -/
def Overload.winSteps (o : Overload ε V) (r : Registry ε V τ)
    (chain : List Token → Token → List (Edge ε V)) (receiver : Option V) (args : List V) :
    List (Step ε V) :=
  (List.zipWith (r.convertSteps chain) o.params args).flatten ++
    [.run o.method receiver (List.zipWith r.handOver o.params args)]

/-- Only overloads of the arguments' arity are tried. Without a winner among them the types that the
function knows are tried on each argument. -/
def Definition.steps (d : Definition ε V) (r : Registry ε V τ)
    (chain : List Token → Token → List (Edge ε V)) (receiver : Option V) (args : List V) :
    List (Step ε V) :=
  let rivals := d.overloads.filter (·.arity = args.length)
  r.askSteps rivals args ++
    match rivals.find? fun o => decide (r.Fits o.params args) with
    | some o => o.winSteps r chain receiver args
    | none => args.flatMap (r.searchSteps (d.reached r).eraseDups)

namespace Registry

variable {r : Registry ε V τ}

theorem log_resolve {t : Token} {g : Combined ε V} (resolved : r.resolve t = .ok g) (v : V) :
    (g.test v).log = (r.typeSteps t v).flatMap Step.log := by
  unfold resolve at resolved
  unfold typeSteps tests
  cases entry : r.get? t with
  | none => simp [entry] at resolved
  | some e =>
    obtain ⟨name, kind, guards, incoming⟩ := e
    rw [entry] at resolved
    cases guards with
    | cons =>
      cases resolved
      simp only [Combined.intersect_test, log_allM, upToFirst_map, List.flatMap_map]
      cases kind <;> rfl
    | nil =>
      cases kind with
      | structural => cases resolved
      | nominal type =>
        cases allowed : r.settings.autoRegister <;> simp [allowed] at resolved
        subst resolved
        simp [upToFirst, Step.log]

/-- A search among things that stand for types runs the tests of their types. -/
theorem log_search {α : Type} {xs : List α} {token : α → Token} {guard : α → Combined ε V}
    (resolved : ∀ x ∈ xs, r.resolve (token x) = .ok (guard x)) (v : V) :
    (upToFirst (fun x => ((guard x).test v).val) xs).flatMap (fun x => ((guard x).test v).log) =
      (r.searchSteps (xs.map token) v).flatMap Step.log := by
  rw [searchSteps, upToFirst_map, List.flatMap_map]
  induction xs with
  | nil => rfl
  | cons x xs ih =>
    obtain ⟨head, rest⟩ := List.forall_mem_cons.1 resolved
    rw [upToFirst, upToFirst, val_resolve head]
    split
    · simp [log_resolve head]
    · simp [log_resolve head, ih rest]

end Registry

open Registry

variable {r : Registry ε V τ}

namespace Slot

variable {declared : List Token} {s : Slot ε V} (compiled : Slot.compile r declared = .ok s)

include compiled

theorem val_guard_eq_takes (v : V) : (s.guard.test v).val = r.takes declared v := by
  rw [Bool.eq_iff_iff, val_guard compiled, takes, acceptedTokens_eq, List.any_map, List.any_eq_true]
  rfl

theorem log_members (v : V) :
    (upToFirst (fun m => (m.guard.test v).val) s.members).flatMap (fun m => (m.guard.test v).log) =
      (r.searchSteps (r.acceptedTokens declared) v).flatMap Step.log := by
  rw [← map_token_members compiled]
  exact log_search (fun _ member => resolve_of_compile compiled member) v

theorem log_guard (v : V) :
    (s.guard.test v).log = (r.searchSteps (r.acceptedTokens declared) v).flatMap Step.log := by
  rw [guard, Combined.union_test, log_anyM, upToFirst_map, List.flatMap_map]
  exact log_members compiled v

theorem widened_iff : s.widened = true ↔ ¬ ∀ t ∈ r.acceptedTokens declared, t ∈ declared := by
  rw [widened_iff_exists compiled, Slot.accepted, map_token_members compiled]
  simp only [not_forall, exists_prop]

theorem log_conversionFor? (v : V) : (s.conversionFor? v).log =
    if ∀ t ∈ r.acceptedTokens declared, t ∈ declared then []
    else (r.searchSteps (r.acceptedTokens declared) v).flatMap Step.log := by
  rw [conversionFor?]
  by_cases plain : ∀ t ∈ r.acceptedTokens declared, t ∈ declared
  · rw [if_pos plain, if_neg fun widened => (widened_iff compiled).1 widened plain]
    rfl
  · rw [if_neg plain, if_pos ((widened_iff compiled).2 plain), log_bind, log_findM?,
      log_members compiled]
    exact List.append_nil _

theorem log_convert {chain : List Token → Token → List (Edge ε V)}
    (routes : ∀ a ∈ r.widening declared, a.convert? = Edge.conversion? (chain declared a.token))
    (v : V) : (s.convert v).log = (r.convertSteps chain declared v).flatMap Step.log := by
  have search : (r.acceptedTokens declared).find? (r.recognises · v) =
      ((r.widening declared).find? (r.recognises ·.token v)).map (·.token) := by
    rw [acceptedTokens_eq, List.find?_map]
    rfl
  rw [convert, log_bind, log_conversionFor? compiled, val_conversionFor? compiled, convertSteps,
    search]
  cases found : (r.widening declared).find? (r.recognises ·.token v) with
  | none => split <;> simp
  | some a =>
    have member := List.mem_of_find?_eq_some found
    split
    · rename_i plain
      have listed : a.token ∈ declared :=
        plain a.token (acceptedTokens_eq r declared ▸ List.mem_map_of_mem member)
      simp [(convert?_eq_none_iff member).2 listed]
    · have converters := Edge.log_conversion? (chain declared a.token) v
      rw [← routes a member] at converters
      rw [List.flatMap_append, Option.map_some, Option.toList_some, List.flatMap_singleton]
      exact congrArg _ converters

end Slot

section Parameters

variable {params : List (List Token)} {slots : List (Slot ε V)}
  (compiled : List.Forall₂ (fun declared slot => Slot.compile r declared = .ok slot) params slots)

include compiled

theorem log_fit (args : List V) :
    (upToFirst (fun (s, v) => !(s.guard.test v).val) (slots.zip args)).flatMap
        (fun (s, v) => (s.guard.test v).log) =
      (r.fitSteps params args).flatMap Step.log := by
  rw [fitSteps]
  induction compiled generalizing args with
  | nil => rfl
  | cons slot _ ih =>
    cases args with
    | nil => rfl
    | cons v args =>
      simp only [List.zip_cons_cons, upToFirst, Slot.val_guard_eq_takes slot]
      split
      · simp [Slot.log_guard slot]
      · simp [Slot.log_guard slot, ih]

theorem log_convertAll {chain : List Token → Token → List (Edge ε V)}
    (routes : ∀ declared ∈ params, ∀ a ∈ r.widening declared,
      a.convert? = Edge.conversion? (chain declared a.token)) (args : List V) :
    (Slot.convertAll slots args).log =
      (List.zipWith (r.convertSteps chain) params args).flatten.flatMap Step.log := by
  induction compiled generalizing args with
  | nil => rfl
  | cons slot _ ih =>
    obtain ⟨head, rest⟩ := List.forall_mem_cons.1 routes
    cases args with
    | nil => rfl
    | cons v args => simp [Slot.convertAll, Slot.log_convert slot head, ih rest]

end Parameters

theorem Candidate.log_accepts_eq {o : Overload ε V} {c : Candidate ε V}
    (compiled : Candidate.compile r o = .ok c) {args : List V} (length : c.arity = args.length) :
    (c.accepts args).log = (r.fitSteps o.params args).flatMap Step.log := by
  rw [log_accepts, asked, if_pos length.symm, List.flatMap_map,
    ← log_fit (Candidate.compile_eq_ok.1 compiled).2]
  rfl

section Kinds

variable {s : Step ε V}

theorem isTest_of_mem_searchSteps {ts : List Token} {v : V} (member : s ∈ r.searchSteps ts v) :
    s.isTest = true := by
  obtain ⟨t, _, tried⟩ := List.mem_flatMap.1 member
  obtain ⟨test, _, rfl⟩ := List.mem_map.1 tried
  rfl

theorem isTest_of_mem_fitSteps {params : List (List Token)} {args : List V}
    (member : s ∈ r.fitSteps params args) : s.isTest = true := by
  obtain ⟨_, _, searched⟩ := List.mem_flatMap.1 member
  exact isTest_of_mem_searchSteps searched

theorem isTest_of_mem_askSteps {os : List (Overload ε V)} {args : List V}
    (member : s ∈ r.askSteps os args) : s.isTest = true := by
  obtain ⟨o, _, asked⟩ := List.mem_flatMap.1 member
  exact isTest_of_mem_fitSteps asked

theorem Step.isRun_of_isTest (test : s.isTest = true) : s.isRun = false := by
  cases s <;> first | rfl | cases test

omit [Typed V τ] [DecidableEq τ] in
theorem Edge.isRun_of_mem_steps {es : List (Edge ε V)} {v : V} (member : s ∈ Edge.steps es v) :
    s.isRun = false := by
  induction es generalizing v with
  | nil => cases member
  | cons e es ih =>
    rcases List.mem_cons.1 member with rfl | later
    · rfl
    · exact ih later

theorem isRun_of_mem_convertSteps {chain : List Token → Token → List (Edge ε V)}
    {declared : List Token} {v : V} (member : s ∈ r.convertSteps chain declared v) :
    s.isRun = false := by
  rw [convertSteps] at member
  split at member
  · cases member
  · rcases List.mem_append.1 member with searched | converted
    · exact Step.isRun_of_isTest (isTest_of_mem_searchSteps searched)
    · obtain ⟨t, _, along⟩ := List.mem_flatMap.1 converted
      exact Edge.isRun_of_mem_steps along

section Shape

variable {d : Definition ε V} {chain : List Token → Token → List (Edge ε V)}
  {receiver : Option V} {args : List V}

theorem Definition.isTest_of_mem_steps
    (nobody : ((d.overloads.filter (·.arity = args.length)).find? fun o =>
      decide (r.Fits o.params args)) = none) :
    ∀ s ∈ d.steps r chain receiver args, s.isTest = true := by
  intro s member
  simp only [steps, nobody] at member
  rcases List.mem_append.1 member with asked | described
  · exact isTest_of_mem_askSteps asked
  · obtain ⟨v, _, searched⟩ := List.mem_flatMap.1 described
    exact isTest_of_mem_searchSteps searched

theorem Definition.steps_of_winner {o : Overload ε V}
    (won : ((d.overloads.filter (·.arity = args.length)).find? fun o =>
      decide (r.Fits o.params args)) = some o) :
    ∃ before last, d.steps r chain receiver args = before ++ [last] ∧ last.isRun = true ∧
      ∀ s ∈ before, s.isRun = false := by
  simp only [steps, won]
  rw [Overload.winSteps, ← List.append_assoc]
  refine ⟨_, _, rfl, rfl, fun s member => ?_⟩
  rcases List.mem_append.1 member with asked | converted
  · exact Step.isRun_of_isTest (isTest_of_mem_askSteps asked)
  · obtain ⟨steps, position, along⟩ := List.mem_flatten.1 converted
    obtain ⟨i, bound, rfl⟩ := List.mem_iff_getElem.1 position
    rw [List.getElem_zipWith] at along
    exact isRun_of_mem_convertSteps along

end Shape

end Kinds

namespace Registry

/-- Each accepted type has a route, and its conversion is that of the route. -/
theorem exists_chains (reachable : r.Reachable) :
    ∃ chain : List Token → Token → List (Edge ε V), ∀ declared, ∀ a ∈ r.widening declared,
      r.Route declared (r.acceptedTokens declared) a.token (chain declared a.token) ∧
        a.convert? = Edge.conversion? (chain declared a.token) := by
  -- The choice wants a chain for every type; one that is not accepted gets the empty chain.
  have each (declared : List Token) (t : Token) : ∃ es : List (Edge ε V),
      ∀ a ∈ r.widening declared, a.token = t →
        r.Route declared (r.acceptedTokens declared) t es ∧ a.convert? = Edge.conversion? es := by
    by_cases accepted : ∃ a ∈ r.widening declared, a.token = t
    · obtain ⟨a, member, rfl⟩ := accepted
      obtain ⟨es, route, convert⟩ := exists_route reachable member
      rw [← acceptedTokens_eq] at route
      refine ⟨es, fun b other same => ⟨route, ?_⟩⟩
      rw [List.inj_on_of_nodup_map (r.nodup_widening declared) other member same, convert]
    · exact ⟨[], fun a member same => absurd ⟨a, member, same⟩ accepted⟩
  choose chain spec using each
  exact ⟨chain, fun declared a member => spec declared a.token a member rfl⟩

end Registry

namespace Dispatcher

theorem resolve_known {tokens : List Token} {known : List (KnownType ε V)}
    (made : List.Forall₂ (fun t k => KnownType.ofToken r t = .ok k) tokens known) :
    known.map (·.token) = tokens ∧ ∀ k ∈ known, r.resolve k.token = .ok k.guard := by
  induction made with
  | nil => simp
  | cons head _ ih =>
    obtain ⟨rfl, _, resolved⟩ := KnownType.ofToken_eq_ok.1 head
    obtain ⟨rfl, rest⟩ := ih
    exact ⟨rfl, List.forall_mem_cons.2 ⟨resolved, rest⟩⟩

theorem log_describe {f : Dispatcher ε V} {tokens : List Token}
    (known : List.Forall₂ (fun t k => KnownType.ofToken r t = .ok k) tokens f.known) (v : V) :
    (f.describe v).log = (r.searchSteps tokens v).flatMap Step.log := by
  obtain ⟨rfl, resolved⟩ := resolve_known known
  rw [describe, log_bind, log_findM?, log_search resolved]
  split <;> exact List.append_nil _

omit [Typed V τ] [DecidableEq τ] in
theorem find?_map_ofArity (f : Dispatcher ε V) (k : Nat) (args : List V) :
    ((f.ofArity k).map (·.2)).find? (fun c => (c.accepts args).val) =
      ((f.ofArity k).find? fun c => (c.2.accepts args).val).map (·.2) :=
  List.find?_map

omit [DecidableEq τ] in
/-- Everything that a call records, in terms of the candidates of the arguments' arity. -/
theorem log_call (f : Dispatcher ε V) (receiver : Option V) (args : List V) :
    (f.call receiver args).log =
      (asked ((f.ofArity args.length).map (·.2)) args).flatMap Step.log ++
        match ((f.ofArity args.length).map (·.2)).find? fun c => (c.accepts args).val with
        | some c => (c.convertArgs args).log ++ (c.method receiver (c.convertArgs args).val).log
        | none => args.flatMap fun v => (f.describe v).log := by
  rw [call, log_bind, select, log_bind, val_bind, log_findM?_accepts, val_findM?, find?_map_ofArity]
  cases (f.ofArity args.length).find? fun c => (c.2.accepts args).val with
  | none => simp [noMatch]
  | some c => simp

omit [DecidableEq τ] in
theorem val_call_eq (f : Dispatcher ε V) (receiver : Option V) (args : List V) :
    (f.call receiver args).val =
      match ((f.ofArity args.length).map (·.2)).find? fun c => (c.accepts args).val with
      | some c => .ok (c.method receiver (c.convertArgs args).val).val
      | none => .error (f.noMatch args).val := by
  rw [call, val_bind, select, val_bind, val_findM?, find?_map_ofArity]
  cases (f.ofArity args.length).find? fun c => (c.2.accepts args).val <;> rfl

/-- The candidates of one arity are those of the overloads of that arity. -/
theorem forall₂_rivals {d : Definition ε V} {f : Dispatcher ε V} (built : build r d = .ok f)
    (k : Nat) :
    List.Forall₂ (fun o c => Candidate.compile r o = .ok c ∧ decide (o.arity = k) = true)
      (d.overloads.filter (·.arity = k)) ((f.ofArity k).map (·.2)) := by
  obtain ⟨_, _, _, compiled, indexed, _⟩ := build_eq_ok.1 built
  rw [map_ofArity indexed]
  refine forall₂_filter_of_agree compiled fun o c made => ?_
  rw [Overload.arity, (Candidate.compile_eq_ok.1 made).2.length_eq]
  rfl

section Rivals

variable {args : List V}

theorem fits_eq_accepts {o : Overload ε V} {c : Candidate ε V}
    (compiled : Candidate.compile r o = .ok c) :
    decide (r.Fits o.params args) = (c.accepts args).val := by
  rw [Bool.eq_iff_iff, decide_eq_true_iff, Candidate.val_accepts compiled]

theorem log_asked {os : List (Overload ε V)} {cs : List (Candidate ε V)}
    (rivals : List.Forall₂
      (fun o c => Candidate.compile r o = .ok c ∧ decide (o.arity = args.length) = true) os cs) :
    (asked cs args).flatMap Step.log = (r.askSteps os args).flatMap Step.log := by
  rw [asked, askSteps, List.flatMap_assoc, List.flatMap_assoc]
  refine (flatMap_upToFirst_of_forall₂ rivals (fun o c made => fits_eq_accepts made.1)
    fun o c made => ?_).symm
  have arity : c.arity = args.length := by
    rw [← of_decide_eq_true made.2, Overload.arity, (Candidate.compile_eq_ok.1 made.1).2.length_eq]
    rfl
  rw [← Candidate.log_accepts_eq made.1 arity, Candidate.log_accepts]

theorem log_winSteps {o : Overload ε V} {c : Candidate ε V}
    (compiled : Candidate.compile r o = .ok c) (arity : o.arity = args.length)
    {chain : List Token → Token → List (Edge ε V)}
    (routes : ∀ declared, ∀ a ∈ r.widening declared,
      a.convert? = Edge.conversion? (chain declared a.token)) (receiver : Option V) :
    (c.convertArgs args).log ++ (c.method receiver (c.convertArgs args).val).log =
      (o.winSteps r chain receiver args).flatMap Step.log := by
  obtain ⟨method, slots⟩ := Candidate.compile_eq_ok.1 compiled
  have converted : (c.convertArgs args).log = _ :=
    log_convertAll slots (fun declared _ => routes declared) args
  rw [converted, Candidate.val_convertArgs compiled arity, method, Overload.winSteps,
    List.flatMap_append, List.flatMap_singleton]
  rfl

end Rivals

section Call

variable {d : Definition ε V} {f : Dispatcher ε V} (built : build r d = .ok f)

include built

theorem rel_winner (args : List V) :
    Option.Rel (fun o c => Candidate.compile r o = .ok c ∧ decide (o.arity = args.length) = true)
      ((d.overloads.filter (·.arity = args.length)).find? fun o => decide (r.Fits o.params args))
      (((f.ofArity args.length).map (·.2)).find? fun c => (c.accepts args).val) :=
  rel_find?_of_forall₂ (forall₂_rivals built args.length) fun _ _ made => fits_eq_accepts made.1

variable {chain : List Token → Token → List (Edge ε V)} (receiver : Option V) (args : List V)

theorem log_call_eq_steps (routes : ∀ declared, ∀ a ∈ r.widening declared,
      a.convert? = Edge.conversion? (chain declared a.token)) :
    (f.call receiver args).log = (d.steps r chain receiver args).flatMap Step.log := by
  obtain ⟨_, _, _, compiled, _, known⟩ := build_eq_ok.1 built
  rw [accepted_of_candidates compiled] at known
  have winner := rel_winner built args
  rw [log_call, log_asked (forall₂_rivals built args.length), Definition.steps,
    List.flatMap_append]
  congr 1
  -- Both searches end together, so what they found is generalized in one go.
  revert winner
  generalize List.find? _ (d.overloads.filter _) = o?
  generalize List.find? _ ((f.ofArity args.length).map _) = c?
  rintro (made | _)
  · exact log_winSteps made.1 (of_decide_eq_true made.2) routes receiver
  · simp only [log_describe known, List.flatMap_assoc]

theorem isOk_call : (f.call receiver args).val.isOk =
    ((d.overloads.filter (·.arity = args.length)).find? fun o =>
      decide (r.Fits o.params args)).isSome := by
  have winner := rel_winner built args
  rw [val_call_eq]
  revert winner
  generalize List.find? _ (d.overloads.filter _) = o?
  generalize List.find? _ ((f.ofArity args.length).map _) = c?
  rintro (made | _)
  · rfl
  · rfl

end Call

/-- A call runs the steps that its arguments call for and nothing else, converters along the routes
of the accepted types. A failed call runs tests only. A successful one runs a method once, last of
all. -/
theorem call_order (r : Registry ε V τ) (reachable : r.Reachable) (d : Definition ε V)
    (f : Dispatcher ε V) (built : build r d = .ok f) :
    ∃ chain : List Token → Token → List (Edge ε V),
      (∀ declared, ∀ t ∈ r.acceptedTokens declared,
        r.Route declared (r.acceptedTokens declared) t (chain declared t)) ∧
      ∀ receiver args,
        (f.call receiver args).log = (d.steps r chain receiver args).flatMap Step.log ∧
        ((∃ e, (f.call receiver args).val = .error e) →
          ∀ s ∈ d.steps r chain receiver args, s.isTest = true) ∧
        ((∃ v, (f.call receiver args).val = .ok v) →
          ∃ before last, d.steps r chain receiver args = before ++ [last] ∧ last.isRun = true ∧
            ∀ s ∈ before, s.isRun = false) := by
  obtain ⟨chain, routes⟩ := exists_chains reachable
  refine ⟨chain, fun declared t member => ?_, fun receiver args => ⟨?_, fun failed => ?_,
    fun succeeded => ?_⟩⟩
  · rw [acceptedTokens_eq] at member
    obtain ⟨a, held, rfl⟩ := List.mem_map.1 member
    exact (routes declared a held).1
  · exact log_call_eq_steps built receiver args fun declared a held => (routes declared a held).2
  · obtain ⟨e, failed⟩ := failed
    have outcome := isOk_call built receiver args
    rw [failed] at outcome
    have nobody := Option.isNone_iff_eq_none.1 (Option.isSome_eq_false_iff.1 outcome.symm)
    exact Definition.isTest_of_mem_steps nobody
  · obtain ⟨v, succeeded⟩ := succeeded
    have outcome := isOk_call built receiver args
    rw [succeeded] at outcome
    obtain ⟨o, won⟩ := Option.isSome_iff_exists.1 outcome.symm
    exact Definition.steps_of_winner won

end Dispatcher

namespace Amount

/-- Recognises a unit and says that it was asked. -/
def probe (name : String) (unit : Nat) : Test String Amount :=
  fun v => ⟨v.unit == unit, [name]⟩

def gauges : Registry String Amount Nat :=
  (Registry.empty 0 {}).after
    [.declare "metre", .declare "foot", .registerGuard ⟨0, 0⟩ ⟨.made 0, probe "metre?" 0⟩,
      .registerGuard ⟨0, 1⟩ ⟨.made 1, probe "foot?" 1⟩,
      .registerConversion ⟨⟨0, 1⟩, ⟨0, 0⟩, 0, fun v => ⟨⟨0, v.count / 3⟩, ["convert"]⟩⟩]

def area : Definition String Amount where
  overloads := [
    ⟨[[⟨0, 0⟩]], fun _ _ => ⟨⟨0, 0⟩, ["line"]⟩⟩,
    ⟨[[⟨0, 0⟩], [⟨0, 1⟩, ⟨0, 0⟩]], fun _ _ => ⟨⟨0, 0⟩, ["area"]⟩⟩]

theorem area_builds : ∃ f, Dispatcher.build gauges area = .ok f ∧
    (f.call none [⟨1, 6⟩, ⟨1, 6⟩]).log =
      ["metre?", "foot?", "foot?", "metre?", "foot?", "convert", "area"] ∧
    (f.call none [⟨1, 6⟩, ⟨2, 6⟩]).log =
      ["metre?", "foot?", "foot?", "metre?", "metre?", "foot?", "metre?", "foot?"] := by
  unfold Dispatcher.build Candidate.compile Signature.compile Slot.compile
  simp only [Registry.accepted_eq_widening]
  exact ⟨_, rfl, rfl, rfl⟩

theorem call_order_area : ∃ f, Dispatcher.build gauges area = .ok f ∧
    ∃ chain, (area.steps gauges chain none [⟨1, 6⟩, ⟨1, 6⟩]).flatMap Step.log =
        ["metre?", "foot?", "foot?", "metre?", "foot?", "convert", "area"] ∧
      (area.steps gauges chain none [⟨1, 6⟩, ⟨2, 6⟩]).flatMap Step.log =
        ["metre?", "foot?", "foot?", "metre?", "metre?", "foot?", "metre?", "foot?"] := by
  obtain ⟨f, built, success, failure⟩ := area_builds
  obtain ⟨chain, _, run⟩ := Dispatcher.call_order gauges ⟨_, rfl⟩ area f built
  refine ⟨f, built, chain, ?_, ?_⟩
  · rw [← (run none [⟨1, 6⟩, ⟨1, 6⟩]).1, success]
  · rw [← (run none [⟨1, 6⟩, ⟨2, 6⟩]).1, failure]

end Amount

end MultiDispatch

import MultiDispatch.Proofs.Combination
import MultiDispatch.Proofs.Compiled

/-! What guards are known by. Their identity tells a registry which of them it holds already, and
nothing else asks for it. A compiled function with the identities left out answers every call as
before and records the same, and registries that differ in identities only compile functions that do
so at most. -/
namespace MultiDispatch

variable {ε V τ κ α β γ : Type}

namespace Traced

theorem findM?_map (p : β → Traced ε Bool) (f : α → β) (xs : List α) :
    (xs.map f).findM? p = Option.map f <$> xs.findM? fun x => p (f x) := by
  apply ext
  · rw [val_map, val_findM?, val_findM?, List.find?_map]
    rfl
  · rw [log_map, log_findM?, log_findM?, upToFirst_map, List.flatMap_map]

end Traced

/-! The parts of a function with the identities of their guards left out. -/

def Combined.stripped (c : Combined ε V) : Combined ε V := .new c.test

def Member.stripped (m : Member ε V) : Member ε V := { m with guard := m.guard.stripped }

def Slot.stripped (s : Slot ε V) : Slot ε V := { s with members := s.members.map Member.stripped }

def Candidate.stripped (c : Candidate ε V) : Candidate ε V :=
  { c with signature := ⟨c.signature.slots.map Slot.stripped⟩ }

def KnownType.stripped (k : KnownType ε V) : KnownType ε V := { k with guard := k.guard.stripped }

def Dispatcher.stripped (f : Dispatcher ε V) : Dispatcher ε V :=
  { f with
    candidates := f.candidates.map Candidate.stripped
    known := f.known.map KnownType.stripped }

namespace Slot

theorem test_stripped (s : Slot ε V) : s.stripped.guard.test = s.guard.test := by
  funext v
  rw [guard, guard, Combined.union_test, Combined.union_test, Traced.anyM_map, Traced.anyM_map,
    stripped, Traced.anyM_map]
  rfl

theorem accepted_stripped (s : Slot ε V) : s.stripped.accepted = s.accepted := by
  rw [accepted, accepted, stripped, List.map_map]
  rfl

theorem conversionFor?_stripped (s : Slot ε V) (v : V) :
    s.stripped.conversionFor? v = s.conversionFor? v := by
  rw [conversionFor?, conversionFor?, stripped, Traced.findM?_map, bind_map_left]
  simp only [Option.bind_map]
  rfl

theorem convert_stripped (s : Slot ε V) : s.stripped.convert = s.convert := by
  funext v
  rw [convert, convert, conversionFor?_stripped]

theorem convertAll_stripped (slots : List (Slot ε V)) (args : List V) :
    convertAll (slots.map stripped) args = convertAll slots args := by
  induction slots generalizing args with
  | nil => rfl
  | cons s slots ih =>
    cases args with
    | nil => rfl
    | cons v args => simp only [List.map_cons, convertAll, convert_stripped, ih]

end Slot

namespace Candidate

theorem accepts_stripped (c : Candidate ε V) : c.stripped.accepts = c.accepts := by
  funext args
  have tests : (c.signature.slots.map Slot.stripped).map (·.guard.test) =
      c.signature.slots.map (·.guard.test) := by
    simp only [List.map_map, Function.comp_def, Slot.test_stripped]
  rw [accepts, accepts, Signature.accepts, Signature.accepts, stripped, tests]

theorem convertArgs_stripped (c : Candidate ε V) : c.stripped.convertArgs = c.convertArgs :=
  funext fun args => Slot.convertAll_stripped c.signature.slots args

theorem arity_stripped (c : Candidate ε V) : c.stripped.arity = c.arity := List.length_map ..

theorem render_stripped (c : Candidate ε V) : c.stripped.signature.render = c.signature.render := by
  rw [Signature.render, Signature.render, stripped, List.map_map]
  rfl

theorem accepted_stripped (c : Candidate ε V) :
    c.stripped.signature.accepted = c.signature.accepted := by
  rw [Signature.accepted, Signature.accepted, stripped, List.flatMap_map]
  simp only [Slot.accepted_stripped]

end Candidate

namespace Dispatcher

theorem ofArity_stripped (f : Dispatcher ε V) (k : Nat) :
    f.stripped.ofArity k = (f.ofArity k).map fun (i, c) => (i, c.stripped) := by
  rw [ofArity, ofArity, stripped, List.map_filterMap]
  simp only [List.getElem?_map, Option.map_map, Function.comp_def]

variable [Typed V τ]

theorem describe_stripped (f : Dispatcher ε V) : f.stripped.describe = f.describe := by
  funext v
  rw [describe, describe, stripped, Traced.findM?_map, bind_map_left]
  congr 1
  funext k?
  cases k? <;> rfl

theorem noMatch_stripped (f : Dispatcher ε V) (args : List V) :
    f.stripped.noMatch args = f.noMatch args := by
  rw [noMatch, noMatch, describe_stripped, stripped, List.map_map]
  simp only [Function.comp_def, Candidate.render_stripped]

/-- Without the identities of its guards a function does the same and records the same. -/
theorem call_stripped (f : Dispatcher ε V) (receiver : Option V) (args : List V) :
    f.stripped.call receiver args = f.call receiver args := by
  rw [call, call, select, select, ofArity_stripped, Traced.findM?_map]
  simp only [Candidate.accepts_stripped, bind_assoc, bind_map_left, noMatch_stripped]
  congr 1
  funext winner
  cases winner with
  | none => rfl
  | some p => simp only [Option.map_some, pure_bind, Candidate.convertArgs_stripped]; rfl

end Dispatcher

theorem map_eq_ok {f : α → β} {x : Except κ α} {b : β} :
    x.map f = .ok b ↔ ∃ a, x = .ok a ∧ f a = b := by
  cases x <;> simp [Except.map]

theorem map_eq_error {f : α → β} {x : Except κ α} {e : κ} :
    x.map f = .error e ↔ x = .error e := by
  cases x <;> simp [Except.map]

theorem map_mapM (p : β → γ) (f : α → Except κ β) (xs : List α) :
    (xs.mapM f).map (List.map p) = xs.mapM fun x => (f x).map p := by
  induction xs with
  | nil => rfl
  | cons x xs ih =>
    rw [List.mapM_cons, List.mapM_cons, ← ih]
    cases f x with
    | error e => rfl
    | ok y => cases xs.mapM f <;> rfl

theorem map_mapM_congr {p : β → γ} {f g : α → Except κ β} {xs : List α}
    (same : ∀ x ∈ xs, (f x).map p = (g x).map p) :
    (xs.mapM f).map (List.map p) = (xs.mapM g).map (List.map p) := by
  rw [map_mapM, map_mapM, mapM_congr same]

/-- Whatever comes after results that agree through `p` agrees through `q`, if it does so after each
two values that agree. -/
theorem map_bind_congr {δ : Type} {p : α → β} {q : γ → δ} {f g : α → Except κ γ}
    {x y : Except κ α} (same : x.map p = y.map p)
    (agree : ∀ a b, p a = p b → (f a).map q = (g b).map q) :
    (x >>= f).map q = (y >>= g).map q := by
  cases x with
  | error e =>
    cases y with
    | error e' => cases same; rfl
    | ok b => cases same
  | ok a =>
    cases y with
    | error e' => cases same
    | ok b => exact agree a b (Except.ok.inj same)

theorem map_bind_pure_congr {δ : Type} {p : α → β} {q : γ → δ} {f g : α → γ} {x y : Except κ α}
    (same : x.map p = y.map p) (agree : ∀ a b, p a = p b → q (f a) = q (g b)) :
    (x >>= fun a => pure (f a)).map q = (y >>= fun b => pure (g b)).map q :=
  map_bind_congr same fun a b eq => congrArg Except.ok (agree a b eq)

/-- Parameters are widened alike, types have the same names, and the guards of each run the same
tests. -/
structure Registry.SameTests [Typed V τ] [DecidableEq τ] (r s : Registry ε V τ) : Prop where
  accepted : ∀ declared, s.accepted declared = r.accepted declared
  name : ∀ t, s.name t = r.name t
  resolve : ∀ t, (s.resolve t).map Combined.stripped = (r.resolve t).map Combined.stripped

namespace Registry.SameTests

variable [Typed V τ] [DecidableEq τ] {r s : Registry ε V τ} (same : r.SameTests s)

include same

theorem member (a : Accepted ε V) : (Member.ofAccepted s a).map Member.stripped =
    (Member.ofAccepted r a).map Member.stripped :=
  map_bind_pure_congr (same.resolve a.token) fun _ _ guard =>
    congrArg (Member.mk a.token · a.convert?) guard

theorem slot (declared : List Token) : (Slot.compile s declared).map Slot.stripped =
    (Slot.compile r declared).map Slot.stripped := by
  rw [Slot.compile, Slot.compile, same.accepted, funext same.name]
  refine map_bind_pure_congr (map_mapM_congr fun a _ => same.member a) fun ms' ms members => ?_
  -- The label and the mark are read off what the members have in common.
  have names (ms : List (Member ε V)) (n : Nat) : (ms.take n).map (r.name ·.token) =
      ((ms.map Member.stripped).take n).map (r.name ·.token) := by
    rw [← List.map_take, List.map_map]
    rfl
  have length : ms'.length = ms.length := by simpa using congrArg List.length members
  rw [Slot.stripped, Slot.stripped, names ms', names ms, length, members]

theorem candidate (o : Overload ε V) : (Candidate.compile s o).map Candidate.stripped =
    (Candidate.compile r o).map Candidate.stripped := by
  have signature : (Signature.compile s o.params).map (fun g => g.slots.map Slot.stripped) =
      (Signature.compile r o.params).map fun g => g.slots.map Slot.stripped :=
    map_bind_pure_congr (map_mapM_congr fun declared _ => same.slot declared) fun _ _ => id
  exact map_bind_pure_congr signature fun _ _ slots => congrArg (Candidate.mk ⟨·⟩ o.method) slots

theorem known (t : Token) : (KnownType.ofToken s t).map KnownType.stripped =
    (KnownType.ofToken r t).map KnownType.stripped := by
  rw [KnownType.ofToken, KnownType.ofToken, same.name]
  exact map_bind_pure_congr (same.resolve t) fun _ _ guard => congrArg (KnownType.mk t _) guard

/-- A function fails to build with the same error, or differs in the identities of guards alone. -/
theorem build (d : Definition ε V) : (Dispatcher.build s d).map Dispatcher.stripped =
    (Dispatcher.build r d).map Dispatcher.stripped := by
  unfold Dispatcher.build
  split
  · rfl
  split
  · rfl
  refine map_bind_congr (map_mapM_congr fun o _ => same.candidate o) fun cs' cs parts => ?_
  -- Accepted types and arities are read off what the candidates have in common.
  have tokens : cs'.flatMap (·.signature.accepted) = cs.flatMap (·.signature.accepted) := by
    have each := congrArg (List.flatMap (·.signature.accepted)) parts
    simpa only [List.flatMap_map, Candidate.accepted_stripped] using each
  have arities : cs'.map (·.arity) = cs.map (·.arity) := by
    have each := congrArg (List.map (·.arity)) parts
    simpa only [List.map_map, Function.comp_def, Candidate.arity_stripped] using each
  rw [tokens, arities]
  refine map_bind_pure_congr (map_mapM_congr fun t _ => same.known t) fun ks' ks types => ?_
  rw [Dispatcher.stripped, Dispatcher.stripped, parts, types]

end Registry.SameTests

end MultiDispatch

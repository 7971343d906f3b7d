import MultiDispatch.Proofs.Selection

/-! The arity index only spares questions that run nothing. Asking every candidate in turn finds the
same winner and runs the same guards. -/
namespace MultiDispatch

open Traced

variable {ε V τ : Type}

/-- One test, one edge's converter or one method, with what it is run on. A list of steps tells what
was run even where nothing was recorded. -/
inductive Step (ε V : Type) where
  | test (test : Test ε V) (v : V)
  | convert (edge : Edge ε V) (v : V)
  | run (method : Method ε V) (receiver : Option V) (args : List V)

def Step.log : Step ε V → List ε
  | test t v => (t v).log
  | convert e v => (e.converter.apply v).log
  | run m receiver args => (m receiver args).log

namespace Candidate

/-- The slot guards that the candidate runs on the arguments, up to the first that refuses. -/
def asked (c : Candidate ε V) (args : List V) : List (Step ε V) :=
  if args.length = c.arity then
    (upToFirst (fun (s, v) => !(s.guard.test v).val) (c.signature.slots.zip args)).map
      fun (s, v) => .test s.guard.test v
  else []

theorem accepts_of_arity_ne {c : Candidate ε V} {args : List V} (other : c.arity ≠ args.length) :
    c.accepts args = pure false := by
  refine tuple_of_length_ne ?_
  rw [List.length_map]
  exact Ne.symm other

theorem log_accepts (c : Candidate ε V) (args : List V) :
    (c.accepts args).log = (c.asked args).flatMap Step.log := by
  by_cases same : args.length = c.arity
  · have fitting : args.length = (c.signature.slots.map (·.guard.test)).length := by
      rw [List.length_map]
      exact same
    rw [asked, if_pos same, accepts, Signature.accepts, tuple, if_pos fitting, log_allM,
      List.zip_map_left, upToFirst_map, List.flatMap_map, List.flatMap_map]
    rfl
  · rw [accepts_of_arity_ne (Ne.symm same), asked, if_neg same]
    rfl

end Candidate

namespace Dispatcher

/-- The candidates with their positions. -/
def placed (f : Dispatcher ε V) : List (Nat × Candidate ε V) :=
  f.candidates.zipIdx.map Prod.swap

/-- The first candidate that accepts, when each is asked in turn whatever its arity. -/
def scan (f : Dispatcher ε V) (args : List V) : Traced ε (Option (Nat × Candidate ε V)) :=
  f.placed.findM? (·.2.accepts args)

/-- The slot guards that are run while candidates are asked, up to the first that accepts. -/
def asked (cs : List (Candidate ε V)) (args : List V) : List (Step ε V) :=
  (upToFirst (fun c => (c.accepts args).val) cs).flatMap (·.asked args)

theorem log_findM?_accepts (cs : List (Nat × Candidate ε V)) (args : List V) :
    (cs.findM? fun c : Nat × Candidate ε V => c.2.accepts args).log =
      (asked (cs.map (·.2)) args).flatMap Step.log := by
  rw [log_findM?, asked, upToFirst_map, List.flatMap_map, List.flatMap_assoc]
  simp only [Candidate.log_accepts]

theorem map_placed (f : Dispatcher ε V) : f.placed.map (·.2) = f.candidates := by
  rw [placed, List.map_map]
  exact List.zipIdx_map_fst 0 f.candidates

section Indexed

variable {f : Dispatcher ε V} (indexed : f.index = .ofArities (f.candidates.map (·.arity)))

include indexed

theorem ofArity_eq_filter (k : Nat) : f.ofArity k = f.placed.filter (·.2.arity = k) := by
  rw [ofArity_eq indexed, placed, List.filter_map]
  rfl

theorem findM?_ofArity (args : List V) :
    (f.ofArity args.length).findM? (·.2.accepts args) = f.scan args := by
  rw [ofArity_eq_filter indexed]
  exact findM?_filter fun c other => Candidate.accepts_of_arity_ne (of_decide_eq_false other)

theorem map_ofArity (k : Nat) : (f.ofArity k).map (·.2) = f.candidates.filter (·.arity = k) := by
  rw [ofArity_eq_filter indexed, ← f.map_placed, List.filter_map]
  rfl

theorem asked_ofArity (args : List V) :
    asked ((f.ofArity args.length).map (·.2)) args = asked f.candidates args := by
  rw [map_ofArity indexed]
  refine flatMap_upToFirst_filter fun c other => ?_
  have differs := of_decide_eq_false other
  constructor
  · rw [Candidate.accepts_of_arity_ne differs]
    rfl
  · rw [Candidate.asked, if_neg (Ne.symm differs)]

end Indexed

variable [Typed V τ] [DecidableEq τ]

/-- Selection by arity is the scan of all candidates: it has the same outcome and the same record,
and up to the decision it runs the same guards on the same arguments in the same order. -/
theorem select_eq_scan (r : Registry ε V τ) (d : Definition ε V) (f : Dispatcher ε V)
    (built : build r d = .ok f) (args : List V) :
    f.select args = (do
      match ← f.scan args with
      | some winner => return .ok winner
      | none => return .error (← f.noMatch args)) ∧
      (f.ofArity args.length).findM? (·.2.accepts args) = f.scan args ∧
      asked ((f.ofArity args.length).map (·.2)) args = asked f.candidates args ∧
      (f.scan args).log = (asked f.candidates args).flatMap Step.log := by
  obtain ⟨_, _, _, _, indexed, _⟩ := build_eq_ok.1 built
  refine ⟨?_, findM?_ofArity indexed args, asked_ofArity indexed args, ?_⟩
  · rw [← findM?_ofArity indexed]
    rfl
  · rw [scan, log_findM?_accepts, map_placed]

end Dispatcher

namespace Amount

theorem measure_scans : ∃ f c, Dispatcher.build units measure = .ok f ∧
    (f.scan [⟨3, 1⟩, ⟨3, 1⟩]).val = some (1, c) ∧ f.candidates[1]? = some c := by
  unfold Dispatcher.build Candidate.compile Signature.compile Slot.compile
  simp only [Registry.accepted_eq_widening]
  exact ⟨_, _, rfl, rfl, rfl⟩

theorem select_eq_scan_units : ∃ f c, Dispatcher.build units measure = .ok f ∧
    f.candidates[1]? = some c ∧ (f.scan [⟨3, 1⟩, ⟨3, 1⟩]).val = some (1, c) ∧
    (f.select [⟨3, 1⟩, ⟨3, 1⟩]).val = .ok (1, c) ∧
    (f.ofArity 2).findM? (·.2.accepts [⟨3, 1⟩, ⟨3, 1⟩]) = f.scan [⟨3, 1⟩, ⟨3, 1⟩] ∧
    Dispatcher.asked ((f.ofArity 2).map (·.2)) [⟨3, 1⟩, ⟨3, 1⟩] =
      Dispatcher.asked f.candidates [⟨3, 1⟩, ⟨3, 1⟩] := by
  obtain ⟨f, c, built, winner, second⟩ := measure_scans
  obtain ⟨select, decision, guards, _⟩ :=
    Dispatcher.select_eq_scan units measure f built [⟨3, 1⟩, ⟨3, 1⟩]
  refine ⟨f, c, built, second, winner, ?_, decision, guards⟩
  rw [select, val_bind, winner]
  rfl

end Amount

end MultiDispatch

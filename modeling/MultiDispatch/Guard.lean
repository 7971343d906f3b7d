import MultiDispatch.Token
import MultiDispatch.Traced
import MultiDispatch.Typed

/-! Guards are predicates on one value that keep an identity, so that a registry can tell a guard it
already holds from another one with the same answers. Guards combine by `intersect` and `union`, and
a list of guards checks an argument list by `tuple`; all three stop at the first guard that settles
the answer. -/
namespace MultiDispatch

variable {ε V τ : Type}

abbrev Test (ε V : Type) := V → Traced ε Bool

/-- Where a guard came from. A host numbers the guards it makes; the guard that a registry seeds for
a type is known by that type's token. -/
inductive Identity where
  | made (serial : Nat)
  | seeded (token : Token)
deriving DecidableEq

structure Guard (ε V : Type) where
  identity : Identity
  test : Test ε V

/-- Accepts the values of one run-time type. -/
def instanceTest [Typed V τ] [DecidableEq τ] (type : τ) : Test ε V :=
  fun v => pure (decide (Typed.typeOf v = type))

/-- Result of combining guards: one of them unchanged, or a new test that has no identity yet. -/
inductive Combined (ε V : Type) where
  | same (guard : Guard ε V)
  | new (test : Test ε V)

namespace Combined

def test : Combined ε V → Test ε V
  | same g => g.test
  | new t => t

/-- The result as a guard. Only a new test takes the given number as its identity. -/
def named (serial : Nat) : Combined ε V → Guard ε V
  | same g => g
  | new t => ⟨.made serial, t⟩

@[simp] theorem test_same (g : Guard ε V) : (same g).test = g.test := rfl
@[simp] theorem test_new (t : Test ε V) : (new t).test = t := rfl

@[simp] theorem test_named (serial : Nat) (c : Combined ε V) : (c.named serial).test = c.test := by
  cases c <;> rfl

/-- Accepts what every part accepts. No part accepts everything; a single part is returned as it
is. -/
def intersect : List (Combined ε V) → Combined ε V
  | [] => new fun _ => pure true
  | [c] => c
  | cs => new fun v => cs.allM (·.test v)

/-- Accepts what some part accepts. No part accepts nothing; a single part is returned as it is. -/
def union : List (Combined ε V) → Combined ε V
  | [] => new fun _ => pure false
  | [c] => c
  | cs => new fun v => cs.anyM (·.test v)

/-- The shortcuts for few parts change neither the answer nor what is run. -/
theorem intersect_test (cs : List (Combined ε V)) (v : V) :
    (intersect cs).test v = cs.allM (·.test v) := by
  match cs with
  | [] => rfl
  | [c] => apply Traced.ext <;> cases h : (c.test v).val <;> simp [intersect, List.allM, h]
  | _ :: _ :: _ => rfl

theorem union_test (cs : List (Combined ε V)) (v : V) :
    (union cs).test v = cs.anyM (·.test v) := by
  match cs with
  | [] => rfl
  | [c] => apply Traced.ext <;> cases h : (c.test v).val <;> simp [union, List.anyM, h]
  | _ :: _ :: _ => rfl

end Combined

/-- Accepts an argument list of exactly as many values as there are tests, each accepted at its
position. No test runs when the lengths differ. -/
def tuple (tests : List (Test ε V)) (args : List V) : Traced ε Bool :=
  if args.length = tests.length then (tests.zip args).allM fun (test, v) => test v
  else pure false

theorem tuple_of_length_ne {tests : List (Test ε V)} {args : List V}
    (h : args.length ≠ tests.length) : tuple tests args = pure false := by
  simp [tuple, h]

end MultiDispatch

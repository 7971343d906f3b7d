/-! An arity index finds the candidates of one arity without asking the others. Each arity that
occurs has a bucket of positions, in ascending order. -/
namespace MultiDispatch

structure ArityIndex where
  buckets : List (Nat × List Nat) := []
deriving DecidableEq

namespace ArityIndex

/-- The positions filed under an arity. -/
def lookup (x : ArityIndex) (arity : Nat) : List Nat := (x.buckets.lookup arity).getD []

/-- Files a position in the bucket of its arity. -/
def file (arity position : Nat) : List (Nat × List Nat) → List (Nat × List Nat)
  | [] => [(arity, [position])]
  | (a, ps) :: buckets =>
    if a = arity then (a, ps ++ [position]) :: buckets else (a, ps) :: file arity position buckets

def insert (x : ArityIndex) (arity position : Nat) : ArityIndex := ⟨file arity position x.buckets⟩

@[simp] theorem lookup_empty (arity : Nat) : lookup {} arity = [] := rfl

theorem lookup_insert (x : ArityIndex) (arity position k : Nat) :
    (x.insert arity position).lookup k =
      if k = arity then x.lookup k ++ [position] else x.lookup k := by
  obtain ⟨buckets⟩ := x
  have other {a : Nat} (h : k ≠ a) : (k == a) = false := beq_eq_false_iff_ne.2 h
  simp only [lookup, insert]
  induction buckets with
  | nil =>
    by_cases h : k = arity
    · simp [file, h]
    · simp [file, List.lookup_cons, h, other h]
  | cons b buckets ih =>
    obtain ⟨a, ps⟩ := b
    by_cases ha : a = arity
    · subst ha
      by_cases hk : k = a
      · simp [file, hk]
      · simp [file, List.lookup_cons, hk, other hk]
    · by_cases hk : k = a
      · simp [file, hk, ha]
      · simpa [file, List.lookup_cons, ha, other hk] using ih

/-- Files each arity of a list under its position, starting at the given one. -/
def fileAll (x : ArityIndex) : List Nat → Nat → ArityIndex
  | [], _ => x
  | arity :: arities, position => (x.insert arity position).fileAll arities (position + 1)

def ofArities (arities : List Nat) : ArityIndex := fileAll {} arities 0

end ArityIndex

end MultiDispatch

import MultiDispatch.Registry.Basic

/-! The types that a parameter accepts. Declared types are accepted as they are. Beyond them,
every edge into an accepted type adds its source, unless that is accepted already; the settings say
whether only edges into declared types count, or edges into added types too. Types are listed in the
order in which they were reached, so the first conversion found for a type is the one it keeps. -/
namespace MultiDispatch

variable {ε V τ : Type}

/-- An accepted type, with the conversion that leads to a declared one; a declared type has none. -/
structure Accepted (ε V : Type) where
  token : Token
  convert? : Option (Conversion ε V)

namespace Accepted

/-- Declared types, each once, in the order of their first occurrence. -/
def declared (tokens : List Token) : List (Accepted ε V) :=
  tokens.eraseDups.map fun t => ⟨t, none⟩

/-- The types that edges add to those seen, in edge order. Values of an added type go through its
edge, then onward. -/
def sources (onward : Option (Conversion ε V)) (seen : List Token) :
    List (Edge ε V) → List (Accepted ε V)
  | [] => []
  | e :: es =>
    if e.source ∈ seen then sources onward seen es
    else ⟨e.source, some (e.through onward)⟩ :: sources onward (e.source :: seen) es

end Accepted

namespace Registry

/-- The types that one accepted type adds to those seen. -/
def reachedFrom (r : Registry ε V τ) (seen : List Token) (a : Accepted ε V) :
    List (Accepted ε V) :=
  Accepted.sources a.convert? seen (r.edgesInto a.token)

/-- Declared types in turn add the sources of their edges. -/
def widenOnce (r : Registry ε V τ) : List Token → List (Accepted ε V) → List (Accepted ε V)
  | [], found => found
  | t :: ts, found => r.widenOnce ts (found ++ r.reachedFrom (found.map (·.token)) ⟨t, none⟩)

/-- Sources of edges that have not been seen. Each type still to be added is one of them. -/
def unseen (r : Registry ε V τ) (seen : List Token) : List Token :=
  (r.edges.map (·.source)).filter (· ∉ seen)

theorem unseen_congr (r : Registry ε V τ) {s u : List Token} (h : ∀ t, t ∈ s ↔ t ∈ u) :
    r.unseen s = r.unseen u := by
  simp [unseen, h]

theorem length_unseen_cons (r : Registry ε V τ) {seen : List Token} {t : Token}
    (ht : t ∈ r.edges.map (·.source)) (hn : t ∉ seen) :
    (r.unseen (t :: seen)).length + 1 ≤ (r.unseen seen).length := by
  unfold unseen
  generalize r.edges.map (·.source) = xs at ht
  induction xs with
  | nil => cases ht
  | cons x xs ih =>
    have hle : (xs.filter (· ∉ t :: seen)).length ≤ (xs.filter (· ∉ seen)).length := by
      simp only [← List.countP_eq_length_filter]
      exact List.countP_mono_left fun u _ hu => by simp at hu ⊢; exact hu.2
    by_cases hx : x = t
    · subst hx
      simp [hn]
      simpa using hle
    · have ih := ih (by simpa [Ne.symm hx] using ht)
      by_cases hs : x ∈ seen <;> simp [hx, hs] at ih ⊢ <;> exact ih

/-- What one type adds uses up as many unseen sources. -/
theorem length_unseen_sources (r : Registry ε V τ) (onward : Option (Conversion ε V))
    (seen : List Token) (es : List (Edge ε V)) (hes : ∀ e ∈ es, e ∈ r.edges) :
    (r.unseen (seen ++ (Accepted.sources onward seen es).map (·.token))).length +
      (Accepted.sources onward seen es).length ≤ (r.unseen seen).length := by
  induction es generalizing seen with
  | nil => simp [Accepted.sources]
  | cons e es ih =>
    have hes' : ∀ e' ∈ es, e' ∈ r.edges := fun e' h => hes e' (List.mem_cons_of_mem _ h)
    rw [Accepted.sources]
    split
    · exact ih seen hes'
    · rename_i hn
      have step := ih (e.source :: seen) hes'
      have one := r.length_unseen_cons (List.mem_map_of_mem (hes e List.mem_cons_self)) hn
      have same := r.unseen_congr (s := seen ++ e.source ::
          (Accepted.sources onward (e.source :: seen) es).map (·.token))
        (u := e.source :: seen ++
          (Accepted.sources onward (e.source :: seen) es).map (·.token)) (by simp [or_left_comm])
      simp only [List.map_cons, List.length_cons, same]
      omega

/-- Accepted types in turn add the sources of their edges, until none is left to look at. -/
def widenAll (r : Registry ε V τ) (done : List (Accepted ε V)) :
    List (Accepted ε V) → List (Accepted ε V)
  | [] => done
  | a :: pending =>
    let seen := (done ++ a :: pending).map (·.token)
    r.widenAll (done ++ [a]) (pending ++ r.reachedFrom seen a)
termination_by pending => (r.unseen ((done ++ pending).map (·.token))).length + pending.length
decreasing_by
  have h := r.length_unseen_sources a.convert? ((done ++ a :: pending).map (·.token))
    (r.edgesInto a.token) (fun _ => mem_edges_of_mem_edgesInto)
  simp [reachedFrom] at h ⊢
  omega

/-- The types that a parameter with the given declared types accepts, in slot order. -/
def accepted (r : Registry ε V τ) (declared : List Token) : List (Accepted ε V) :=
  match r.settings.reach with
  | .singleHop => r.widenOnce declared (Accepted.declared declared)
  | .transitive => r.widenAll [] (Accepted.declared declared)

end Registry

end MultiDispatch

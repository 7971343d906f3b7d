import MultiDispatch.Widening
import Mathlib.Data.List.Perm.Subperm

/-! Widening in rounds. The widening loops look at one accepted type after the other; a round looks
at all of them at once and then forgets how far it got. Both list the same types in the same order
with the same conversions: one round for a single hop, and for chains of any length as many rounds
as there are edges. -/
namespace MultiDispatch

variable {ε V τ : Type}

namespace Accepted

/-- The first entry of each token that is not seen yet. -/
def fresh : List Token → List (Accepted ε V) → List (Accepted ε V)
  | _, [] => []
  | seen, a :: as => if a.token ∈ seen then fresh seen as else a :: fresh (a.token :: seen) as

theorem fresh_congr {s u : List Token} (same : ∀ t, t ∈ s ↔ t ∈ u) (as : List (Accepted ε V)) :
    fresh s as = fresh u as := by
  induction as generalizing s u with
  | nil => rfl
  | cons a as ih =>
    have inner : fresh (a.token :: s) as = fresh (a.token :: u) as := ih (by simp [same])
    simp only [fresh, same, ih same, inner]

theorem mem_map_fresh {seen : List Token} {as : List (Accepted ε V)} {t : Token} :
    t ∈ (fresh seen as).map (·.token) ↔ t ∉ seen ∧ t ∈ as.map (·.token) := by
  induction as generalizing seen with
  | nil => simp [fresh]
  | cons a as ih =>
    by_cases held : a.token ∈ seen
    · rw [fresh, if_pos held, ih, List.map_cons, List.mem_cons]
      constructor
      · rintro ⟨new, member⟩
        exact ⟨new, .inr member⟩
      · rintro ⟨new, rfl | member⟩
        · exact absurd held new
        · exact ⟨new, member⟩
    · rw [fresh, if_neg held, List.map_cons, List.mem_cons, ih, List.map_cons, List.mem_cons]
      by_cases same : t = a.token
      · subst same; simp [held]
      · simp [same]

theorem nodup_fresh (seen : List Token) (as : List (Accepted ε V)) :
    ((fresh seen as).map (·.token)).Nodup := by
  induction as generalizing seen with
  | nil => simp [fresh]
  | cons a as ih =>
    rw [fresh]
    split
    · exact ih seen
    · refine List.nodup_cons.2 ⟨fun member => ?_, ih _⟩
      exact (mem_map_fresh.1 member).1 List.mem_cons_self

theorem fresh_append (seen : List Token) (as bs : List (Accepted ε V)) :
    fresh seen (as ++ bs) = fresh seen as ++ fresh (seen ++ as.map (·.token)) bs := by
  induction as generalizing seen with
  | nil => simp [fresh]
  | cons a as ih =>
    by_cases held : a.token ∈ seen
    · have same : fresh (seen ++ (a :: as).map (·.token)) bs =
          fresh (seen ++ as.map (·.token)) bs := by
        apply fresh_congr
        intro t
        by_cases eq : t = a.token
        · subst eq; simp [held]
        · simp [eq]
      rw [same, List.cons_append, fresh, fresh, if_pos held, if_pos held, ih]
    · have same : fresh (seen ++ (a :: as).map (·.token)) bs =
          fresh (a.token :: seen ++ as.map (·.token)) bs := by
        apply fresh_congr
        simp [or_left_comm]
      rw [same, List.cons_append, fresh, fresh, if_neg held, if_neg held, ih]
      rfl

theorem fresh_eq_nil {seen : List Token} {as : List (Accepted ε V)} :
    fresh seen as = [] ↔ ∀ a ∈ as, a.token ∈ seen := by
  constructor
  · intro empty a member
    by_cases held : a.token ∈ seen
    · exact held
    · have := mem_map_fresh.2 ⟨held, List.mem_map_of_mem member⟩
      simp [empty] at this
  · intro held
    refine List.eq_nil_iff_forall_not_mem.2 fun a member => ?_
    obtain ⟨new, old⟩ := mem_map_fresh.1 (List.mem_map_of_mem member)
    obtain ⟨b, bm, eq⟩ := List.mem_map.1 old
    exact new (eq ▸ held b bm)

theorem fresh_after (found as bs : List (Accepted ε V)) :
    fresh ((found ++ fresh (found.map (·.token)) as).map (·.token)) bs =
      fresh (found.map (·.token) ++ as.map (·.token)) bs := by
  apply fresh_congr
  intro t
  rw [List.map_append, List.mem_append, List.mem_append, mem_map_fresh]
  by_cases held : t ∈ found.map (·.token) <;> simp [held]

/-- Entries of tokens that are seen already may be left out. -/
theorem fresh_append_of_seen {seen : List Token} {as : List (Accepted ε V)}
    (held : ∀ a ∈ as, a.token ∈ seen) (bs : List (Accepted ε V)) :
    fresh seen (as ++ bs) = fresh seen bs := by
  rw [fresh_append, fresh_eq_nil.2 held, List.nil_append]
  apply fresh_congr
  intro t
  constructor
  · intro member
    rcases List.mem_append.1 member with old | new
    · exact old
    · obtain ⟨a, am, rfl⟩ := List.mem_map.1 new
      exact held a am
  · exact List.mem_append_left _

/-- A kept entry is the first of its token. -/
theorem find?_of_mem_fresh {seen : List Token} {as : List (Accepted ε V)} {a : Accepted ε V}
    (member : a ∈ fresh seen as) : as.find? (·.token = a.token) = some a := by
  induction as generalizing seen with
  | nil => simp [fresh] at member
  | cons b as ih =>
    rw [fresh] at member
    split at member
    · rename_i held
      have new := (mem_map_fresh.1 (List.mem_map_of_mem member)).1
      have other : b.token ≠ a.token := fun eq => new (eq ▸ held)
      simp [other, ih member]
    · rcases List.mem_cons.1 member with rfl | member
      · simp
      · have new := (mem_map_fresh.1 (List.mem_map_of_mem member)).1
        have other : b.token ≠ a.token := fun eq => new (eq ▸ List.mem_cons_self)
        simp [other, ih member]

theorem sources_eq_fresh (onward : Option (Conversion ε V)) (seen : List Token)
    (es : List (Edge ε V)) :
    sources onward seen es =
      fresh seen (es.map fun e => ⟨e.source, some (e.through onward)⟩) := by
  induction es generalizing seen with
  | nil => rfl
  | cons e es ih => simp only [sources, List.map_cons, fresh, ih]

/-- Declared types are what remains of the declared list when repetitions are left out. -/
theorem declared_eq_fresh (ts : List Token) :
    (declared ts : List (Accepted ε V)) = fresh [] (ts.map (⟨·, none⟩)) := by
  have general (seen : List Token) : fresh seen (ts.map fun t => (⟨t, none⟩ : Accepted ε V)) =
      declared (ts.filter (· ∉ seen)) := by
    induction ts generalizing seen with
    | nil => simp [fresh, declared]
    | cons t ts ih =>
      by_cases held : t ∈ seen
      · simp [fresh, held, ih]
      · have rest : (ts.filter (· ∉ seen)).filter (fun u => !u == t) =
            ts.filter (· ∉ t :: seen) := by
          rw [List.filter_filter]
          apply List.filter_congr
          intro u _
          by_cases eq : u = t <;> simp [eq]
        rw [List.map_cons, fresh, if_neg held, ih, List.filter_cons_of_pos (by simpa using held),
          declared, declared, List.eraseDups_cons, rest, List.map_cons]
  rw [general, List.filter_eq_self.2 (by simp)]

theorem map_declared (ts : List Token) :
    (declared ts : List (Accepted ε V)).map (·.token) = ts.eraseDups := by
  simp [declared, Function.comp_def]

theorem mem_declared {ts : List Token} {a : Accepted ε V} :
    a ∈ declared ts ↔ a.token ∈ ts ∧ a.convert? = none := by
  obtain ⟨t, c⟩ := a
  simp only [declared, List.mem_map, List.mem_eraseDups, mk.injEq]
  constructor
  · rintro ⟨u, member, rfl, rfl⟩
    exact ⟨member, rfl⟩
  · rintro ⟨member, rfl⟩
    exact ⟨t, member, rfl, rfl⟩

theorem nodup_declared (ts : List Token) :
    ((declared ts : List (Accepted ε V)).map (·.token)).Nodup := by
  rw [declared_eq_fresh]
  exact nodup_fresh _ _

end Accepted

namespace Registry

/-- What the edges into an accepted type have to add: their sources, each with its conversion. -/
def offers (r : Registry ε V τ) (a : Accepted ε V) : List (Accepted ε V) :=
  (r.edgesInto a.token).map fun e => ⟨e.source, some (e.through a.convert?)⟩

def gained (r : Registry ε V τ) (found : List (Accepted ε V)) : List (Accepted ε V) :=
  Accepted.fresh (found.map (·.token)) (found.flatMap r.offers)

/-- Every accepted type adds the sources of its edges that are not accepted yet. -/
def round (r : Registry ε V τ) (found : List (Accepted ε V)) : List (Accepted ε V) :=
  found ++ r.gained found

def rounds (r : Registry ε V τ) (found : List (Accepted ε V)) : Nat → List (Accepted ε V)
  | 0 => found
  | n + 1 => r.round (r.rounds found n)

/-- The accepted types by rounds. Every round but the last uses up an edge, so as many rounds as
there are edges find all of them. -/
def widening (r : Registry ε V τ) (declared : List Token) : List (Accepted ε V) :=
  match r.settings.reach with
  | .singleHop => r.round (Accepted.declared declared)
  | .transitive => r.rounds (Accepted.declared declared) r.edges.length

theorem mem_offers {r : Registry ε V τ} {a b : Accepted ε V} :
    b ∈ r.offers a ↔
      ∃ e ∈ r.edgesInto a.token, e.source = b.token ∧ b.convert? = some (e.through a.convert?) := by
  obtain ⟨t, c⟩ := b
  simp only [offers, List.mem_map, Accepted.mk.injEq]
  constructor
  · rintro ⟨e, member, source, rfl⟩
    exact ⟨e, member, source, rfl⟩
  · rintro ⟨e, member, source, rfl⟩
    exact ⟨e, member, source, rfl⟩

theorem mem_map_round {r : Registry ε V τ} {found : List (Accepted ε V)} {t : Token} :
    t ∈ (r.round found).map (·.token) ↔ t ∈ found.map (·.token) ∨
      ∃ a ∈ found, ∃ e ∈ r.edgesInto a.token, e.source = t := by
  have offered : t ∈ (found.flatMap r.offers).map (·.token) ↔
      ∃ a ∈ found, ∃ e ∈ r.edgesInto a.token, e.source = t := by
    simp [List.map_flatMap, offers]
  rw [round, gained, List.map_append, List.mem_append, Accepted.mem_map_fresh, offered]
  by_cases held : t ∈ found.map (·.token) <;> simp [held]

theorem nodup_round {r : Registry ε V τ} {found : List (Accepted ε V)}
    (nodup : (found.map (·.token)).Nodup) : ((r.round found).map (·.token)).Nodup := by
  rw [round, gained, List.map_append, List.nodup_append]
  refine ⟨nodup, Accepted.nodup_fresh _ _, ?_⟩
  rintro t old u new rfl
  exact (Accepted.mem_map_fresh.1 new).1 old

theorem prefix_rounds (r : Registry ε V τ) (found : List (Accepted ε V)) {m n : Nat}
    (le : m ≤ n) : r.rounds found m <+: r.rounds found n := by
  induction le with
  | refl => exact List.prefix_rfl
  | step _ ih => exact ih.trans (List.prefix_append _ _)

theorem nodup_rounds (r : Registry ε V τ) (ts : List Token) (n : Nat) :
    ((r.rounds (Accepted.declared ts) n).map (·.token)).Nodup := by
  induction n with
  | zero => exact Accepted.nodup_declared ts
  | succ n ih => exact nodup_round ih

theorem rounds_subset (r : Registry ε V τ) (found : List (Accepted ε V)) (n : Nat) :
    (r.rounds found n).map (·.token) ⊆ found.map (·.token) ++ r.edges.map (·.source) := by
  induction n with
  | zero => exact List.subset_append_left _ _
  | succ n ih =>
    intro t member
    rcases mem_map_round.1 member with old | ⟨a, _, e, into, rfl⟩
    · exact ih old
    · exact List.mem_append_right _ (List.mem_map_of_mem (mem_edges_of_mem_edgesInto into))

/-- As long as rounds gain anything, the list is longer than the number of rounds. -/
theorem gained_rounds (r : Registry ε V τ) (found : List (Accepted ε V)) (n : Nat) :
    r.gained (r.rounds found n) = [] ∨ found.length + n < (r.rounds found (n + 1)).length := by
  have grows (n : Nat) (gains : r.gained (r.rounds found n) ≠ []) :
      (r.rounds found n).length < (r.rounds found (n + 1)).length := by
    have := List.length_pos_iff.2 gains
    simp only [rounds, round, List.length_append]
    omega
  induction n with
  | zero =>
    by_cases gains : r.gained (r.rounds found 0) = []
    · exact .inl gains
    · exact .inr (grows 0 gains)
  | succ n ih =>
    by_cases gains : r.gained (r.rounds found (n + 1)) = []
    · exact .inl gains
    · have more := grows (n + 1) gains
      rcases ih with stopped | long
      · have same : r.rounds found (n + 1) = r.rounds found n := by simp [rounds, round, stopped]
        exact absurd (same ▸ stopped) gains
      · exact .inr (by omega)

theorem gained_rounds_edges (r : Registry ε V τ) (ts : List Token) :
    r.gained (r.rounds (Accepted.declared ts) r.edges.length) = [] := by
  rcases r.gained_rounds (Accepted.declared ts) r.edges.length with stopped | long
  · exact stopped
  · have bound := (List.subperm_of_subset (r.nodup_rounds ts (r.edges.length + 1))
      (r.rounds_subset (Accepted.declared ts) (r.edges.length + 1))).length_le
    simp only [List.length_map, List.length_append] at bound
    omega

theorem reachedFrom_eq_fresh (r : Registry ε V τ) (seen : List Token) (a : Accepted ε V) :
    r.reachedFrom seen a = Accepted.fresh seen (r.offers a) :=
  Accepted.sources_eq_fresh ..

theorem widenOnce_eq_fresh (r : Registry ε V τ) (ts : List Token) (found : List (Accepted ε V)) :
    r.widenOnce ts found = found ++ Accepted.fresh (found.map (·.token))
      (ts.flatMap fun t => r.offers ⟨t, none⟩) := by
  induction ts generalizing found with
  | nil => simp [widenOnce, Accepted.fresh]
  | cons t ts ih =>
    rw [widenOnce, ih, reachedFrom_eq_fresh, Accepted.fresh_after, List.flatMap_cons,
      Accepted.fresh_append, List.append_assoc]

/-- The loop may look at several types in a row before it appends what they add. -/
theorem widenAll_append (r : Registry ε V τ) (done now later : List (Accepted ε V)) :
    r.widenAll done (now ++ later) = r.widenAll (done ++ now)
      (later ++ Accepted.fresh ((done ++ now ++ later).map (·.token)) (now.flatMap r.offers)) := by
  induction now generalizing done later with
  | nil => simp [Accepted.fresh]
  | cons a now ih =>
    have seen : done ++ [a] ++ now ++ (later ++ r.reachedFrom
        ((done ++ a :: (now ++ later)).map (·.token)) a) =
        (done ++ a :: now ++ later) ++
          Accepted.fresh ((done ++ a :: now ++ later).map (·.token)) (r.offers a) := by
      simp [reachedFrom_eq_fresh]
    rw [List.cons_append, widenAll, List.append_assoc now, ih, seen, Accepted.fresh_after,
      List.flatMap_cons, Accepted.fresh_append, reachedFrom_eq_fresh]
    simp

/-- What a round adds comes from the types that the round before it added. -/
theorem gained_round (r : Registry ε V τ) (found : List (Accepted ε V)) :
    r.gained (r.round found) =
      Accepted.fresh ((r.round found).map (·.token)) ((r.gained found).flatMap r.offers) := by
  have held : ∀ b ∈ found.flatMap r.offers, b.token ∈ (r.round found).map (·.token) := by
    intro b member
    obtain ⟨a, am, bm⟩ := List.mem_flatMap.1 member
    obtain ⟨e, into, source, _⟩ := mem_offers.1 bm
    exact mem_map_round.2 (.inr ⟨a, am, e, into, source⟩)
  have split : (r.round found).flatMap r.offers =
      found.flatMap r.offers ++ (r.gained found).flatMap r.offers := List.flatMap_append
  rw [gained, split, Accepted.fresh_append_of_seen held]

theorem widenAll_eq_rounds (r : Registry ε V τ) (found : List (Accepted ε V)) (n : Nat) :
    r.widenAll [] found = r.widenAll (r.rounds found n) (r.gained (r.rounds found n)) := by
  induction n with
  | zero =>
    have step := r.widenAll_append [] found []
    rw [List.append_nil, List.append_nil, List.nil_append] at step
    exact step
  | succ n ih =>
    have step := r.widenAll_append (r.rounds found n) (r.gained (r.rounds found n)) []
    rw [List.append_nil, List.append_nil, List.nil_append] at step
    rw [ih, step, rounds, gained_round]
    rfl

/-- A type that is listed again has nothing to add. -/
theorem fresh_flatMap_fresh (r : Registry ε V τ) (seen listed : List Token)
    (as : List (Accepted ε V))
    (held : ∀ a ∈ as, a.token ∈ listed → ∀ b ∈ r.offers a, b.token ∈ seen) :
    Accepted.fresh seen ((Accepted.fresh listed as).flatMap r.offers) =
      Accepted.fresh seen (as.flatMap r.offers) := by
  induction as generalizing seen listed with
  | nil => rfl
  | cons a as ih =>
    have rest : ∀ b ∈ as, b.token ∈ listed → ∀ c ∈ r.offers b, c.token ∈ seen :=
      fun b member => held b (List.mem_cons_of_mem _ member)
    rw [Accepted.fresh, List.flatMap_cons]
    split
    · rename_i old
      rw [Accepted.fresh_append_of_seen (held a List.mem_cons_self old), ih seen listed rest]
    · rw [List.flatMap_cons, Accepted.fresh_append, Accepted.fresh_append, ih]
      intro b member old c offered
      rcases List.mem_cons.1 old with same | old
      · obtain ⟨e, into, source, _⟩ := mem_offers.1 offered
        have again : ⟨e.source, some (e.through a.convert?)⟩ ∈ r.offers a :=
          mem_offers.2 ⟨e, same ▸ into, rfl, rfl⟩
        exact List.mem_append_right _ (List.mem_map.2 ⟨_, again, source⟩)
      · exact List.mem_append_left _ (rest b member old c offered)

theorem accepted_eq_widening (r : Registry ε V τ) (declared : List Token) :
    r.accepted declared = r.widening declared := by
  unfold accepted widening
  cases r.settings.reach with
  | singleHop =>
    have offered : (declared.map (⟨·, none⟩)).flatMap r.offers =
        declared.flatMap fun t => r.offers ⟨t, none⟩ := List.flatMap_map ..
    have once := r.fresh_flatMap_fresh declared.eraseDups []
      (declared.map (⟨·, none⟩)) (by simp)
    rw [← Accepted.declared_eq_fresh, offered] at once
    show r.widenOnce declared (Accepted.declared declared) = r.round (Accepted.declared declared)
    rw [widenOnce_eq_fresh, round, gained, Accepted.map_declared, once]
  | transitive =>
    show r.widenAll [] (Accepted.declared declared) =
      r.rounds (Accepted.declared declared) r.edges.length
    rw [widenAll_eq_rounds r _ r.edges.length, gained_rounds_edges, widenAll]

end Registry

end MultiDispatch

import MultiDispatch.Proofs.Occurrence
import MultiDispatch.Proofs.Selection

/-! What the parts of a built function have to do with each other. Its candidates, the index of their
arities, the range of these and the list of known types come from different passes over the
overloads. Selection relies on their agreement: it looks a candidate up by the position that the
index gives, and callers are told the range. -/
namespace MultiDispatch

variable {ε V τ : Type}

namespace ArityIndex

/-- The index holds every position of the list, once, in the only bucket of its arity, and each
bucket ascends. -/
structure Files (x : ArityIndex) (arities : List Nat) : Prop where
  distinct : (x.buckets.map (·.1)).Nodup
  ascending : ∀ b ∈ x.buckets, b.2.Pairwise (· < ·)
  placed : ∀ b ∈ x.buckets, ∀ i ∈ b.2, arities[i]? = some b.1
  once : (x.buckets.flatMap (·.2)).Perm (List.range arities.length)

section File

variable {arity position : Nat} {buckets : List (Nat × List Nat)}

/-- Filing makes a bucket of its own or lengthens the one there is. -/
theorem mem_file {b : Nat × List Nat} (member : b ∈ file arity position buckets) :
    b ∈ buckets ∨ b = (arity, [position]) ∨
      ∃ ps, (arity, ps) ∈ buckets ∧ b = (arity, ps ++ [position]) := by
  induction buckets with
  | nil => exact .inr (.inl (List.mem_singleton.1 member))
  | cons c buckets ih =>
    obtain ⟨a, ps⟩ := c
    rw [file] at member
    split at member
    · rename_i same
      subst same
      rcases List.mem_cons.1 member with rfl | member
      · exact .inr (.inr ⟨ps, List.mem_cons_self, rfl⟩)
      · exact .inl (List.mem_cons_of_mem _ member)
    · rcases List.mem_cons.1 member with rfl | member
      · exact .inl List.mem_cons_self
      · rcases ih member with old | new | ⟨qs, old, longer⟩
        · exact .inl (List.mem_cons_of_mem _ old)
        · exact .inr (.inl new)
        · exact .inr (.inr ⟨qs, List.mem_cons_of_mem _ old, longer⟩)

theorem map_fst_file : (file arity position buckets).map (·.1) =
    if arity ∈ buckets.map (·.1) then buckets.map (·.1) else buckets.map (·.1) ++ [arity] := by
  induction buckets with
  | nil => rfl
  | cons c buckets ih =>
    obtain ⟨a, ps⟩ := c
    rw [file]
    by_cases same : a = arity
    · simp [same]
    · rw [if_neg same, List.map_cons, ih]
      split <;> rename_i held <;> simp [held, Ne.symm same]

theorem perm_file : ((file arity position buckets).flatMap (·.2)).Perm
    (buckets.flatMap (·.2) ++ [position]) := by
  induction buckets with
  | nil => exact .refl _
  | cons c buckets ih =>
    obtain ⟨a, ps⟩ := c
    rw [file]
    split
    · simp only [List.flatMap_cons, List.append_assoc]
      exact List.perm_append_comm.append_left ps
    · simp only [List.flatMap_cons, List.append_assoc]
      exact ih.append_left ps

end File

/-- The next position may be filed. It is greater than all that the buckets hold. -/
theorem Files.insert {x : ArityIndex} {arities : List Nat} (files : x.Files arities)
    (arity : Nat) : (x.insert arity arities.length).Files (arities ++ [arity]) where
  distinct := by
    rw [ArityIndex.insert, map_fst_file]
    split
    · exact files.distinct
    · rename_i new
      exact List.concat_eq_append ▸ files.distinct.concat new
  ascending b member := by
    rcases mem_file member with old | rfl | ⟨ps, old, rfl⟩
    · exact files.ascending b old
    · exact List.pairwise_singleton ..
    · refine List.pairwise_append.2 ⟨files.ascending _ old, List.pairwise_singleton .., ?_⟩
      intro i here j last
      rw [List.mem_singleton.1 last]
      exact (List.getElem?_eq_some_iff.1 (files.placed _ old i here)).1
  placed b member i here := by
    have kept {a : Nat} (held : arities[i]? = some a) : (arities ++ [arity])[i]? = some a := by
      rw [List.getElem?_append_left (List.getElem?_eq_some_iff.1 held).1, held]
    rcases mem_file member with old | rfl | ⟨ps, old, rfl⟩
    · exact kept (files.placed b old i here)
    · rw [List.mem_singleton.1 here, List.getElem?_concat_length]
    · rcases List.mem_append.1 here with before | last
      · exact kept (files.placed _ old i before)
      · rw [List.mem_singleton.1 last, List.getElem?_concat_length]
  once := by
    rw [List.length_append, List.length_singleton, List.range_succ]
    exact perm_file.trans (files.once.append_right _)

theorem fileAll_concat (x : ArityIndex) (arities : List Nat) (arity position : Nat) :
    x.fileAll (arities ++ [arity]) position =
      (x.fileAll arities position).insert arity (position + arities.length) := by
  induction arities generalizing x position with
  | nil => rfl
  | cons first arities ih =>
    rw [List.cons_append, fileAll, fileAll, ih, List.length_cons]
    congr 1
    omega

theorem files_ofArities (arities : List Nat) : (ofArities arities).Files arities := by
  induction arities using List.reverseRecOn with
  | nil => exact ⟨.nil, by simp [ofArities, fileAll], by simp [ofArities, fileAll], .refl _⟩
  | append_singleton arities arity ih =>
    rw [ofArities, fileAll_concat, Nat.zero_add]
    exact ih.insert arity

end ArityIndex

namespace Dispatcher

theorem minArity_le {f : Dispatcher ε V} {c : Candidate ε V} (candidate : c ∈ f.candidates) :
    f.minArity ≤ c.arity := List.min?_getD_le_of_mem (List.mem_map_of_mem candidate)

theorem le_maxArity {f : Dispatcher ε V} {c : Candidate ε V} (candidate : c ∈ f.candidates) :
    c.arity ≤ f.maxArity := List.le_max?_getD_of_mem (List.mem_map_of_mem candidate)

theorem exists_minArity {f : Dispatcher ε V} (some : f.candidates ≠ []) :
    ∃ c ∈ f.candidates, c.arity = f.minArity := by
  obtain ⟨k, least⟩ := Option.isSome_iff_exists.1
    (List.isSome_min?_of_ne_nil (mt List.map_eq_nil_iff.1 some : f.candidates.map (·.arity) ≠ []))
  obtain ⟨c, candidate, arity⟩ := List.mem_map.1 (List.min?_mem least)
  exact ⟨c, candidate, by rw [minArity, least, arity]; rfl⟩

theorem exists_maxArity {f : Dispatcher ε V} (some : f.candidates ≠ []) :
    ∃ c ∈ f.candidates, c.arity = f.maxArity := by
  obtain ⟨k, greatest⟩ := Option.isSome_iff_exists.1
    (List.isSome_max?_of_ne_nil (mt List.map_eq_nil_iff.1 some : f.candidates.map (·.arity) ≠ []))
  obtain ⟨c, candidate, arity⟩ := List.mem_map.1 (List.max?_mem greatest)
  exact ⟨c, candidate, by rw [maxArity, greatest, arity]; rfl⟩

/-- No candidate takes an argument list whose length is not in the range of the arities. -/
theorem refuses_of_length [Typed V τ] {f : Dispatcher ε V}
    (indexed : f.index = .ofArities (f.candidates.map (·.arity))) {args : List V}
    (outside : args.length < f.minArity ∨ f.maxArity < args.length) :
    ∃ e, (f.select args).val = .error e := by
  cases selected : (f.select args).val with
  | error e => exact ⟨e, rfl⟩
  | ok winner =>
    obtain ⟨here, accepts, _⟩ := (select_eq_ok indexed).1 selected
    have candidate := List.mem_of_getElem? here
    have length : winner.2.arity = args.length := Signature.length_of_accepts accepts
    have least := minArity_le candidate
    have greatest := le_maxArity candidate
    omega

/-- The types that the slots accept, candidate by candidate, as often as they do. -/
def occurrences (f : Dispatcher ε V) : List Token := f.candidates.flatMap (·.signature.accepted)

/-- The parts of a function agree. Its candidates are the overloads one by one, the index files each
of their positions under its arity, the range of arities is the least that holds them all, and every
type that some slot accepts is known once, in the order of first occurrences. -/
structure Consistent (f : Dispatcher ε V) (d : Definition ε V) : Prop where
  candidates : List.Forall₂ (fun o c => c.method = o.method ∧ c.arity = o.arity)
    d.overloads f.candidates
  index : f.index.Files (f.candidates.map (·.arity))
  range : ∀ c ∈ f.candidates, f.minArity ≤ c.arity ∧ c.arity ≤ f.maxArity
  least : ∃ c ∈ f.candidates, c.arity = f.minArity
  greatest : ∃ c ∈ f.candidates, c.arity = f.maxArity
  known : ∀ t, t ∈ f.known.map (·.token) ↔
    ∃ c ∈ f.candidates, ∃ s ∈ c.signature.slots, t ∈ s.accepted
  unrepeated : (f.known.map (·.token)).Nodup
  ordered : (f.known.map (·.token)).Pairwise fun t u =>
    f.occurrences.idxOf t < f.occurrences.idxOf u

variable [Typed V τ] [DecidableEq τ]

theorem map_token_known {r : Registry ε V τ} {d : Definition ε V} {f : Dispatcher ε V}
    (built : build r d = .ok f) : f.known.map (·.token) = f.occurrences.eraseDups := by
  obtain ⟨_, _, _, _, _, known⟩ := build_eq_ok.1 built
  have same := map_eq_of_forall₂ (f := id) (g := KnownType.token) known
    fun t k made => (KnownType.ofToken_eq_ok.1 made).1.symm
  rw [← same, List.map_id]
  rfl

theorem consistent_of_build {r : Registry ε V τ} {d : Definition ε V} {f : Dispatcher ε V}
    (built : build r d = .ok f) : f.Consistent d := by
  obtain ⟨overloads, _, _, compiled, indexed, _⟩ := build_eq_ok.1 built
  have some : f.candidates ≠ [] := fun none =>
    overloads (List.forall₂_nil_right_iff.1 (none ▸ compiled))
  refine ⟨compiled.imp fun o c made => ?_, indexed ▸ ArityIndex.files_ofArities _,
    fun c candidate => ⟨minArity_le candidate, le_maxArity candidate⟩, exists_minArity some,
    exists_maxArity some, fun t => ?_, ?_, ?_⟩
  · obtain ⟨method, slots⟩ := Candidate.compile_eq_ok.1 made
    exact ⟨method, slots.length_eq.symm⟩
  · simp only [map_token_known built, List.mem_eraseDups, occurrences, Signature.accepted,
      List.mem_flatMap]
  · rw [map_token_known built]
    exact nodup_eraseDups _
  · rw [map_token_known built]
    exact pairwise_eraseDups _

/-- The parts of every function that builds agree, so a call with fewer arguments than the least
arity or with more than the greatest is refused. -/
theorem build_consistent (r : Registry ε V τ) (d : Definition ε V) (f : Dispatcher ε V)
    (built : build r d = .ok f) : f.Consistent d ∧
      ∀ args : List V, args.length < f.minArity ∨ f.maxArity < args.length →
        ∃ e, (f.select args).val = .error e ∧
          ∀ receiver, (f.call receiver args).val = .error e := by
  obtain ⟨_, _, _, _, indexed, _⟩ := build_eq_ok.1 built
  refine ⟨consistent_of_build built, fun args outside => ?_⟩
  obtain ⟨e, refused⟩ := refuses_of_length indexed outside
  refine ⟨e, refused, fun receiver => ?_⟩
  rw [call, Traced.val_bind, refused]
  rfl

end Dispatcher

namespace Amount

def tally : Definition String Amount where
  overloads := [
    ⟨[[⟨0, 4⟩], [⟨0, 0⟩]], fun _ _ => pure ⟨0, 2⟩⟩,
    ⟨[[⟨0, 0⟩]], fun _ _ => pure ⟨0, 1⟩⟩,
    ⟨[[⟨0, 0⟩], [⟨0, 4⟩]], fun _ _ => pure ⟨0, 2⟩⟩]

theorem tally_builds : ∃ f, Dispatcher.build units tally = .ok f ∧
    f.index = ⟨[(2, [0, 2]), (1, [1])]⟩ ∧ f.minArity = 1 ∧ f.maxArity = 2 := by
  unfold Dispatcher.build Candidate.compile Signature.compile Slot.compile
  simp only [Registry.accepted_eq_widening]
  exact ⟨_, rfl, rfl, rfl, rfl⟩

theorem build_consistent_units : ∃ f, Dispatcher.build units tally = .ok f ∧
    f.Consistent tally ∧ f.index = ⟨[(2, [0, 2]), (1, [1])]⟩ ∧
    (∃ e, (f.call none []).val = .error e) ∧
    ∃ e, (f.call none [⟨4, 1⟩, ⟨0, 1⟩, ⟨0, 1⟩]).val = .error e := by
  obtain ⟨f, built, index, least, greatest⟩ := tally_builds
  obtain ⟨consistent, outside⟩ := Dispatcher.build_consistent units tally f built
  obtain ⟨few, _, refused⟩ := outside [] (.inl (by simp [least]))
  obtain ⟨many, _, refused'⟩ := outside [⟨4, 1⟩, ⟨0, 1⟩, ⟨0, 1⟩] (.inr (by simp [greatest]))
  exact ⟨f, built, consistent, index, ⟨few, refused none⟩, many, refused' none⟩

end Amount

end MultiDispatch

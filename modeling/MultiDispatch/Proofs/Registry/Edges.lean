import MultiDispatch.Proofs.Registry.Change

/-! Where a registry keeps its edges. Single changes add at most one edge, at the end of the list of
its own target, so in a reachable registry the edges into a type are those that name it as their
target. -/
namespace MultiDispatch.Registry

variable {ε V τ : Type}

theorem mem_edges {r : Registry ε V τ} {e : Edge ε V} :
    e ∈ r.edges ↔ ∃ t, e ∈ r.edgesInto t := by
  constructor
  · intro member
    obtain ⟨entry, held, into⟩ := List.mem_flatMap.1 member
    obtain ⟨i, at_⟩ := List.mem_iff_getElem?.1 held
    refine ⟨⟨r.stamp, i⟩, ?_⟩
    simp only [edgesInto, get?, at_, if_pos, Option.map_some, Option.getD_some]
    exact into
  · rintro ⟨t, into⟩
    exact mem_edges_of_mem_edgesInto into

theorem get?_nextToken (r : Registry ε V τ) : r.get? r.nextToken = none := by
  simp [get?, nextToken, size]

theorem edgesInto_push (r : Registry ε V τ) (e : Entry ε V τ) (empty : e.incoming = [])
    (t : Token) : (r.push e).edgesInto t = r.edgesInto t := by
  unfold edgesInto
  rw [get?_push]
  split
  · rename_i new
    rw [new, get?_nextToken]
    simp [empty]
  · rfl

theorem edgesInto_update (r : Registry ε V τ) (t u : Token) (f : Entry ε V τ → Entry ε V τ) :
    (r.update t f).edgesInto u =
      if u = t then ((r.get? u).map fun e => (f e).incoming).getD [] else r.edgesInto u := by
  unfold edgesInto
  rw [get?_update]
  split <;> simp [Function.comp_def]

theorem edgesInto_attach (r : Registry ε V τ) (t : Token) (g : Guard ε V) (u : Token) :
    (r.update t (·.attach g)).edgesInto u = r.edgesInto u := by
  have same (e : Entry ε V τ) : (e.attach g).incoming = e.incoming := by
    unfold Entry.attach
    split <;> rfl
  rw [edgesInto_update]
  split <;> simp [edgesInto, same]

theorem edgesInto_connect (r : Registry ε V τ) (edge : Edge ε V) (u : Token) :
    (r.update edge.target (·.connect edge)).edgesInto u = r.edgesInto u ∨
      (u = edge.target ∧
        (r.update edge.target (·.connect edge)).edgesInto u = r.edgesInto u ++ [edge]) := by
  rw [edgesInto_update]
  split
  · rename_i here
    unfold edgesInto
    cases r.get? u with
    | none => exact .inl rfl
    | some e =>
      simp only [Option.map_some, Option.getD_some, Entry.connect]
      split
      · exact .inl rfl
      · exact .inr ⟨here, rfl⟩
  · exact .inl rfl

variable [Typed V τ] [DecidableEq τ]

theorem Change.edgesInto {r s : Registry ε V τ} (change : Change r s) (t : Token) :
    s.edgesInto t = r.edgesInto t ∨
      ∃ edge, t = edge.target ∧ r.owns edge.source ∧ r.owns edge.target ∧
        s.edgesInto t = r.edgesInto t ++ [edge] := by
  cases change with
  | declare name => exact .inl (edgesInto_push _ _ (by rfl) t)
  | allot type new =>
    refine .inl ?_
    simp only [nominal, new]
    exact edgesInto_push r { name := shortName (Typed.path V type), kind := .nominal type } rfl t
  | attach u g owned => exact .inl (edgesInto_attach ..)
  | connect edge source target =>
    rcases edgesInto_connect r edge t with same | ⟨here, more⟩
    · exact .inl same
    · exact .inr ⟨edge, here, source, target, more⟩

theorem Reachable.target {r : Registry ε V τ} (reachable : r.Reachable) {t : Token}
    {e : Edge ε V} (into : e ∈ r.edgesInto t) : e.target = t := by
  refine reachable.induct (motive := fun s => ∀ t, ∀ e ∈ s.edgesInto t, e.target = t)
    ?_ ?_ t e into
  · intro t e into
    simp [empty, Registry.edgesInto, get?] at into
  · intro s s' filed change t e into
    rcases change.edgesInto t with same | ⟨edge, rfl, _, _, more⟩
    · exact filed t e (same ▸ into)
    · rw [more] at into
      rcases List.mem_append.1 into with old | new
      · exact filed _ e old
      · rw [List.mem_singleton.1 new]

theorem Reachable.mem_edgesInto {r : Registry ε V τ} (reachable : r.Reachable) {t : Token}
    {e : Edge ε V} : e ∈ r.edgesInto t ↔ e ∈ r.edges ∧ e.target = t := by
  constructor
  · intro into
    exact ⟨mem_edges.2 ⟨t, into⟩, reachable.target into⟩
  · rintro ⟨member, rfl⟩
    obtain ⟨u, into⟩ := mem_edges.1 member
    exact reachable.target into ▸ into

end MultiDispatch.Registry

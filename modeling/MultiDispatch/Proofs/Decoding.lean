import MultiDispatch.Proofs.Toml.Decoder
import MultiDispatch.Settings.Load
import Mathlib

/-! Which documents are settings, whatever library reads them. Each known key gives its setting, or
leaves the default if it is missing, and nothing else in the document counts. Only when both known
keys have wrong values does their order matter, since the first is the one that is reported. -/
namespace MultiDispatch

open Toml (Entries Library Value)

/-- How a reach is spelt. -/
inductive Reach.Spelt : Reach → String → Prop
  | singleHop : Spelt .singleHop "single-hop"
  | transitive : Spelt .transitive "transitive"

theorem Reach.lookup_variants {name : String} {reach : Reach} :
    variants.lookup name = some reach ↔ reach.Spelt name := by
  refine ofName?_eq_some.trans ⟨?_, ?_⟩
  · rintro rfl
    cases reach with
    | singleHop => exact .singleHop
    | transitive => exact .transitive
  · rintro (_ | _) <;> rfl

/-- The value spells the reach, or is a table whose only key spells it, with nothing below. -/
inductive Toml.Value.Names (reach : Reach) : Value → Prop
  | text {name : String} : reach.Spelt name → Names reach (.string name)
  | key (form : Form) {name : String} (v : Value) : reach.Spelt name → v.Vacant →
      Names reach (.table form [(name, v)])

namespace Settings

/-- A setting is what is read off the value that a document gives it, or its default. -/
def Settles {α : Type} (reads : Value → α → Prop) (default a : α) : Option Value → Prop
  | some v => reads v a
  | none => a = default

section Settles

variable {α : Type} {reads : Value → α → Prop}

theorem exists_settles (default : α) {given : Option Value} :
    (∃ a, Settles reads default a given) ↔ ∀ v, given = some v → ∃ a, reads v a := by
  cases given <;> simp [Settles]

/-- What the first entry settles is the default for the others. -/
theorem settles_cons {default a : α} {key : String} {p : String × Value} {t : Entries}
    (new : p.1 ∉ t.map (·.1)) :
    Settles reads default a (List.lookup key (p :: t)) ↔
      ∃ mid, Settles reads default mid ([p].lookup key) ∧ Settles reads mid a (t.lookup key) := by
  obtain ⟨k, v⟩ := p
  by_cases here : key = k
  · subst here
    rw [Entries.lookup_eq_none.2 new]
    simp [Settles]
  · have miss : (key == k) = false := beq_eq_false_iff_ne.2 here
    simp [List.lookup_cons, miss, Settles]

end Settles

/-- The settings are those that the table gives, with the defaults where it gives none. -/
def GivenBy (root : Entries) (default s : Settings) : Prop :=
  Settles (fun v b => v = .boolean b) default.autoRegister s.autoRegister
      (root.lookup "auto-register") ∧
    Settles (fun v reach => v.Names reach) default.reach s.reach (root.lookup "conversion-reach")

theorem givenBy_nil {default s : Settings} : GivenBy [] default s ↔ default = s := by
  obtain ⟨autoRegister, reach⟩ := s
  obtain ⟨autoRegister', reach'⟩ := default
  rw [Settings.mk.injEq, eq_comm, eq_comm (a := reach')]
  exact Iff.rfl

theorem givenBy_cons {default s : Settings} {p : String × Value} {t : Entries}
    (new : p.1 ∉ t.map (·.1)) :
    GivenBy (p :: t) default s ↔ ∃ mid, GivenBy [p] default mid ∧ GivenBy t mid s := by
  unfold GivenBy
  rw [settles_cons new, settles_cons new]
  constructor
  · rintro ⟨⟨autoRegister, first, rest⟩, reach, first', rest'⟩
    exact ⟨⟨autoRegister, reach⟩, ⟨first, first'⟩, rest, rest'⟩
  · rintro ⟨mid, ⟨first, first'⟩, rest, rest'⟩
    exact ⟨⟨_, first, rest⟩, _, first', rest'⟩

/-- The keys that name a setting. -/
def keys : List String := ["auto-register", "conversion-reach"]

theorem eq_of_mem_keys {key : String} (known : key ∈ keys) :
    key = "auto-register" ∨ key = "conversion-reach" := by
  simpa [keys] using known

/-- The key is known and its value is not one that it may have. -/
inductive Bad : String × Value → Prop
  | flag (v : Value) : (∀ b, v ≠ .boolean b) → Bad ("auto-register", v)
  | reach (v : Value) : (∀ reach, ¬ v.Names reach) → Bad ("conversion-reach", v)

/-- What a library reports of an entry: its own error about the value, under the key. -/
inductive Reports {ε : Type} (lib : Library ε) : String × Value → ε → Prop
  | flag (v : Value) (e : ε) : lib.boolean v = .error e →
      Reports lib ("auto-register", v) (lib.under "auto-register" e)
  | reach (v : Value) (e : ε) : lib.enumeration Reach.variants v = .error e →
      Reports lib ("conversion-reach", v) (lib.under "conversion-reach" e)

section Steps

variable {ε : Type} (lib : Library ε) (s : Settings)

theorem nodup_keys : ((fields lib).map (·.key)).Nodup := show keys.Nodup by decide

theorem step_flag (v : Value) : lib.step (fields lib) s ("auto-register", v) = (do
    let b ← (lib.boolean v).mapError (lib.under "auto-register")
    return { s with autoRegister := b }) := by
  refine (lib.step_of_mem s v (nodup_keys lib) List.mem_cons_self).trans ?_
  dsimp only
  cases lib.boolean v <;> rfl

theorem step_reach (v : Value) : lib.step (fields lib) s ("conversion-reach", v) = (do
    let reach ← (lib.enumeration Reach.variants v).mapError (lib.under "conversion-reach")
    return { s with reach }) := by
  refine (lib.step_of_mem s v (nodup_keys lib)
    (List.mem_cons_of_mem _ List.mem_cons_self)).trans ?_
  dsimp only
  cases lib.enumeration Reach.variants v <;> rfl

theorem step_eq_error {p : String × Value} {e : ε} :
    lib.step (fields lib) s p = .error e ↔ Reports lib p e := by
  rw [← failure?_eq_some]
  constructor
  · intro failed
    by_cases known : p.1 ∈ keys
    · obtain ⟨key, v⟩ := p
      rcases eq_of_mem_keys known with rfl | rfl
      · rw [step_flag, failure?_bind_pure, failure?_eq_some, mapError_eq_error] at failed
        obtain ⟨cause, refused, rfl⟩ := failed
        exact .flag v cause refused
      · rw [step_reach, failure?_bind_pure, failure?_eq_some, mapError_eq_error] at failed
        obtain ⟨cause, refused, rfl⟩ := failed
        exact .reach v cause refused
    · rw [Library.step_of_unknown lib s p.2 known] at failed
      cases failed
  · rintro (⟨v, cause, refused⟩ | ⟨v, cause, refused⟩)
    · rw [step_flag, failure?_bind_pure, failure?_eq_some, mapError_eq_error]
      exact ⟨cause, refused, rfl⟩
    · rw [step_reach, failure?_bind_pure, failure?_eq_some, mapError_eq_error]
      exact ⟨cause, refused, rfl⟩

theorem failure?_step (p : String × Value) :
    failure? (lib.step (fields lib) s p) = failure? (lib.step (fields lib) {} p) := by
  refine Option.ext fun e => ?_
  rw [failure?_eq_some, failure?_eq_some, step_eq_error, step_eq_error]

end Steps

section Documented

variable {ε : Type} {lib : Library ε} (documented : lib.Documented)

include documented

theorem enumeration_eq_ok {v : Value} {reach : Reach} :
    lib.enumeration Reach.variants v = .ok reach ↔ v.Names reach := by
  rw [Library.enumeration_eq_ok documented]
  constructor
  · rintro ⟨name, content, selects, known, empty⟩
    have spelt := Reach.lookup_variants.1 known
    cases selects with
    | text => exact .text spelt
    | key form inner => exact .key form inner spelt (empty inner rfl)
  · rintro (spelt | ⟨form, inner, spelt, vacant⟩)
    · exact ⟨_, none, .text, Reach.lookup_variants.2 spelt, nofun⟩
    · refine ⟨_, some inner, .key form inner, Reach.lookup_variants.2 spelt, fun other same => ?_⟩
      cases same
      exact vacant

theorem bad_iff {p : String × Value} : Bad p ↔ ∃ e, Reports lib p e := by
  constructor
  · rintro (⟨v, other⟩ | ⟨v, other⟩)
    · obtain ⟨e, refused⟩ := exists_error_iff.2 fun b read => other b (documented.boolean.1 read)
      exact ⟨_, .flag v e refused⟩
    · obtain ⟨e, refused⟩ := exists_error_iff.2 fun reach read =>
        other reach ((enumeration_eq_ok documented).1 read)
      exact ⟨_, .reach v e refused⟩
  · rintro ⟨_, ⟨v, e, refused⟩ | ⟨v, e, refused⟩⟩
    · refine .flag v fun b given => ?_
      cases refused.symm.trans (documented.boolean.2 given)
    · refine .reach v fun reach given => ?_
      cases refused.symm.trans ((enumeration_eq_ok documented).2 given)

theorem step_eq_ok {p : String × Value} {default s : Settings} :
    lib.step (fields lib) default p = .ok s ↔ GivenBy [p] default s := by
  by_cases known : p.1 ∈ keys
  · obtain ⟨key, v⟩ := p
    rcases eq_of_mem_keys known with rfl | rfl
    · change _ ↔ v = .boolean s.autoRegister ∧ s.reach = default.reach
      rw [step_flag, bind_eq_ok]
      simp only [mapError_eq_ok, documented.boolean]
      constructor
      · rintro ⟨b, given, eq⟩
        cases eq
        exact ⟨given, rfl⟩
      · rintro ⟨given, rest⟩
        refine ⟨_, given, pure_eq_ok.2 ?_⟩
        rw [← rest]
    · change _ ↔ s.autoRegister = default.autoRegister ∧ v.Names s.reach
      rw [step_reach, bind_eq_ok]
      simp only [mapError_eq_ok, enumeration_eq_ok documented]
      constructor
      · rintro ⟨reach, given, eq⟩
        cases eq
        exact ⟨rfl, given⟩
      · rintro ⟨rest, given⟩
        refine ⟨_, given, pure_eq_ok.2 ?_⟩
        rw [← rest]
  · have missing {key : String} (listed : key ∈ keys) : [p].lookup key = none := by
      refine Entries.lookup_eq_none.2 fun member => ?_
      cases List.mem_singleton.1 member
      exact known listed
    rw [Library.step_of_unknown lib default p.2 known, Except.ok.injEq, ← givenBy_nil, GivenBy, GivenBy,
      missing List.mem_cons_self, missing (List.mem_cons_of_mem _ List.mem_cons_self)]
    rfl

theorem foldlM_step_eq_ok {root : Entries} (distinct : root.Distinct) {default s : Settings} :
    root.foldlM (lib.step (fields lib)) default = .ok s ↔ GivenBy root default s := by
  induction root generalizing default with
  | nil => rw [givenBy_nil, List.foldlM_nil, pure_eq_ok]
  | cons p root ih =>
    obtain ⟨new, rest⟩ := List.nodup_cons.1 distinct
    rw [List.foldlM_cons, bind_eq_ok, givenBy_cons new]
    simp only [step_eq_ok documented, ih rest]

theorem decode_eq_foldlM {root : Entries} (distinct : root.Distinct) :
    decode lib root = root.foldlM (lib.step (fields lib)) {} :=
  Library.record_eq_foldlM documented (nodup_keys lib) distinct {}

theorem decode_eq_ok {root : Entries} (distinct : root.Distinct) {s : Settings} :
    decode lib root = .ok s ↔ GivenBy root {} s := by
  rw [decode_eq_foldlM documented distinct, foldlM_step_eq_ok documented distinct]

theorem exists_decode {root : Entries} (distinct : root.Distinct) :
    (∃ s, decode lib root = .ok s) ↔
      (∀ v, root.lookup "auto-register" = some v → ∃ b, v = .boolean b) ∧
        ∀ v, root.lookup "conversion-reach" = some v → ∃ reach, v.Names reach := by
  rw [← exists_settles false, ← exists_settles Reach.singleHop]
  constructor
  · rintro ⟨s, decoded⟩
    obtain ⟨flag, reach⟩ := (decode_eq_ok documented distinct).1 decoded
    exact ⟨⟨_, flag⟩, _, reach⟩
  · rintro ⟨⟨autoRegister, flag⟩, reach, named⟩
    exact ⟨⟨autoRegister, reach⟩, (decode_eq_ok documented distinct).2 ⟨flag, named⟩⟩

theorem decode_of_perm {root other : Entries} (distinct : root.Distinct) (perm : other.Perm root)
    (s : Settings) : decode lib other = .ok s ↔ decode lib root = .ok s := by
  have distinct' : other.Distinct := (perm.map _).nodup_iff.2 distinct
  rw [decode_eq_ok documented distinct, decode_eq_ok documented distinct', GivenBy, GivenBy,
    distinct.lookup_of_perm perm, distinct.lookup_of_perm perm]

theorem decode_filter_keys {root : Entries} (distinct : root.Distinct) :
    decode lib (root.filter (·.1 ∈ keys)) = decode lib root := by
  have fewer : Entries.Distinct (root.filter (·.1 ∈ keys)) :=
    distinct.sublist (List.filter_sublist.map _)
  rw [decode_eq_foldlM documented distinct, decode_eq_foldlM documented fewer, List.foldlM_filter]
  congr 1
  funext s p
  split
  · rfl
  · next known =>
    have unknown : p.1 ∉ keys := fun listed => known (decide_eq_true listed)
    exact (Library.step_of_unknown lib s p.2 unknown).symm

theorem decode_eq_error {root : Entries} (distinct : root.Distinct) {e : ε} :
    decode lib root = .error e ↔ ∃ before p after, root = before ++ p :: after ∧
      (∀ q ∈ before, ¬ Bad q) ∧ Bad p ∧ Reports lib p e := by
  have sound (q : String × Value) : failure? (lib.step (fields lib) {} q) = none ↔ ¬ Bad q := by
    simp only [bad_iff documented, not_exists, Option.eq_none_iff_forall_ne_some, Ne,
      failure?_eq_some, step_eq_error]
  rw [← failure?_eq_some, decode_eq_foldlM documented distinct,
    failure?_foldlM (failure?_step lib), List.findSome?_eq_some_iff]
  simp only [sound, failure?_eq_some, step_eq_error]
  constructor
  · rintro ⟨before, p, after, split, reported, first⟩
    exact ⟨before, p, after, split, first, (bad_iff documented).2 ⟨e, reported⟩, reported⟩
  · rintro ⟨before, p, after, split, first, _, reported⟩
    exact ⟨before, p, after, split, reported, first⟩

end Documented

/-- Loading settings with any library that does what it is documented to do. A document is read as a
table without a key twice. From such a table settings are read exactly if its values at the known
keys are well formed, and neither the order of the keys nor an unknown one has a part in what they
are. Otherwise the library's error about the first bad entry is the one reported. -/
theorem load_outcome {ε : Type} (lib : Library ε) (documented : lib.Documented) :
    (∀ text e, lib.parse text = .error e → loadWith lib text = .error e) ∧
    (∀ text root, lib.parse text = .ok root →
      root.Distinct ∧ loadWith lib text = decode lib root) ∧
    ∀ root : Entries, root.Distinct →
      ((∃ s, decode lib root = .ok s) ↔
        (∀ v, root.lookup "auto-register" = some v → ∃ b, v = .boolean b) ∧
          ∀ v, root.lookup "conversion-reach" = some v → ∃ reach, v.Names reach) ∧
      (∀ s, decode lib root = .ok s ↔ GivenBy root ⟨false, .singleHop⟩ s) ∧
      (∀ other : Entries, other.Perm root →
        ∀ s, decode lib other = .ok s ↔ decode lib root = .ok s) ∧
      (∀ other : Entries, other.Distinct →
        other.filter (·.1 ∈ keys) = root.filter (·.1 ∈ keys) → decode lib other = decode lib root) ∧
      ∀ e, decode lib root = .error e ↔ ∃ before p after, root = before ++ p :: after ∧
        (∀ q ∈ before, ¬ Bad q) ∧ Bad p ∧ Reports lib p e := by
  refine ⟨fun text e failed => ?_, fun text root read => ⟨documented.distinct read, ?_⟩,
    fun root distinct => ?_⟩
  · rw [loadWith, failed]
    rfl
  · rw [loadWith, read]
    rfl
  · refine ⟨exists_decode documented distinct, fun s => decode_eq_ok documented distinct,
      fun other perm => decode_of_perm documented distinct perm, fun other distinct' same => ?_,
      fun e => decode_eq_error documented distinct⟩
    rw [← decode_filter_keys documented distinct', same, decode_filter_keys documented distinct]

/-- A reach in its longer form, below a key that means nothing. -/
def titledText : String := "title = \"units\"\nconversion-reach = \x7b transitive = [] \x7d"

def titled : Entries :=
  [("title", .string "units"), ("conversion-reach", .table .inline [("transitive", .array [])])]

/-- Bad at both known keys. -/
def muddled : Entries := [("conversion-reach", .boolean true), ("auto-register", .string "units")]

theorem load_outcome_titled :
    Toml.library.Documented ∧ Toml.library.parse titledText = .ok titled ∧
      load titledText = .ok ⟨false, .transitive⟩ ∧
      decode Toml.library titled.reverse = .ok ⟨false, .transitive⟩ ∧
      muddled.Distinct ∧ decode Toml.library muddled = .error (.shape .noVariant) := by
  have text : Toml.document? titledText = some titled := by cbv
  have read : Toml.library.parse titledText = .ok titled := congrArg (Option.elim · _ _) text
  have wrong : muddled.Distinct := by unfold Entries.Distinct; decide
  obtain ⟨-, loads, decodes⟩ := load_outcome Toml.library Toml.library_documented
  obtain ⟨distinct, loaded⟩ := loads _ _ read
  obtain ⟨-, given, order, -, -⟩ := decodes titled distinct
  obtain ⟨-, -, -, -, fails⟩ := decodes muddled wrong
  have decoded : decode Toml.library titled = .ok ⟨false, .transitive⟩ :=
    (given _).2 ⟨rfl, .key .inline _ .transitive .array⟩
  have bad : Bad ("conversion-reach", .boolean true) := .reach _ fun reach named => by cases named
  exact ⟨Toml.library_documented, read, loaded.trans decoded,
    (order _ (List.reverse_perm _) _).2 decoded, wrong,
    (fails _).2 ⟨[], _, _, rfl, by simp, bad, .reach _ _ rfl⟩⟩

end Settings

end MultiDispatch

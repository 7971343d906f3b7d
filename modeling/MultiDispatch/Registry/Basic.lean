import MultiDispatch.Conversion
import MultiDispatch.Error
import MultiDispatch.Guard
import MultiDispatch.Settings

/-! A registry holds the types that functions may mention. Each type has a name for diagnostics, the
guards that recognise its values, and the conversion edges that end at it. A registry only grows. -/
namespace MultiDispatch

variable {ε V τ : Type}

/-- What a token stands for: a marker that only its guards define, or a run-time type. -/
inductive Kind (τ : Type) where
  | structural
  | nominal (type : τ)
deriving DecidableEq

structure Entry (ε V τ : Type) where
  name : String
  kind : Kind τ
  /-- In registration order. -/
  guards : List (Guard ε V) := []
  /-- The edges that end here, in registration order. -/
  incoming : List (Edge ε V) := []

namespace Entry

/-- Appends a guard, unless the entry holds it already. -/
def attach (g : Guard ε V) (e : Entry ε V τ) : Entry ε V τ :=
  if e.guards.any (·.identity = g.identity) then e else { e with guards := e.guards ++ [g] }

/-- Appends an edge, unless the entry holds one with the same source and converter. -/
def connect (edge : Edge ε V) (e : Entry ε V τ) : Entry ε V τ :=
  if e.incoming.any fun held =>
      held.source = edge.source ∧ held.converter.serial = edge.converter.serial then e
  else { e with incoming := e.incoming ++ [edge] }

end Entry

structure Registry (ε V τ : Type) where
  /-- Sets this registry's tokens apart from those of every other. -/
  stamp : Nat
  settings : Settings
  entries : List (Entry ε V τ) := []
  /-- The token of each run-time type that has one. -/
  nominals : List (τ × Token) := []

namespace Registry

def size (r : Registry ε V τ) : Nat := r.entries.length

/-- The entry of a token that this registry allocated. -/
def get? (r : Registry ε V τ) (t : Token) : Option (Entry ε V τ) :=
  if t.registry = r.stamp then r.entries[t.index]? else none

def owns (r : Registry ε V τ) (t : Token) : Bool :=
  t.registry = r.stamp ∧ t.index < r.size

@[simp] theorem isSome_get? (r : Registry ε V τ) (t : Token) :
    (r.get? t).isSome = r.owns t := by
  rw [Bool.eq_iff_iff]
  by_cases h : t.registry = r.stamp <;> simp [get?, owns, size, h]

theorem exists_get? {r : Registry ε V τ} {t : Token} (owned : r.owns t = true) :
    ∃ e, r.get? t = some e := by
  rw [← isSome_get?] at owned
  exact Option.isSome_iff_exists.1 owned

theorem get?_of_foreign {r : Registry ε V τ} {t : Token} (foreign : r.owns t = false) :
    r.get? t = none := by
  rwa [← isSome_get?, Option.isSome_eq_false_iff, Option.isNone_iff_eq_none] at foreign

theorem registry_of_owns {r : Registry ε V τ} {t : Token} (owned : r.owns t = true) :
    t.registry = r.stamp := (of_decide_eq_true owned).1

def name (r : Registry ε V τ) (t : Token) : String :=
  match r.get? t with
  | some e => e.name
  | none => "<foreign type>"

theorem name_of_foreign {r : Registry ε V τ} {t : Token} (foreign : r.owns t = false) :
    r.name t = "<foreign type>" := by
  rw [name, get?_of_foreign foreign]

def guards (r : Registry ε V τ) (t : Token) : List (Guard ε V) :=
  ((r.get? t).map (·.guards)).getD []

/-- The edges that end at a token, in registration order. -/
def edgesInto (r : Registry ε V τ) (t : Token) : List (Edge ε V) :=
  ((r.get? t).map (·.incoming)).getD []

/-- Every registered edge. -/
def edges (r : Registry ε V τ) : List (Edge ε V) := r.entries.flatMap (·.incoming)

theorem mem_edges_of_mem_edgesInto {r : Registry ε V τ} {t : Token} {e : Edge ε V}
    (h : e ∈ r.edgesInto t) : e ∈ r.edges := by
  unfold edgesInto get? at h
  split at h
  · cases he : r.entries[t.index]? with
    | none => simp [he] at h
    | some entry =>
      rw [he] at h
      exact List.mem_flatMap.2 ⟨entry, List.mem_of_getElem? he, h⟩
  · simp at h

/-- The error for a token that cannot be used. -/
def unknown (r : Registry ε V τ) (t : Token) : ConfigError := .unknownType (r.name t)

/-- The guard a value must pass to belong to a token: all its guards together. A nominal token
without guards falls back on its run-time type where the settings allow it. -/
def resolve [Typed V τ] [DecidableEq τ] (r : Registry ε V τ) (t : Token) :
    Except ConfigError (Combined ε V) :=
  match r.get? t with
  | none => .error (r.unknown t)
  | some { kind, guards := [], .. } =>
    match kind with
    | .nominal type => if r.settings.autoRegister then .ok (.new (instanceTest type))
      else .error (r.unknown t)
    | .structural => .error (r.unknown t)
  | some { guards, .. } => .ok (.intersect (guards.map .same))

end Registry

end MultiDispatch

import MultiDispatch.Decimal.Binary64

/-! TOML values. Tables keep their keys in document order, and remember how they came to be, since
that decides which later lines may add to them. -/
namespace MultiDispatch.Toml

/-- How a table was introduced. -/
inductive Form where
  /-- Written in braces; closed to additions. -/
  | inline
  /-- Named within a dotted key. -/
  | dotted
  /-- Named within the path of a deeper header, but not yet by one of its own. -/
  | implied
  /-- Opened by its own header. -/
  | header
deriving DecidableEq

inductive Value where
  | string (text : String)
  | integer (n : Int)
  | float (x : Decimal.Binary64)
  | boolean (b : Bool)
  /-- A date, a time or both, as written. -/
  | datetime (written : String)
  | array (items : List Value)
  | table (form : Form) (entries : List (String × Value))
  /-- Tables under repeated headers of one name. -/
  | tables (items : List (List (String × Value)))

/-- Keys with their values, in document order. -/
abbrev Entries := List (String × Value)

/-- A dotted key with its value. -/
abbrev Pair := List String × Value

namespace Entries

/-- No key occurs twice. -/
def Distinct (t : Entries) : Prop := (t.map (·.1)).Nodup

/-- Puts a value in the place of one that the key has. -/
def replace (key : String) (v : Value) (t : Entries) : Entries :=
  t.map fun (k, old) => if k = key then (k, v) else (k, old)

def remove (key : String) (t : Entries) : Entries := t.filter (·.1 ≠ key)

/-- Adds a value under a dotted key, if the key is free and every table on the way is open to dotted
keys. Missing tables are made. -/
def insert (v : Value) : List String → Entries → Option Entries
  | [], _ => none
  | [key], t => if (t.lookup key).isSome then none else some (t ++ [(key, v)])
  | key :: next :: rest, t =>
    match t.lookup key with
    | none => do
      let inner ← insert v (next :: rest) []
      return t ++ [(key, .table .dotted inner)]
    | some (.table .dotted inner) => do
      return t.replace key (.table .dotted (← insert v (next :: rest) inner))
    | some (.table .implied inner) => do
      if rest.isEmpty then none
      return t.replace key (.table .implied (← insert v (next :: rest) inner))
    | some (.tables items) => do
      if rest.isEmpty then none
      let inner ← insert v (next :: rest) (items.getLast?.getD [])
      return t.replace key (.tables (items.dropLast ++ [inner]))
    | some _ => none

/-- Adds pairs to a table, in order. -/
def fill (pairs : List Pair) (t : Entries) : Option Entries :=
  pairs.foldlM (fun t (key, v) => t.insert v key) t

/-- Changes the table that the last key of a header path belongs to. Missing tables on the way are
made; of a list of tables the last is meant. -/
def within (change : String → Entries → Option Entries) : List String → Entries → Option Entries
  | [], _ => none
  | [key], t => change key t
  | key :: next :: rest, t =>
    match t.lookup key with
    | none => do
      let inner ← within change (next :: rest) []
      return t ++ [(key, .table .implied inner)]
    | some (.table .inline _) => none
    | some (.table form inner) => do
      return t.replace key (.table form (← within change (next :: rest) inner))
    | some (.tables items) => do
      let inner ← within change (next :: rest) (items.getLast?.getD [])
      return t.replace key (.tables (items.dropLast ++ [inner]))
    | some _ => none

/-- Opens a table under its own header and fills it. A table that deeper headers implied moves to
the end of its parent. -/
def openTable (fill : Entries → Option Entries) : List String → Entries → Option Entries :=
  within fun key t =>
    match t.lookup key with
    | none => do return t ++ [(key, .table .header (← fill []))]
    | some (.table .implied inner) => do
      return t.remove key ++ [(key, .table .header (← fill inner))]
    | some _ => none

/-- Opens one more table of a list of tables and fills it. -/
def appendTable (fill : Entries → Option Entries) : List String → Entries → Option Entries :=
  within fun key t =>
    match t.lookup key with
    | none => do return t ++ [(key, .tables [← fill []])]
    | some (.tables items) => do return t.replace key (.tables (items ++ [← fill []]))
    | some _ => none

end Entries

end MultiDispatch.Toml

/-! Readers take a value off the front of a text, or refuse it. A refusal says nothing more: the only
question asked of a text is whether it is a document. -/
namespace MultiDispatch.Toml

abbrev Reader := StateT (List Char) Option

namespace Reader

variable {α β : Type}

def satisfy (p : Char → Bool) : Reader Char
  | c :: rest => if p c then some (c, rest) else none
  | [] => none

def char (c : Char) : Reader Unit := do let _ ← satisfy (· == c)

/-- Exactly these characters. -/
def word : List Char → Reader Unit
  | [] => pure ()
  | c :: cs => do char c; word cs

/-- As many characters of a class as there are. -/
def span (p : Char → Bool) : Reader (List Char) :=
  fun s => some (s.takeWhile p, s.dropWhile p)

/-- One or more characters of a class, as many as there are. -/
def run (p : Char → Bool) : Reader (List Char) := do
  let cs ← span p
  if cs.isEmpty then failure else return cs

/-- Exactly `n` of one thing. -/
def exactly (p : Reader α) : Nat → Reader (List α)
  | 0 => pure []
  | n + 1 => do return (← p) :: (← exactly p n)

def endOfInput : Reader Unit
  | [] => some ((), [])
  | _ => none

/-- One thing or none. -/
def maybe (p : Reader α) : Reader (Option α) := (some <$> p) <|> pure none

/-- As many of one thing as there are. Each must take some text. -/
def many (p : Reader α) (s : List Char) : Option (List α × List Char) :=
  match p s with
  | none => some ([], s)
  | some (a, rest) =>
    if rest.length < s.length then (many p rest).map fun (as, rest) => (a :: as, rest)
    else some ([], s)
termination_by s.length

/-- One or more of one thing, with separators between them. -/
def sepBy (p : Reader α) (separator : Reader β) : Reader (List α) := do
  let first ← p
  let others ← many do
    let _ ← separator
    p
  return first :: others

/-- The text that a reader takes. -/
def taken (p : Reader α) : Reader (List Char) := fun s => do
  let (_, rest) ← p s
  return (s.take (s.length - rest.length), rest)

end Reader

end MultiDispatch.Toml

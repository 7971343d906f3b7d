import MultiDispatch.Toml.Scalar

/-! Whole documents: lines that give values to keys, and headers that open the tables to which the
lines below them belong. -/
namespace MultiDispatch.Toml

/-- A header with the pairs below it. -/
structure Section where
  /-- Whether the header adds to a list of tables. -/
  repeated : Bool
  path : List String
  pairs : List Pair

namespace Reader

/-- Values in brackets, with commas between them and perhaps after the last. -/
def array (item : Reader Value) : Reader Value := do
  char '['
  let items ← maybe (sepBy (do gap; let v ← item; gap; return v) (char ','))
  if items.isSome then let _ ← maybe (char ',')
  gap
  char ']'
  return .array (items.getD [])

/-- A key and what it is given. -/
def pair (item : Reader Value) : Reader Pair := do
  let k ← key
  char '='
  blanks
  return (k, ← item)

/-- Pairs in braces, with commas between them, all on one line. -/
def inlineTable (item : Reader Value) : Reader Value := do
  char '\x7b'
  let pairs ← maybe (sepBy (do let p ← pair item; blanks; return p) (char ','))
  blanks
  char '\x7d'
  let entries ← Entries.fill (pairs.getD []) []
  return .table .inline entries

/-- A value of any kind, inside which arrays and inline tables nest up to the given depth. -/
def value : Nat → Reader Value
  | 0 => scalar
  | depth + 1 => scalar <|> array (value depth) <|> inlineTable (value depth)

/-- How deep arrays and inline tables may nest. -/
def maxDepth : Nat := 79

/-- A line that gives a value to a key. -/
def pairLine : Reader Pair := do
  let p ← pair (value maxDepth)
  lineEnd
  return p

/-- A line without a statement. It takes at least one character. -/
def blankLine : Reader Unit := newline <|> do
  let _ ← satisfy isBlank <|> do comment; return ' '
  lineEnd

/-- Pairs up to the next header. -/
def pairs : Reader (List Pair) := do
  let lines ← many ((do return some (← pairLine)) <|> (do blankLine; return none))
  return lines.filterMap id

def header : Reader (Bool × List String) :=
  (do word ['[', '[']; let path ← key; word [']', ']']; return (true, path)) <|>
    (do char '['; let path ← key; char ']'; return (false, path))

def headed : Reader Section := do
  blanks
  let (repeated, path) ← header
  lineEnd
  return { repeated, path, pairs := ← pairs }

/-- Pairs of the root table, then sections to the end. A byte order mark may come first. -/
def document : Reader (List Pair × List Section) := do
  let _ ← maybe (char '\uFEFF')
  let root ← pairs
  let sections ← many headed
  blanks
  endOfInput
  return (root, sections)

end Reader

def Entries.addSection (t : Entries) (s : Section) : Option Entries :=
  if s.repeated then t.appendTable (Entries.fill s.pairs) s.path
  else t.openTable (Entries.fill s.pairs) s.path

/-- The root table of a document, if the text is one. -/
def document? (text : String) : Option Entries := do
  let ((pairs, sections), _) ← Reader.document text.toList
  sections.foldlM Entries.addSection (← Entries.fill pairs [])

end MultiDispatch.Toml

import MultiDispatch.Toml.Reader

/-! Space, comments, strings and keys. Quoted text comes in four shapes: with or without escapes, on
one line or on several. -/
namespace MultiDispatch.Toml

def isBlank (c : Char) : Bool := c = ' ' || c = '\t'

/-- Characters that may stand in comments: no control but the tab. -/
def isPlain (c : Char) : Bool := c = '\t' || (' ' ≤ c && c ≠ '\x7f')

def isBare (c : Char) : Bool := c.isAlphanum || c = '-' || c = '_'

def isHexDigit (c : Char) : Bool :=
  c.isDigit || ('a' ≤ c && c ≤ 'f') || ('A' ≤ c && c ≤ 'F')

/-- Value of a digit in bases up to sixteen. -/
def digitValue (c : Char) : Nat :=
  if c.isDigit then c.toNat - 48 else if c < 'a' then c.toNat - 55 else c.toNat - 87

def ofDigits (base : Nat) (digits : List Char) : Nat :=
  digits.foldl (fun n c => n * base + digitValue c) 0

namespace Reader

def blanks : Reader Unit := do let _ ← span isBlank

def newline : Reader Unit := char '\n' <|> word ['\r', '\n']

def comment : Reader Unit := do char '#'; let _ ← span isPlain

/-- End of a line, after blanks and a comment. -/
def lineEnd : Reader Unit := do
  blanks
  let _ ← maybe comment
  newline <|> endOfInput

/-- What may stand between the items of an array: blanks, line ends and comments. -/
def gap : Reader Unit := do
  let _ ← many ((do let _ ← satisfy isBlank) <|> newline <|> comment)

/-- A code point written with `n` hexadecimal digits. Surrogates are refused. -/
def codePoint (n : Nat) : Reader Char := do
  let value := ofDigits 16 (← exactly (satisfy isHexDigit) n)
  if value.isValidChar then return Char.ofNat value else failure

/-- What an escape stands for, after its backslash. -/
def escaped : Reader Char := do
  match ← satisfy fun _ => true with
  | 'b' => return '\x08'
  | 'f' => return '\x0c'
  | 'n' => return '\n'
  | 'r' => return '\r'
  | 't' => return '\t'
  | '"' => return '"'
  | '\\' => return '\\'
  | 'u' => codePoint 4
  | 'U' => codePoint 8
  | _ => failure

/-- Characters or an escape of text in double quotes. -/
def basicText : Reader (List Char) :=
  run (fun c => isPlain c && c ≠ '"' && c ≠ '\\') <|> do char '\\'; return [← escaped]

/-- Characters of text in single quotes, which has no escapes. -/
def literalText : Reader (List Char) := run fun c => isPlain c && c ≠ '\''

/-- Text on one line between two quotes. -/
def singleLine (quote : Char) (item : Reader (List Char)) : Reader String := do
  char quote
  let text ← many item
  char quote
  return String.ofList text.flatten

def basicString : Reader String := singleLine '"' basicText

def literalString : Reader String := singleLine '\'' literalText

/-- A backslash at the end of a line drops the line end and all space after it. -/
def continuation : Reader (List Char) := do
  char '\\'
  blanks
  newline
  let _ ← many ((do let _ ← satisfy isBlank) <|> newline)
  return []

/-- One or two quotes inside text that three of them end. -/
def innerQuotes (quote : Char) : Reader (List Char) := do
  let quotes ← span (· == quote)
  if quotes.isEmpty ∨ 2 < quotes.length then failure else return quotes

/-- Text on several lines, between triple quotes. A line end right after the opening ones is
dropped, and up to two quotes right before the closing ones belong to the text. -/
def multiline (quote : Char) (item : Reader (List Char)) : Reader String := do
  word [quote, quote, quote]
  let _ ← maybe newline
  let lineFeed : Reader (List Char) := do newline; return ['\n']
  let text ← many (item <|> lineFeed <|> innerQuotes quote)
  let quotes ← span (· == quote)
  if quotes.length < 3 ∨ 5 < quotes.length then failure
  return String.ofList (text.flatten ++ quotes.drop 3)

def multilineBasic : Reader String := multiline '"' (continuation <|> basicText)

def multilineLiteral : Reader String := multiline '\'' literalText

def string : Reader String :=
  multilineBasic <|> basicString <|> multilineLiteral <|> literalString

def simpleKey : Reader String :=
  basicString <|> literalString <|> do return String.ofList (← run isBare)

/-- Most keys that one dotted key may join. -/
def maxKeys : Nat := 79

/-- Keys joined by points. -/
def key : Reader (List String) := do
  let keys ← sepBy (do blanks; let k ← simpleKey; blanks; return k) (char '.')
  if maxKeys < keys.length then failure else return keys

end Reader

end MultiDispatch.Toml

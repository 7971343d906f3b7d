import MultiDispatch.Text.DefaultIgnorable
import MultiDispatch.Text.GraphemeExtend
import MultiDispatch.Text.Unprintable

/-! Text in double quotes, for messages and inspection. Quotes, backslashes and whitespace controls
are written as short escapes; a character that would not show, or that would combine with the one
before it, is written as its code point. -/
namespace MultiDispatch.Text

/-- Whether a character stands in the place of the one before it. The half-width voicing marks
extend a grapheme too, but in a place of their own. -/
def combines (c : Char) : Bool := isGraphemeExtend c && c ≠ '\uff9e' && c ≠ '\uff9f'

/-- Whether a character shows as itself between the quotes. -/
def isVisible (c : Char) : Bool := !(isUnprintable c || isDefaultIgnorable c || combines c)

/-- How a character stands between the quotes. -/
def escape (c : Char) : List Char :=
  match c with
  | '\x00' => ['\\', '0']
  | '\t' => ['\\', 't']
  | '\r' => ['\\', 'r']
  | '\n' => ['\\', 'n']
  | '\\' => ['\\', '\\']
  | '"' => ['\\', '"']
  | c =>
    if isVisible c then [c]
    else ['\\', 'u', '\x7b'] ++ Nat.toDigits 16 c.toNat ++ ['\x7d']

def quoted (s : String) : String := String.ofList ('"' :: s.toList.flatMap escape ++ ['"'])

end MultiDispatch.Text

import MultiDispatch.Toml.Text
import MultiDispatch.Toml.Value

/-! Numbers, booleans, dates and times. -/
namespace MultiDispatch.Toml.Reader

/-! Numbers. Single underscores may stand between digits. -/

def digits (p : Char → Bool) : Reader (List Char) := do
  let first ← satisfy p
  let others ← many (satisfy p <|> do char '_'; satisfy p)
  return first :: others

/-- Whether a minus sign stands here; a plus sign may. -/
def negative : Reader Bool :=
  (do char '-'; return true) <|> (do char '+'; return false) <|> pure false

/-- Sign and digits of a decimal integer, which has no leading zeros. -/
def signedDigits : Reader (Bool × List Char) := do
  let sign ← negative
  let zero : Reader (List Char) := do char '0'; return ['0']
  return (sign, ← zero <|> digits Char.isDigit)

/-- Integers are held in 64 bits with a sign. -/
def checked (n : Int) : Reader Value :=
  if -0x8000000000000000 ≤ n ∧ n < 0x8000000000000000 then return .integer n else failure

def radixInteger (mark : Char) (base : Nat) (p : Char → Bool) : Reader Value := do
  word ['0', mark]
  checked (ofDigits base (← digits p))

def integer : Reader Value :=
  radixInteger 'x' 16 isHexDigit <|> radixInteger 'o' 8 (fun c => '0' ≤ c && c ≤ '7') <|>
    radixInteger 'b' 2 (fun c => c = '0' || c = '1') <|> do
      let (sign, ds) ← signedDigits
      let n : Int := ofDigits 10 ds
      checked (if sign then -n else n)

def exponent : Reader Int := do
  char 'e' <|> char 'E'
  let sign ← negative
  let n : Int := ofDigits 10 (← digits Char.isDigit)
  return if sign then -n else n

def fraction : Reader (List Char) := do char '.'; digits Char.isDigit

/-- A number with a fraction, an exponent or both. One too great to be held is refused, though not
one too far below zero. -/
def decimal : Reader Value := do
  let (sign, whole) ← signedDigits
  let places ← maybe fraction
  let power ← if places.isSome then (·.getD 0) <$> maybe exponent else exponent
  let places := places.getD []
  let x := Decimal.Binary64.ofDecimal sign (ofDigits 10 (whole ++ places)) (power - places.length)
  if x = .infinite false then failure else return .float x

def special : Reader Value := do
  let sign ← negative
  (do word ['i', 'n', 'f']; return .float (.infinite sign)) <|>
    (do word ['n', 'a', 'n']; return .float .nan)

def boolean : Reader Value :=
  (do word ['t', 'r', 'u', 'e']; return .boolean true) <|>
    (do word ['f', 'a', 'l', 's', 'e']; return .boolean false)

/-! Dates and times. -/

/-- A number of exactly `n` digits between two bounds. -/
def bounded (n least greatest : Nat) : Reader Nat := do
  let value := ofDigits 10 (← exactly (satisfy Char.isDigit) n)
  if value < least ∨ greatest < value then failure else return value

def isLeapYear (year : Nat) : Bool :=
  year % 4 = 0 && (year % 100 ≠ 0 || year % 400 = 0)

def daysInMonth (year month : Nat) : Nat :=
  if month = 2 then (if isLeapYear year then 29 else 28)
  else if month ∈ [4, 6, 9, 11] then 30
  else 31

def date : Reader Unit := do
  let year ← bounded 4 0 9999
  char '-'
  let month ← bounded 2 1 12
  char '-'
  let _ ← bounded 2 1 (daysInMonth year month)

/-- Hour and minute. -/
def clock : Reader Unit := do
  let _ ← bounded 2 0 23
  char ':'
  let _ ← bounded 2 0 59

/-- A time of day. The second 60 is a leap second. -/
def time : Reader Unit := do
  clock
  char ':'
  let _ ← bounded 2 0 60
  let _ ← maybe do
    char '.'
    let _ ← satisfy Char.isDigit
    span Char.isDigit

/-- Distance from universal time. -/
def offset : Reader Unit :=
  char 'Z' <|> char 'z' <|> do
    char '+' <|> char '-'
    clock

/-- A time that follows a date. -/
def timeOfDate : Reader Unit := do
  char 'T' <|> char 't' <|> char ' '
  time
  let _ ← maybe offset

def dateTime : Reader Unit := do
  date
  let _ ← maybe timeOfDate

def moment : Reader Value := do
  return .datetime (String.ofList (← taken (dateTime <|> time)))

def scalar : Reader Value :=
  (do return .string (← string)) <|> moment <|> decimal <|> special <|> integer <|> boolean

end MultiDispatch.Toml.Reader

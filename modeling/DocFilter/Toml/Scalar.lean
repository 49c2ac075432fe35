import DocFilter.Text.Reader
import DocFilter.Time.Date
import DocFilter.Toml.Basic

/-!
The text of TOML values that hold no other values: strings, numbers, booleans, dates and times.
-/

namespace DocFilter.Toml

open Text Reader

/-- A character that may stand inside a line. -/
def isInline (c : Char) : Bool := c = '\t' || (0x20 ≤ c.toNat && c.toNat ≠ 0x7f)

/-- A space or a tab. -/
def isSpace (c : Char) : Bool := c = ' ' || c = '\t'

def skipSpaces : Reader Unit := do
  let _ ← run isSpace

def newline : Reader Unit := char '\n' <|> literally ['\r', '\n']

/-! ### Strings -/

/-- A character inside double quotes that stands for itself. -/
def readPlain : Reader (List Char) := do
  let c ← one fun c => isInline c && c ≠ '"' && c ≠ '\\'
  pure [c]

def escape? : Char → Option Char
  | 'b' => some '\x08'
  | 't' => some '\t'
  | 'n' => some '\n'
  | 'f' => some '\x0c'
  | 'r' => some '\r'
  | '"' => some '"'
  | '\\' => some '\\'
  | _ => none

def readCode (length : Nat) : Reader Char := do
  let digits ← exactly length fun _ => true
  let code ← ofOption (hexValue? digits)
  ofOption (scalar? code)

def readEscape : Reader (List Char) := do
  char '\\'
  let c ← one fun _ => true
  let e ←
    if c = 'u' then readCode 4
    else if c = 'U' then readCode 8
    else ofOption (escape? c)
  pure [e]

/-- A backslash at the end of a line, with the blanks and line ends up to the next text. -/
def readContinuation : Reader (List Char) := do
  char '\\'
  skipSpaces
  newline
  let _ ← many ((do let _ ← run1 isSpace) <|> newline)
  pure []

def readLineEnd : Reader (List Char) := do
  newline
  pure ['\n']

/-- One or two quotes that do not end a string of several lines. -/
def readInnerQuotes (quote : Char) : Reader (List Char) := do
  let quotes ← run1 (· = quote)
  require (quotes.length < 3)
  pure quotes

/-- The end of a string of several lines: three quotes, up to two more before them. -/
def readClosingQuotes (quote : Char) : Reader (List Char) := fun cs =>
  let count := min 5 (cs.takeWhile (· = quote)).length
  if count < 3 then none else some (List.replicate (count - 3) quote, cs.drop count)

def readLines (quote : Char) (piece : Reader (List Char)) : Reader String := do
  literally [quote, quote, quote]
  let _ ← optional newline
  let pieces ← many (piece <|> readLineEnd <|> readInnerQuotes quote)
  let last ← readClosingQuotes quote
  pure (String.ofList (pieces.flatten ++ last))

def readBasic : Reader String := do
  char '"'
  let pieces ← many (readPlain <|> readEscape)
  char '"'
  pure (String.ofList pieces.flatten)

def readLiteral : Reader String := do
  char '\''
  let cs ← run fun c => isInline c && c ≠ '\''
  char '\''
  pure (String.ofList cs)

def readBasicLines : Reader String :=
  readLines '"' (readPlain <|> readContinuation <|> readEscape)

def readLiteralLines : Reader String :=
  readLines '\'' do
    let c ← one fun c => isInline c && c ≠ '\''
    pure [c]

def readString : Reader String :=
  readBasicLines <|> readBasic <|> readLiteralLines <|> readLiteral

/-! ### Numbers -/

/-- Digits with single underscores between them. -/
def readDigits (isDigit : Char → Bool) : Reader (List Char) :=
  List.flatten <$> separated (run1 isDigit) (char '_')

/-- A sign, and whether it is a minus. -/
def readSign : Reader Bool :=
  (do char '-'; pure true) <|> (do char '+'; pure false) <|> pure false

/-- Digits before any point: no needless zero in front. -/
def readWhole : Reader (List Char) := do
  let digits ← readDigits Char.isDigit
  require (digits.head? ≠ some '0' || digits.length = 1)
  pure digits

def readPoint : Reader (List Char) := do
  char '.'
  readDigits Char.isDigit

def readPower : Reader Int := do
  let _ ← one fun c => c = 'e' || c = 'E'
  let negative ← readSign
  let n := decimalValue (← readDigits Char.isDigit)
  pure (if negative then -n else n)

/-- Whether `mantissa * 10 ^ power` lies beyond the numbers that round to the largest one of 64
bits: whether it is at least `2 ^ 1024 - 2 ^ 970`. Powers that leave no doubt are not computed. -/
def isHuge (mantissa : Nat) (power : Int) : Bool :=
  let size : Int := (decimal mantissa).length + power
  if mantissa = 0 ∨ size < 300 then false
  else if 320 < size then true
  else
    let limit := Nat.pow 2 1024 - Nat.pow 2 970
    let scale := Nat.pow 10 power.natAbs
    if power < 0 then limit * scale ≤ mantissa else limit ≤ mantissa * scale

/-- Two to the power of 63: integers have 64 bits with the sign. -/
def integerBound : Nat := 0x8000000000000000

/-- A number in decimal digits. With a point or an exponent it is a float; those which are too
large are refused, and those too far below zero are not. -/
def readDecimal : Reader Item := do
  let negative ← readSign
  let whole ← readWhole
  let fraction ← optional readPoint
  let power ← optional readPower
  if fraction.isNone && power.isNone then do
    let n := decimalValue whole
    require (if negative then n ≤ integerBound else n < integerBound)
    pure (.integer (if negative then -n else n))
  else do
    let decimals := fraction.getD []
    let exponent := power.getD 0 - decimals.length
    require (negative || !isHuge (decimalValue (whole ++ decimals)) exponent)
    pure .float

/-- A number in the digits of another base, after a zero and the mark of the base. -/
def readBased (base : Nat) (mark : Char) : Reader Item := do
  literally ['0', mark]
  let digits ← readDigits fun c => (hexDigit? c).any (· < base)
  let n := digits.foldl (fun n d => base * n + (hexDigit? d).getD 0) 0
  require (n < integerBound)
  pure (.integer n)

def readSpecial : Reader Item := do
  let _ ← readSign
  literally "inf".toList <|> literally "nan".toList
  pure .float

def readNumber : Reader Item :=
  readBased 16 'x' <|> readBased 8 'o' <|> readBased 2 'b' <|> readSpecial <|> readDecimal

/-! ### Dates and times -/

def readDate : Reader Unit := do
  let year ← digits 4
  char '-'
  let month ← digits 2
  char '-'
  let day ← digits 2
  require (Date.Valid ⟨year, month, day⟩)

def readTime : Reader Unit := do
  let hour ← digits 2
  char ':'
  let minute ← digits 2
  char ':'
  let second ← digits 2
  let _ ← optional do
    char '.'
    run1 Char.isDigit
  require (hour ≤ 23 && minute ≤ 59 && second ≤ 60)

def readOffset : Reader Unit := do
  let sign ← one (['Z', 'z', '+', '-'].contains ·)
  if sign.toUpper = 'Z' then pure () else do
    let hours ← digits 2
    char ':'
    let minutes ← digits 2
    require (hours ≤ 23 && minutes ≤ 59)

def readDateTime : Reader Item := do
  (do
    readDate
    let _ ← optional do
      let _ ← one (['T', 't', ' '].contains ·)
      readTime
      optional readOffset)
  <|> readTime
  pure .dateTime

def readScalar : Reader Item :=
  .string <$> readString
  <|> readDateTime
  <|> readNumber
  <|> (do literally "true".toList; pure (.boolean true))
  <|> (do literally "false".toList; pure (.boolean false))

end DocFilter.Toml

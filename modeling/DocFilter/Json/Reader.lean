import DocFilter.Json.Basic
import DocFilter.Text.Reader

/-!
Reading JSON text. A number is kept as it is written. A string whose escapes name half of a
surrogate pair is legal JSON and denotes no text.
-/

namespace DocFilter.Json

open Text

/-- JSON as written. -/
inductive Written
  | null
  | bool (b : Bool)
  /-- A number: its sign, its digits before any point, and whether they are all of it. -/
  | number (negative : Bool) (digits : List Char) (integral : Bool)
  | string (s : Option String)
  | array (items : List Written)
  | object (fields : List (Option String × Written))

namespace Written

/-- A character of a string, or one UTF-16 unit given by its number. -/
inductive Piece
  | char (c : Char)
  | unit (n : Nat)

/-- A character that an escape of two characters stands for. -/
def escape? : Char → Option Char
  | '"' => some '"'
  | '\\' => some '\\'
  | '/' => some '/'
  | 'b' => some '\x08'
  | 'f' => some '\x0c'
  | 'n' => some '\n'
  | 'r' => some '\r'
  | 't' => some '\t'
  | _ => none

def readEscape : Reader Piece := do
  let c ← Reader.one fun _ => true
  if c = 'u' then do
    let digits ← Reader.exactly 4 fun _ => true
    .unit <$> Reader.ofOption (hexValue? digits)
  else .char <$> Reader.ofOption (escape? c)

def readPiece : Reader Piece := do
  let c ← Reader.one fun c => c ≠ '"' && 0x20 ≤ c.toNat
  if c = '\\' then readEscape else pure (.char c)

def isHigh (n : Nat) : Bool := 0xd800 ≤ n && n < 0xdc00

def isLow (n : Nat) : Bool := 0xdc00 ≤ n && n < 0xe000

/-- The text of a string; surrogates count only in pairs. -/
def join? : List Piece → Option (List Char)
  | [] => some []
  | .char c :: rest => (join? rest).map (c :: ·)
  | .unit hi :: .unit lo :: rest =>
    if isHigh hi then
      if isLow lo then do
        let c ← scalar? (0x10000 + 0x400 * (hi - 0xd800) + (lo - 0xdc00))
        (join? rest).map (c :: ·)
      else none
    else do
      let c ← scalar? hi
      (join? (.unit lo :: rest)).map (c :: ·)
  | .unit n :: rest => do
    let c ← scalar? n
    (join? rest).map (c :: ·)

def readString : Reader (Option String) := do
  Reader.char '"'
  let pieces ← Reader.many readPiece
  Reader.char '"'
  pure ((join? pieces).map String.ofList)

/-- Digits without needless zeros in front. -/
def readInteger : Reader (List Char) := do
  let digits ← Reader.run1 Char.isDigit
  Reader.require (digits.head? ≠ some '0' || digits.length = 1)
  pure digits

def readPoint : Reader Unit := do
  Reader.char '.'
  let _ ← Reader.run1 Char.isDigit

def readExponent : Reader Unit := do
  let _ ← Reader.one fun c => c = 'e' || c = 'E'
  let _ ← Reader.optional (Reader.one fun c => c = '+' || c = '-')
  let _ ← Reader.run1 Char.isDigit

def readNumber : Reader Written := do
  let sign ← Reader.optional (Reader.char '-')
  let digits ← readInteger
  let fraction ← Reader.optional readPoint
  let power ← Reader.optional readExponent
  pure (.number sign.isSome digits (fraction.isNone && power.isNone))

def isSpace (c : Char) : Bool := c = ' ' || c = '\t' || c = '\n' || c = '\r'

def skipSpace : Reader Unit := do
  let _ ← Reader.run isSpace

/-- Items between brackets, with commas between them. -/
def readListed {α : Type} (opening closing : Char) (item : Reader α) : Reader (List α) := do
  Reader.char opening
  skipSpace
  let items ← Reader.separated item (Reader.char ',') <|> pure []
  Reader.char closing
  pure items

def readField (readValue : Reader Written) : Reader (Option String × Written) := do
  skipSpace
  let key ← readString
  skipSpace
  Reader.char ':'
  let v ← readValue
  pure (key, v)

/-- A value nested at most `depth` levels deep, and the blanks around it. -/
def readValue : (depth : Nat) → Reader Written
  | 0 => Reader.refuse
  | depth + 1 => do
    skipSpace
    let v ←
      (Reader.literally "null".toList >>= fun _ => pure .null)
      <|> (Reader.literally "true".toList >>= fun _ => pure (.bool true))
      <|> (Reader.literally "false".toList >>= fun _ => pure (.bool false))
      <|> .string <$> readString
      <|> .array <$> readListed '[' ']' (readValue depth)
      <|> .object <$> readListed '\x7b' '\x7d' (readField (readValue depth))
      <|> readNumber
    skipSpace
    pure v

/-- The value that a text holds. No value is nested deeper than its text is long. -/
def ofText? (text : String) : Option Written :=
  (readValue (text.toList.length + 1)).whole? text.toList

/-- The value of the only field with a key. -/
def unique? (key : String) (fields : List (Option String × Written)) : Option Written :=
  match fields.filter (·.1 = some key) with
  | [(_, v)] => some v
  | _ => none

end Written

end DocFilter.Json

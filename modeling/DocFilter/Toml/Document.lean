import DocFilter.Toml.Scalar

/-!
The text of whole TOML documents: values that hold values, keys, and lines.
-/

namespace DocFilter.Toml

open Text Reader

/-! ### Keys -/

def isBare (c : Char) : Bool := isWord c || c = '-'

def readKey : Reader String := String.ofList <$> run1 isBare <|> readBasic <|> readLiteral

/-- Keys with points between them, less than eighty: those on the way, and the last one. -/
def readDottedKey : Reader (List String × String) := do
  let keys ← separated
    (do
      skipSpaces
      let key ← readKey
      skipSpaces
      pure key)
    (char '.')
  require (keys.length < 80)
  let last ← ofOption keys.getLast?
  pure (keys.dropLast, last)

/-! ### Values -/

def readComment : Reader Unit := do
  char '#'
  let _ ← run isInline

/-- Blanks, line ends and comments. -/
def skipLines : Reader Unit := do
  let _ ← many <|
    (do let _ ← run1 isSpace)
    <|> newline
    <|> (do readComment; newline)

def readArray (readItem : Reader Item) : Reader Item := do
  char '['
  let items ←
    separated
      (do
        skipLines
        let item ← readItem
        skipLines
        pure item)
      (char ',')
    <|> pure []
  if items.isEmpty then pure () else do
    let _ ← optional (char ',')
  skipLines
  char ']'
  pure (.array items)

def readPair (readItem : Reader Item) : Reader (List String × String × Item) := do
  let (path, key) ← readDottedKey
  char '='
  skipSpaces
  let value ← readItem
  skipSpaces
  pure (path, key, value)

def readInlineTable (readItem : Reader Item) : Reader Item := do
  char '\x7b'
  let pairs ← separated (readPair readItem) (char ',') <|> pure []
  skipSpaces
  char '\x7d'
  .inlineTable <$> ofOption (Entries.ofPairs pairs)

/-- A value in which at most `depth` arrays and tables lie one in another. -/
def readItem : (depth : Nat) → Reader Item
  | 0 => readScalar
  | depth + 1 =>
    readScalar <|> readArray (readItem depth) <|> readInlineTable (readItem depth)

/-! ### Lines -/

def readHeader : Reader Statement := do
  char '['
  let (path, key) ← readDottedKey
  char ']'
  pure (.header path key)

def readElement : Reader Statement := do
  literally ['[', '[']
  let (path, key) ← readDottedKey
  literally [']', ']']
  pure (.element path key)

/-- A key with its value. At most 79 arrays and tables lie one in another. -/
def readAssignment : Reader Statement := do
  let (path, key, value) ← readPair (readItem 79)
  pure (.pair path key value)

def readLine : Reader (Option Statement) := do
  skipSpaces
  let statement ← optional (readElement <|> readHeader <|> readAssignment)
  skipSpaces
  let _ ← optional readComment
  pure statement

def readStatements : Reader (List Statement) := do
  let _ ← optional (char '\ufeff')
  let lines ← separated readLine newline
  atEnd
  pure (lines.filterMap id)

/-- What a TOML document holds, if its text keeps the grammar and the rules on definitions. -/
def read? (text : String) : Option Entries := readStatements.whole? text.toList >>= define?

end DocFilter.Toml

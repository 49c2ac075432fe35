import DocFilter.Pattern.Cursor

/-!
Reading what a backslash begins: characters, classes and assertions.
-/

namespace DocFilter.Pattern

/-- A part of a pattern that has no parts. -/
inductive Atom
  | literal (l : Literal)
  | named (c : NamedClass)
  | assertion (span : Span) (a : Assertion)
  | dot (span : Span)
  deriving DecidableEq, Repr

def Atom.span : Atom → Span
  | literal l => l.span
  | named c => c.span
  | assertion span _ => span
  | dot span => span

namespace Reading

def literal (start : Position) (char : Char) (isByte : Bool) : Reading Atom := do
  return .literal ⟨← spanFrom start, char, isByte⟩

/-- The character of some hexadecimal digits. -/
def hexChar (digits : List Char) (span : Span) : Reading Char :=
  match (Text.hexValue? digits).bind Text.scalar? with
  | some c => return c
  | none => fail .hexInvalid span

/-- Reads hexadecimal digits of a number that is given. -/
def hexDigits : Nat → Reading (List Char)
  | 0 => return []
  | n + 1 => do
    match ← peek with
    | none => fail .escapeUnfinished (← get).point
    | some d =>
      if (Text.hexDigit? d).isNone then fail .hexInvalidDigit (← get).charSpan
      let _ ← advanceOver
      return d :: (← hexDigits n)

/-- Reads hexadecimal digits up to a brace. -/
def bracedHexDigits : Nat → Reading (List Char)
  | 0 => return []
  | fuel + 1 => do
    match ← peek with
    | none => return []
    | some '\x7d' => return []
    | some d =>
      if (Text.hexDigit? d).isNone then fail .hexInvalidDigit (← get).charSpan
      let _ ← advanceOver
      return d :: (← bracedHexDigits fuel)

/-- Reads a code point, of a number of digits or in braces. -/
def hexEscape (start : Position) (count : Nat) : Reading Atom := do
  if !(← advanceOver) then fail .escapeUnfinished (← get).point
  let first := (← get).here
  if (← peek) = some '\x7b' then
    let inner := (← get).charSpan.stop
    let _ ← advanceOver
    let digits ← bracedHexDigits (← get).rest.length
    let stop := (← get).here
    if (← peek).isNone then fail .escapeUnfinished (← spanFrom first)
    let _ ← advanceOver
    if digits.isEmpty then fail .hexEmpty (← spanFrom first)
    literal start (← hexChar digits ⟨inner, stop⟩) false
  else
    let digits ← hexDigits count
    literal start (← hexChar digits (← spanFrom first)) (count = 2)

/-- The property that is meant by a text in braces. -/
def property (text : List Char) : Property × Bool :=
  let s := String.ofList text
  match s.splitOn "!=" with
  | name :: value :: more => (⟨name, some ("!=".intercalate (value :: more))⟩, true)
  | _ =>
    match s.splitOn ":" with
    | name :: value :: more => (⟨name, some (":".intercalate (value :: more))⟩, false)
    | _ =>
      match s.splitOn "=" with
      | name :: value :: more => (⟨name, some ("=".intercalate (value :: more))⟩, false)
      | _ => (⟨s, none⟩, false)

/-- Reads a class of characters with a property. -/
def propertyClass (start : Position) (negated : Bool) : Reading Atom := do
  if !(← advanceOver) then fail .escapeUnfinished (← get).point
  match ← peek with
  | some '\x7b' =>
    let _ ← advanceOver
    let text ← readAll (· ≠ '\x7d')
    if (← peek).isNone then fail .escapeUnfinished (← get).point
    let _ ← advance
    let (p, unequal) := property text
    return .named ⟨← spanFrom start, negated != unequal, .inr p⟩
  | some '\\' => fail .propertyClassInvalid (← get).charSpan
  | name =>
    let _ ← advanceOver
    return .named ⟨← spanFrom start, negated, .inr ⟨String.ofList name.toList, none⟩⟩

def letterClass? : Char → Option (LetterClass × Bool)
  | 'd' => some (.digit, false)
  | 'D' => some (.digit, true)
  | 's' => some (.space, false)
  | 'S' => some (.space, true)
  | 'w' => some (.word, false)
  | 'W' => some (.word, true)
  | _ => none

/-- The assertions that are named in braces. -/
def boundary? : List Char → Option Assertion
  | ['s', 't', 'a', 'r', 't'] => some .wordStart
  | ['e', 'n', 'd'] => some .wordStop
  | ['s', 't', 'a', 'r', 't', '-', 'h', 'a', 'l', 'f'] => some .noWordBefore
  | ['e', 'n', 'd', '-', 'h', 'a', 'l', 'f'] => some .noWordAfter
  | _ => none

/-- Reads the rest of a word boundary. Braces without a name are left for a repetition. -/
def wordBoundary (start : Position) : Reading Atom := do
  let plain : Atom := .assertion (← spanFrom start) .wordEdge
  if (← peek) ≠ some '\x7b' then return plain
  let brace ← get
  if !(← advanceOver) then fail .wordBoundaryUnfinished (← spanFrom start)
  let inner := (← get).here
  let isName (c : Char) : Bool := c.isAlpha || c = '-'
  if !(← peek).any isName then
    set brace
    return plain
  let name ← readAll isName
  let stop := (← get).here
  if (← peek) ≠ some '\x7d' then fail .wordBoundaryUnclosed (← spanFrom brace.here)
  let _ ← advance
  match boundary? name with
  | some a => return .assertion (← spanFrom start) a
  | none => fail .wordBoundaryUnrecognized ⟨inner, stop⟩

/-- The control characters that a letter stands for. -/
def control? : Char → Option Char
  | 'a' => some '\x07'
  | 'f' => some '\x0c'
  | 't' => some '\t'
  | 'n' => some '\n'
  | 'r' => some '\r'
  | 'v' => some '\x0b'
  | _ => none

def assertion? : Char → Option Assertion
  | 'A' => some .textStart
  | 'z' => some .textStop
  | 'B' => some .noWordEdge
  | '<' => some .wordStart
  | '>' => some .wordStop
  | _ => none

/-- Whether a character stands for itself behind a backslash. -/
def isPlain (c : Char) : Bool :=
  c.toNat < 128 && !c.isAlphanum && c ≠ '<' && c ≠ '>'

/-- Reads from a backslash on. -/
def escape : Reading Atom := do
  let start := (← get).here
  if !(← advance) then fail .escapeUnfinished (← spanFrom start)
  let c := (← peek).getD '\\'
  if c.isDigit then fail .backreference ⟨start, (← get).charSpan.stop⟩
  match c with
  | 'x' => hexEscape start 2
  | 'u' => hexEscape start 4
  | 'U' => hexEscape start 8
  | 'p' => propertyClass start false
  | 'P' => propertyClass start true
  | _ =>
    let _ ← advance
    let span ← spanFrom start
    match letterClass? c with
    | some (name, negated) => return .named ⟨span, negated, .inl name⟩
    | none =>
      if isPlain c then literal start c false
      else if c = 'b' then wordBoundary start
      else match control? c, assertion? c with
        | some x, _ => literal start x false
        | none, some a => return .assertion span a
        | none, none => fail .escapeUnrecognized span

/-- Reads an atom. -/
def atom : Reading Atom := do
  let c ← get
  match c.rest with
  | '\\' :: _ => escape
  | x :: _ =>
    let _ ← advance
    return match x with
      | '.' => .dot c.charSpan
      | '^' => .assertion c.charSpan .lineStart
      | '$' => .assertion c.charSpan .lineStop
      | _ => .literal ⟨c.charSpan, x, false⟩
  | [] => return .dot c.point

end Reading

end DocFilter.Pattern

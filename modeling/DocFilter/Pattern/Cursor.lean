import DocFilter.Pattern.Tree

/-!
Reading a written pattern character by character.
-/

namespace DocFilter.Pattern

/-- A place in a written pattern: what is left, where it is, whether blanks and comments are left
out, and the names of the groups so far. -/
structure Cursor where
  rest : List Char
  here : Position
  blanks : Bool
  names : List (String × Span)

namespace Cursor

def ofText (text : String) : Cursor := ⟨text.toList, ⟨0, 1, 1⟩, false, []⟩

/-- The place behind the next character. -/
def step (c : Cursor) : Cursor :=
  match c.rest with
  | [] => c
  | x :: xs => { c with rest := xs, here := c.here.behind x }

def steps : Nat → Cursor → Cursor
  | 0, c => c
  | n + 1, c => steps n c.step

/-- The number of characters that blanks and comments take. -/
def blankLength (inComment : Bool) : List Char → Nat
  | [] => 0
  | x :: xs =>
    if inComment then 1 + blankLength (x ≠ '\n') xs
    else if Text.whiteSpace.has x then 1 + blankLength false xs
    else if x = '#' then 1 + blankLength true xs
    else 0

/-- The place behind blanks and comments, where these are left out. -/
def skip (c : Cursor) : Cursor :=
  if c.blanks then c.steps (blankLength false c.rest) else c

/-- The character after the next one. -/
def second? (c : Cursor) : Option Char := c.rest.tail.head?

/-- The same without blanks, where these are left out. A comment shows the character it begins
with. -/
def secondShown? (c : Cursor) : Option Char :=
  let shown (xs : List Char) : List Char := xs.dropWhile Text.whiteSpace.has
  if c.blanks then
    let next := match shown c.rest.tail with
      | '#' :: comment => shown comment
      | xs => xs
    next.head?.or c.second?
  else c.second?

/-- The span of the next character. -/
def charSpan (c : Cursor) : Span := ⟨c.here, c.step.here⟩

/-- The empty span. -/
def point (c : Cursor) : Span := ⟨c.here, c.here⟩

end Cursor

/-- Reading from a cursor, which a flaw ends. -/
abbrev Reading := StateT Cursor (Except Flaw)

namespace Reading

def fail {α : Type} (fault : Fault) (span : Span) : Reading α := throw ⟨fault, span, none⟩

/-- The next character. -/
def peek : Reading (Option Char) := return (← get).rest.head?

/-- Passes a character, and tells whether there is one behind it. -/
def advance : Reading Bool := do
  modify Cursor.step
  return !(← get).rest.isEmpty

def skip : Reading Unit := modify Cursor.skip

/-- The same over blanks and comments. -/
def advanceOver : Reading Bool := do
  if ← advance then
    skip
    return !(← get).rest.isEmpty
  else return false

/-- Passes a text, if it comes next. -/
def accept (text : String) : Reading Bool := do
  let c ← get
  if text.toList.isPrefixOf c.rest then
    set (c.steps text.length)
    return true
  else return false

/-- The span from a place to this one. -/
def spanFrom (start : Position) : Reading Span := return ⟨start, (← get).here⟩

/-- Reads characters that pass a test, each with the blanks behind it. -/
def readWhile (test : Char → Bool) : Nat → Reading (List Char)
  | 0 => return []
  | fuel + 1 => do
    match ← peek with
    | some x =>
      if test x then
        let _ ← advanceOver
        return x :: (← readWhile test fuel)
      else return []
    | none => return []

/-- Reads all characters that pass a test, each with the blanks behind it. -/
def readAll (test : Char → Bool) : Reading (List Char) := do
  readWhile test (← get).rest.length

end Reading

end DocFilter.Pattern

import DocFilter.Text.Basic

/-!
What can be wrong with a written pattern, and how it is told.
-/

namespace DocFilter.Pattern

/-- A place in a written pattern. Lines and columns are counted from one. -/
structure Position where
  index : Nat
  line : Nat
  column : Nat
  deriving DecidableEq, Repr

/-- The place behind a character. -/
def Position.behind (p : Position) (c : Char) : Position :=
  if c = '\n' then ⟨p.index + 1, p.line + 1, 1⟩ else ⟨p.index + 1, p.line, p.column + 1⟩

structure Span where
  start : Position
  stop : Position
  deriving DecidableEq, Repr

/-- The greatest depth to which the parts of a pattern may be nested. -/
def maxDepth : Nat := 250

inductive Fault
  | classEscapeInvalid
  | classRangeInvalid
  | classRangeLiteral
  | classUnclosed
  | decimalInvalid
  | hexEmpty
  | hexInvalid
  | hexInvalidDigit
  | escapeUnfinished
  | escapeUnrecognized
  | flagDanglingNegation
  | flagDuplicate
  | flagRepeatedNegation
  | flagUnfinished
  | flagUnrecognized
  | groupNameDuplicate
  | groupNameEmpty
  | groupNameInvalid
  | groupNameUnfinished
  | groupUnclosed
  | groupUnopened
  | tooDeep
  | countInvalid
  | countEmpty
  | countUnclosed
  | repetitionMissing
  | wordBoundaryUnclosed
  | wordBoundaryUnrecognized
  | wordBoundaryUnfinished
  | propertyClassInvalid
  | backreference
  | lookAround
  | notText
  | notAscii
  | propertyNotFound
  | propertyValueNotFound
  deriving DecidableEq, Repr

namespace Fault

def message : Fault → String
  | classEscapeInvalid => "invalid escape sequence found in character class"
  | classRangeInvalid => "invalid character class range, the start must be <= the end"
  | classRangeLiteral => "invalid range boundary, must be a literal"
  | classUnclosed => "unclosed character class"
  | decimalInvalid => "decimal literal invalid"
  | hexEmpty => "hexadecimal literal empty"
  | hexInvalid => "hexadecimal literal is not a Unicode scalar value"
  | hexInvalidDigit => "invalid hexadecimal digit"
  | escapeUnfinished => "incomplete escape sequence, reached end of pattern prematurely"
  | escapeUnrecognized => "unrecognized escape sequence"
  | flagDanglingNegation => "dangling flag negation operator"
  | flagDuplicate => "duplicate flag"
  | flagRepeatedNegation => "flag negation operator repeated"
  | flagUnfinished => "expected flag but got end of regex"
  | flagUnrecognized => "unrecognized flag"
  | groupNameDuplicate => "duplicate capture group name"
  | groupNameEmpty => "empty capture group name"
  | groupNameInvalid => "invalid capture group character"
  | groupNameUnfinished => "unclosed capture group name"
  | groupUnclosed => "unclosed group"
  | groupUnopened => "unopened group"
  | tooDeep => s!"exceed the maximum number of nested parentheses/brackets ({maxDepth})"
  | countInvalid => "invalid repetition count range, the start must be <= the end"
  | countEmpty => "repetition quantifier expects a valid decimal"
  | countUnclosed => "unclosed counted repetition"
  | repetitionMissing => "repetition operator missing expression"
  | wordBoundaryUnclosed =>
    "special word boundary assertion is either unclosed or contains an invalid character"
  | wordBoundaryUnrecognized =>
    "unrecognized special word boundary assertion, valid choices are: start, end, " ++
      "start-half or end-half"
  | wordBoundaryUnfinished =>
    "found either the beginning of a special word boundary or a bounded repetition on a \\b " ++
      "with an opening brace, but no closing brace"
  | propertyClassInvalid => "invalid Unicode character class"
  | backreference => "backreferences are not supported"
  | lookAround => "look-around, including look-ahead and look-behind, is not supported"
  | notText => "pattern can match invalid UTF-8"
  | notAscii => "Unicode not allowed here"
  | propertyNotFound => "Unicode property not found"
  | propertyValueNotFound => "Unicode property value not found"

end Fault

/-- A fault, where it is, and where the first of two things is that do not go together. -/
structure Flaw where
  fault : Fault
  span : Span
  first : Option Span
  deriving DecidableEq, Repr

namespace Flaw

def spans (f : Flaw) : List Span := f.span :: f.first.toList

/-- The lines of a pattern. A carriage return before a line feed belongs to the end of its line. -/
def lines (pattern : String) : List String :=
  match (pattern.splitOn "\n").reverse with
  | [] => []
  | last :: ended =>
    let ended := ended.map fun l => if l.endsWith "\r" then (l.dropEnd 1).toString else l
    (if last = "" then ended else last :: ended).reverse

/-- Marks below a line for spans in order, from a column on. -/
def carets (column : Nat) : List Span → List Char
  | [] => []
  | s :: ss =>
    let count := max 1 (s.stop.column - s.start.column)
    List.replicate (s.start.column - column) ' ' ++ List.replicate count '^' ++
      carets (max column s.start.column + count) ss

/-- The lines of a pattern, each behind its head, with marks below those that have spans. -/
def noted (spans : List Span) (head : Nat → String) (number : Nat) : List String → String
  | [] => ""
  | line :: rest =>
    let here := spans.filter fun s => s.start.line = number ∧ s.stop.line = number
    let marks :=
      if here.isEmpty then ""
      else String.ofList (List.replicate (head number).length ' ' ++ carets 1 here) ++ "\n"
    head number ++ line ++ "\n" ++ marks ++ noted spans head (number + 1) rest

/-- What is said of a span of more than one line. -/
def extent (s : Span) : String :=
  s!"on line {s.start.line} (column {s.start.column}) " ++
    s!"through line {s.stop.line} (column {s.stop.column - 1})"

def inOrder (spans : List Span) : List Span :=
  spans.mergeSort fun s t =>
    s.start.index < t.start.index ∨ (s.start.index = t.start.index ∧ s.stop.index ≤ t.stop.index)

def message (f : Flaw) (pattern : String) : String :=
  let spans := inOrder f.spans
  let shown := lines pattern
  if pattern.contains '\n' then
    let count := shown.length + (if pattern.endsWith "\n" then 1 else 0)
    let digits := (toString count).length
    let head (number : Nat) : String :=
      if count ≤ 1 then "    "
      else String.ofList (List.replicate (digits - (toString number).length) ' ') ++
        toString number ++ ": "
    let divider := String.ofList (List.replicate 79 '~') ++ "\n"
    let long := spans.filter fun s => s.start.line ≠ s.stop.line
    let notes := if long.isEmpty then "" else "\n".intercalate (long.map extent) ++ "\n"
    "regex parse error:\n" ++ divider ++ noted spans head 1 shown ++ divider ++ notes ++
      "error: " ++ f.fault.message
  else
    "regex parse error:\n" ++ noted spans (fun _ => "    ") 1 shown ++ "error: " ++ f.fault.message

end Flaw

end DocFilter.Pattern

import DocFilter.Pattern.Flaw

/-!
Patterns as they are written, with the spans that flaws are told by.
-/

namespace DocFilter.Pattern

inductive Flag
  | ignoreCase
  | multiLine
  | dotMatchesLineFeed
  | swapGreed
  | unicode
  | carriageReturns
  | ignoreBlanks
  deriving DecidableEq, Repr

/-- A flag to be set, or the sign behind which flags are cleared. -/
inductive FlagItem
  | negation
  | flag (f : Flag)
  deriving DecidableEq, Repr

structure Literal where
  span : Span
  char : Char
  /-- Whether it is written as a byte, in two hexadecimal digits. -/
  isByte : Bool
  deriving DecidableEq, Repr

inductive Assertion
  | lineStart
  | lineStop
  | textStart
  | textStop
  | wordEdge
  | noWordEdge
  | wordStart
  | wordStop
  | noWordBefore
  | noWordAfter
  deriving DecidableEq, Repr

/-- Classes with a letter of their own. -/
inductive LetterClass
  | digit | space | word
  deriving DecidableEq, Repr

/-- The property of a class, by its name, and by a value if it has one. -/
structure Property where
  name : String
  value : Option String
  deriving DecidableEq, Repr

structure NamedClass where
  span : Span
  negated : Bool
  name : LetterClass ⊕ Property
  deriving DecidableEq, Repr

/-- Classes of ASCII with a name. -/
inductive AsciiClass
  | alnum | alpha | ascii | blank | cntrl | digit | graph | lower | print | punct | space | upper
  | word | xdigit
  deriving DecidableEq, Repr

inductive SetOperation
  | intersection | difference | symmetricDifference
  deriving DecidableEq, Repr

/-- A class in brackets: items side by side, joined by operations. -/
inductive ClassSet
  | empty
  | literal (l : Literal)
  | range (span : Span) (lo hi : Literal)
  | ascii (span : Span) (negated : Bool) (name : AsciiClass)
  | named (c : NamedClass)
  | bracketed (span : Span) (negated : Bool) (set : ClassSet)
  | union (first second : ClassSet)
  | operation (o : SetOperation) (first second : ClassSet)
  deriving DecidableEq, Repr

inductive Tree
  | flags (items : List FlagItem)
  | literal (l : Literal)
  | dot (span : Span)
  | assertion (a : Assertion)
  | named (c : NamedClass)
  | bracketed (span : Span) (negated : Bool) (set : ClassSet)
  | repetition (span : Span) (body : Tree) (least : Nat) (most : Option Nat)
  | group (span : Span) (flags : List FlagItem) (body : Tree)
  | alternation (span : Span) (branches : List Tree)
  | sequence (span : Span) (parts : List Tree)
  deriving Repr

namespace Tree

/-- The parts of a sequence, which stands for itself if it is the only one. -/
def ofParts (span : Span) : List Tree → Tree
  | [part] => part
  | parts => sequence span parts

def ofBranches (span : Span) : List Tree → Tree
  | [branch] => branch
  | branches => alternation span branches

mutual

/-- The first part that lies too deep, where the depth of the whole is given. -/
def tooDeep? (depth : Nat) : Tree → Option Span
  | bracketed span .. => if maxDepth ≤ depth then some span else none
  | repetition span body .. =>
    if maxDepth ≤ depth then some span else tooDeep? (depth + 1) body
  | group span _ body => if maxDepth ≤ depth then some span else tooDeep? (depth + 1) body
  | alternation span branches =>
    if maxDepth ≤ depth then some span else tooDeepIn? (depth + 1) branches
  | sequence _ [] => none
  | sequence span parts =>
    if maxDepth ≤ depth then some span else tooDeepIn? (depth + 1) parts
  | _ => none

def tooDeepIn? (depth : Nat) : List Tree → Option Span
  | [] => none
  | part :: parts => (tooDeep? depth part).or (tooDeepIn? depth parts)

end

end Tree

end DocFilter.Pattern

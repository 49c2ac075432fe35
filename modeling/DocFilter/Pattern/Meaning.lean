import DocFilter.Pattern.Basic
import DocFilter.Pattern.Class
import DocFilter.Pattern.Parser
import DocFilter.Text.Folding

/-!
What written patterns match. Flags hold from where they are set to the end of the group around
them, in all branches of it.
-/

namespace DocFilter.Pattern

open Text (Ranges)

/-- The flags that bear on what is matched. -/
structure Flags where
  ignoreCase : Bool
  multiLine : Bool
  dotMatchesLineFeed : Bool
  carriageReturns : Bool
  unicode : Bool
  deriving DecidableEq, Repr

namespace Flags

def base : Flags := ⟨false, false, false, false, true⟩

def set (f : Flags) (items : List FlagItem) : Flags :=
  { ignoreCase := FlagItem.setting .ignoreCase f.ignoreCase items
    multiLine := FlagItem.setting .multiLine f.multiLine items
    dotMatchesLineFeed := FlagItem.setting .dotMatchesLineFeed f.dotMatchesLineFeed items
    carriageReturns := FlagItem.setting .carriageReturns f.carriageReturns items
    unicode := FlagItem.setting .unicode f.unicode items }

/-- The characters of a class, in any case if case is to be ignored. -/
def fold (f : Flags) (s : Ranges) : Ranges :=
  if !f.ignoreCase then s
  else if f.unicode then s.anyCase
  else s.union ((s.anyCase).intersection [(0, 0x7f)])

/-- The characters of a class or those not in it. Without Unicode the latter are bytes, of which
not all are characters. -/
def negate (f : Flags) (span : Span) (negated : Bool) (s : Ranges) : Except Flaw Ranges :=
  if !negated then .ok s
  else if f.unicode then .ok s.complement
  else .error ⟨.notText, span, none⟩

end Flags

namespace NamedClass

def ranges (f : Flags) (c : NamedClass) : Except Flaw Ranges :=
  match c.name with
  | .inl name => f.negate c.span c.negated (if f.unicode then name.ranges else name.asciiRanges)
  | .inr p =>
    if !f.unicode then .error ⟨.notAscii, c.span, none⟩
    else match p.ranges with
      | .error fault => .error ⟨fault, c.span, none⟩
      | .ok s => f.negate c.span c.negated (f.fold s)

end NamedClass

namespace Literal

/-- The code point of a literal in a class. -/
def classCode (f : Flags) (l : Literal) : Except Flaw Nat :=
  if f.unicode ∨ l.char.toNat ≤ 0x7f then .ok l.char.toNat
  else .error ⟨if l.isByte then .notText else .notAscii, l.span, none⟩

end Literal

namespace ClassSet

def ranges (f : Flags) : ClassSet → Except Flaw Ranges
  | empty => .ok []
  | literal l => do
    let c ← l.classCode f
    return [(c, c)]
  | range _ lo hi => do
    return [(← lo.classCode f, ← hi.classCode f)]
  | ascii span negated name => f.negate span negated (f.fold name.ranges)
  | named c => c.ranges f
  | bracketed span negated set => do
    f.negate span negated (f.fold (← set.ranges f))
  | union first second => do
    return (← first.ranges f) ++ (← second.ranges f)
  | operation o first second => do
    let s := f.fold (← first.ranges f)
    let t := f.fold (← second.ranges f)
    return match o with
      | .intersection => s.intersection t
      | .difference => s.difference t
      | .symmetricDifference => s.symmetricDifference t

end ClassSet

namespace Assertion

def look (f : Flags) (a : Assertion) : Look :=
  let word := if f.unicode then LetterClass.word.ranges else LetterClass.word.asciiRanges
  match a with
  | lineStart =>
    if !f.multiLine then .textStart else if f.carriageReturns then .breakStart else .lineStart
  | lineStop =>
    if !f.multiLine then .textStop else if f.carriageReturns then .breakStop else .lineStop
  | textStart => .textStart
  | textStop => .textStop
  | wordEdge => .wordEdge word
  | noWordEdge => .noWordEdge word
  | wordStart => .wordStart word
  | wordStop => .wordStop word
  | noWordBefore => .noWordBefore word
  | noWordAfter => .noWordAfter word

end Assertion

namespace Tree

/-- The characters of a literal. -/
def literalRanges (f : Flags) (l : Literal) : Except Flaw Ranges :=
  let c := l.char.toNat
  if f.unicode ∨ c ≤ 0x7f then .ok (f.fold [(c, c)])
  else if l.isByte then .error ⟨.notText, l.span, none⟩
  else .ok [(c, c)]

/-- The characters that a dot stands for. -/
def dotRanges (f : Flags) (span : Span) : Except Flaw Ranges :=
  if !f.unicode then .error ⟨.notText, span, none⟩
  else if f.dotMatchesLineFeed then .ok [(0, Text.lastCode)]
  else if f.carriageReturns then .ok (Ranges.complement [(0xa, 0xa), (0xd, 0xd)])
  else .ok (Ranges.complement [(0xa, 0xa)])

mutual

/-- What a tree matches, and the flags that hold behind it. -/
def pattern (f : Flags) : Tree → Except Flaw (Pattern × Flags)
  | flags items => .ok (.empty, f.set items)
  | literal l => do return (.one (← literalRanges f l), f)
  | dot span => do return (.one (← dotRanges f span), f)
  | assertion a => .ok (.look (a.look f), f)
  | named c => do return (.one (← c.ranges f), f)
  | bracketed span negated set => do
    return (.one (← f.negate span negated (f.fold (← set.ranges f))), f)
  | repetition _ body least most => do
    let (r, f) ← pattern f body
    return (.rep r least most, f)
  | group _ items body => do
    let (r, _) ← pattern (f.set items) body
    return (r, f)
  | alternation _ branches => patternOfBranches f branches
  | sequence _ parts => patternOfParts f parts

def patternOfParts (f : Flags) : List Tree → Except Flaw (Pattern × Flags)
  | [] => .ok (.empty, f)
  | part :: parts => do
    let (r, f) ← pattern f part
    let (s, f) ← patternOfParts f parts
    return (.cat r s, f)

def patternOfBranches (f : Flags) : List Tree → Except Flaw (Pattern × Flags)
  | [] => .ok (.one [], f)
  | branch :: branches => do
    let (r, f) ← pattern f branch
    let (s, f) ← patternOfBranches f branches
    return (.alt r s, f)

end

end Tree

/-- About how many bytes a set of characters takes in an automaton. -/
def setSize (s : Ranges) : Nat :=
  if s.all fun (_, hi) => hi ≤ 0x7f then 32 else 320 + 28 * s.length

/-- About how many bytes a pattern takes in an automaton, which has a copy for each repetition. -/
def size : Pattern → Nat
  | empty => 0
  | one set => setSize set
  | look _ => 0
  | cat r s => r.size + s.size
  | alt r s => r.size + s.size
  | rep r least most => r.size * max 1 (most.getD least)

/-- The bytes that a pattern may take. -/
def maxSize : Nat := 10485760

/-- The pattern that a text describes, or why there is none. -/
def ofText (text : String) : Except String Pattern :=
  match read text with
  | .error flaw => .error (flaw.message text)
  | .ok tree =>
    match tree.pattern .base with
    | .error flaw => .error (flaw.message text)
    | .ok (r, _) =>
      if maxSize < r.size then .error s!"Compiled regex exceeds size limit of {maxSize} bytes."
      else .ok r

end DocFilter.Pattern

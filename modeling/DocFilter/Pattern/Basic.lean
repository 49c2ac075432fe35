import DocFilter.Text.Basic

/-!
Regular expressions, by what they match.
-/

namespace DocFilter

/-- What can be asked of the place between two characters. -/
inductive Look
  | textStart
  | textStop
  | lineStart
  | lineStop
  /-- Of lines that may also end with a carriage return, or with both. -/
  | breakStart
  | breakStop
  /-- Of words over a set of characters. -/
  | wordEdge (word : Text.Ranges)
  | noWordEdge (word : Text.Ranges)
  | wordStart (word : Text.Ranges)
  | wordStop (word : Text.Ranges)
  | noWordBefore (word : Text.Ranges)
  | noWordAfter (word : Text.Ranges)
  deriving DecidableEq, Repr

inductive Pattern
  | empty
  | one (set : Text.Ranges)
  | look (l : Look)
  | cat (first second : Pattern)
  | alt (first second : Pattern)
  /-- A number of repetitions, from the least to the most, if there is one. -/
  | rep (body : Pattern) (least : Nat) (most : Option Nat)
  deriving DecidableEq, Repr

end DocFilter

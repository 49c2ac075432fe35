import DocFilter.Pattern.Basic

/-!
Whether a pattern matches anywhere in a text. A text of n characters has n + 1 places, and a pattern
leads from some places to others: from where a match may start to where it may stop.
-/

namespace DocFilter

namespace Look

/-- Whether it holds between two characters, or before or behind all of them. -/
def holds (l : Look) (before after : Option Char) : Bool :=
  let inWord (word : Text.Ranges) (c : Option Char) : Bool := c.any word.has
  match l with
  | textStart => before.isNone
  | textStop => after.isNone
  | lineStart => before.all (· = '\n')
  | lineStop => after.all (· = '\n')
  | breakStart => before.all fun c => c = '\n' || (c = '\r' && after ≠ some '\n')
  | breakStop => after.all fun c => c = '\r' || (c = '\n' && before ≠ some '\r')
  | wordEdge word => inWord word before != inWord word after
  | noWordEdge word => inWord word before == inWord word after
  | wordStart word => !inWord word before && inWord word after
  | wordStop word => inWord word before && !inWord word after
  | noWordBefore word => !inWord word before
  | noWordAfter word => !inWord word after

end Look

namespace Pattern

/-- For each place of a text, whether it is among some. -/
abbrev Places := List Bool

namespace Places

def union (p q : Places) : Places := List.zipWith (· || ·) p q

/-- A step taken a number of times. A step that changes nothing is not repeated. -/
def times (step : Places → Places) : Nat → Places → Places
  | 0, p => p
  | n + 1, p => if step p = p then p else times step n (step p)

/-- The places that any number of steps up to a bound leads to, besides those that were reached.
It ends when a step reaches nothing new. -/
def upTo (step : Places → Places) : Nat → (reached last : Places) → Places
  | 0, reached, _ => reached
  | n + 1, reached, last =>
    let next := step last
    let more := reached.union next
    if more = reached then reached else upTo step n more next

end Places

/-- The two neighbors of each place in a text. -/
def neighbors (text : List Char) : List (Option Char × Option Char) :=
  List.zip (none :: text.map some) (text.map some ++ [none])

/-- The places where matches may stop that start at given ones. -/
def reach (text : List Char) : Pattern → Places → Places
  | empty, p => p
  | one set, p => false :: List.zipWith (fun here c => here && set.has c) p text
  | look l, p => List.zipWith (fun here (before, after) => here && l.holds before after) p
      (neighbors text)
  | cat r s, p => reach text s (reach text r p)
  | alt r s, p => (reach text r p).union (reach text s p)
  | rep r least most, p =>
    let first := Places.times (reach text r) least p
    let more := most.elim (text.length + 1) (· - least)
    Places.upTo (reach text r) more first first

/-- Whether a part of a text is matched. -/
def isIn (r : Pattern) (text : String) : Bool :=
  let cs := text.toList
  (r.reach cs (List.replicate (cs.length + 1) true)).any id

end Pattern

end DocFilter

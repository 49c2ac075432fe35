import DocFilter.Pattern.Escape

/-!
Reading classes in brackets.
-/

namespace DocFilter.Pattern

namespace AsciiClass

def ofName? : String → Option AsciiClass
  | "alnum" => some alnum
  | "alpha" => some alpha
  | "ascii" => some ascii
  | "blank" => some blank
  | "cntrl" => some cntrl
  | "digit" => some digit
  | "graph" => some graph
  | "lower" => some lower
  | "print" => some print
  | "punct" => some punct
  | "space" => some space
  | "upper" => some upper
  | "word" => some word
  | "xdigit" => some xdigit
  | _ => none

/-- Reads the name of a class between its inner brackets, with the length of the whole. -/
def read? (text : List Char) : Option (Bool × AsciiClass × Nat) :=
  match text with
  | '[' :: ':' :: rest =>
    let negated := rest.head? = some '^'
    let name := (if negated then rest.tail else rest).takeWhile (· ≠ ':')
    let length := 2 + (if negated then 1 else 0) + name.length
    match text.drop length with
    | ':' :: ']' :: _ => (ofName? (String.ofList name)).map (negated, ·, length + 2)
    | _ => none
  | _ => none

end AsciiClass

/-- A class that is being read: its items so far, and the operation that they are to be joined to
what is before them by. -/
structure OpenSet where
  before : Option (ClassSet × SetOperation)
  items : ClassSet

namespace OpenSet

def ofItems (items : ClassSet) : OpenSet := ⟨none, items⟩

def add (s : OpenSet) (item : ClassSet) : OpenSet :=
  { s with items := match s.items with
    | .empty => item
    | items => .union items item }

/-- The class, if nothing more is to be read. -/
def close (s : OpenSet) : ClassSet :=
  match s.before with
  | none => s.items
  | some (first, o) => .operation o first s.items

def operate (s : OpenSet) (o : SetOperation) : OpenSet := ⟨some (s.close, o), .empty⟩

end OpenSet

namespace Reading

/-- Reads hyphens at the front of a class, where each stands for itself. -/
def hyphens (start : Position) : Nat → OpenSet → Reading OpenSet
  | 0, s => return s
  | fuel + 1, s => do
    if (← peek) = some '-' then
      let item : ClassSet := .literal ⟨(← get).charSpan, '-', false⟩
      if !(← advanceOver) then fail .classUnclosed ⟨start, start⟩
      hyphens start fuel (s.add item)
    else return s

/-- Reads the head of a class: its bracket, a negation, and what stands for itself behind them. -/
def classHead : Reading (Span × Bool × OpenSet) := do
  let start := (← get).here
  if !(← advanceOver) then fail .classUnclosed (← spanFrom start)
  let negated := (← peek) = some '^'
  if negated then
    if !(← advanceOver) then fail .classUnclosed (← spanFrom start)
  let s ← hyphens start (← get).rest.length (.ofItems .empty)
  if s.items = .empty ∧ (← peek) = some ']' then
    let item : ClassSet := .literal ⟨(← get).charSpan, ']', false⟩
    if !(← advanceOver) then fail .classUnclosed (← spanFrom start)
    return (← spanFrom start, negated, s.add item)
  else return (← spanFrom start, negated, s)

/-- Reads an end of a range, or an item by itself. -/
def classAtom : Reading Atom := do
  let c ← get
  match c.rest with
  | x :: _ =>
    if x = '\\' then escape
    else
      let _ ← advance
      return .literal ⟨c.charSpan, x, false⟩
  | [] => return .dot c.point

def item (a : Atom) : Reading ClassSet :=
  match a with
  | .literal l => return .literal l
  | .named c => return .named c
  | a => fail .classEscapeInvalid a.span

def rangeEnd (a : Atom) : Reading Literal :=
  match a with
  | .literal l => return l
  | a => fail .classRangeLiteral a.span

/-- Reads a character, a class or a range. The span is that of the head of the class around it. -/
def classItem (head : Span) : Reading ClassSet := do
  let first ← classAtom
  skip
  let c ← get
  if c.rest.isEmpty then fail .classUnclosed head
  let next := c.secondShown?
  if c.rest.head? ≠ some '-' ∨ next = some ']' ∨ next = some '-' then item first
  else
    if !(← advanceOver) then fail .classUnclosed head
    let second ← classAtom
    let span : Span := ⟨first.span.start, second.span.stop⟩
    let lo ← rangeEnd first
    let hi ← rangeEnd second
    if hi.char < lo.char then fail .classRangeInvalid span
    return .range span lo hi

def setOperation? : List Char → Option SetOperation
  | '&' :: '&' :: _ => some .intersection
  | '-' :: '-' :: _ => some .difference
  | '~' :: '~' :: _ => some .symmetricDifference
  | _ => none

mutual

/-- Reads a class in brackets. -/
def bracketed (fuel : Nat) : Reading (Span × Bool × ClassSet) :=
  match fuel with
  | 0 => return (⟨⟨0, 1, 1⟩, ⟨0, 1, 1⟩⟩, false, .empty)
  | fuel + 1 => do
    let (head, negated, s) ← classHead
    let set ← classRest head fuel s
    return (← spanFrom head.start, negated, set)

/-- Reads the rest of a class, with the bracket that ends it. -/
def classRest (head : Span) (fuel : Nat) (s : OpenSet) : Reading ClassSet :=
  match fuel with
  | 0 => return s.close
  | fuel + 1 => do
    skip
    let c ← get
    match c.rest with
    | [] => fail .classUnclosed head
    | '[' :: _ =>
      match AsciiClass.read? c.rest with
      | some (negated, name, length) =>
        modify (·.steps length)
        classRest head fuel (s.add (.ascii (← spanFrom c.here) negated name))
      | none =>
        let (span, negated, set) ← bracketed fuel
        classRest head fuel (s.add (.bracketed span negated set))
    | ']' :: _ =>
      let _ ← advance
      return s.close
    | rest =>
      match setOperation? rest with
      | some o =>
        modify (·.steps 2)
        classRest head fuel (s.operate o)
      | none => classRest head fuel (s.add (← classItem head))

end

end Reading

end DocFilter.Pattern

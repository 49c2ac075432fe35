import DocFilter.Pattern.Brackets
import DocFilter.Text.Category

/-!
Reading written patterns.
-/

namespace DocFilter.Pattern

namespace Flag

def ofChar? : Char → Option Flag
  | 'i' => some ignoreCase
  | 'm' => some multiLine
  | 's' => some dotMatchesLineFeed
  | 'U' => some swapGreed
  | 'u' => some unicode
  | 'R' => some carriageReturns
  | 'x' => some ignoreBlanks
  | _ => none

end Flag

/-- What flags make of a setting: it stays as it is if it is not among them. -/
def FlagItem.setting (flag : Flag) (old : Bool) (items : List FlagItem) : Bool :=
  if .flag flag ∈ items then .flag flag ∈ items.takeWhile (· ≠ .negation) else old

/-- What a parenthesis begins. -/
inductive Opening
  /-- Flags for the rest of the group around it. -/
  | flags (items : List FlagItem)
  | group (flags : List FlagItem)

namespace Reading

/-- Reads flags up to a colon or a parenthesis. -/
def flagItems : Nat → List (FlagItem × Span) → Reading (List (FlagItem × Span))
  | 0, items => return items
  | fuel + 1, items => do
    let c ← get
    match c.rest.head? with
    | some ':' => return items
    | some ')' => return items
    | none => return items
    | some x =>
      let item ← match x, Flag.ofChar? x with
        | '-', _ => pure FlagItem.negation
        | _, some f => pure (.flag f)
        | _, none => fail .flagUnrecognized c.charSpan
      match items.find? (·.1 = item) with
      | some (_, first) =>
        let fault : Fault := if x = '-' then .flagRepeatedNegation else .flagDuplicate
        throw ⟨fault, c.charSpan, some first⟩
      | none =>
        if !(← advance) then fail .flagUnfinished (← get).point
        flagItems fuel (items ++ [(item, c.charSpan)])

def flags : Reading (List FlagItem) := do
  let items ← flagItems (← get).rest.length []
  match items.getLast? with
  | some (.negation, span) => fail .flagDanglingNegation span
  | _ => return items.map (·.1)

/-- Reads the characters of a name up to its end. -/
def nameChars (isFirst : Bool) : Nat → Reading (List Char)
  | 0 => return []
  | fuel + 1 => do
    let c ← get
    match c.rest.head? with
    | none => return []
    | some '>' => return []
    | some x =>
      let isLetter := x = '_' || Text.alphabetic.has x
      let isOther := ".[]".contains x || (Text.Ranges.ofCategories (·.startsWith "N")).has x
      if !(isLetter || (!isFirst && isOther)) then fail .groupNameInvalid c.charSpan
      let _ ← advance
      return x :: (← nameChars false fuel)

def groupName : Reading Unit := do
  let start := (← get).here
  if (← peek).isNone then fail .groupNameUnfinished (← get).point
  let name := String.ofList (← nameChars true (← get).rest.length)
  let span ← spanFrom start
  if (← peek).isNone then fail .groupNameUnfinished (← get).point
  let _ ← advance
  if name = "" then fail .groupNameEmpty ⟨start, start⟩
  match (← get).names.find? (·.1 = name) with
  | some (_, first) => throw ⟨.groupNameDuplicate, span, some first⟩
  | none => modify fun c => { c with names := (name, span) :: c.names }

/-- Whether what follows a parenthesis looks around, which it passes. -/
def looksAround : Reading Bool := do
  if ← accept "?=" then return true
  if ← accept "?!" then return true
  if ← accept "?<=" then return true
  accept "?<!"

/-- Reads a parenthesis, and the marks behind it. -/
def opening : Reading Opening := do
  let paren ← get
  let _ ← advance
  skip
  if ← looksAround then fail .lookAround (← spanFrom paren.here)
  let inner := (← get).point
  if ← accept "?P<" <||> accept "?<" then
    groupName
    return .group []
  if ← accept "?" then
    if (← peek).isNone then fail .groupUnclosed paren.charSpan
    let items ← flags
    let isGroup := (← peek) = some ':'
    let _ ← advance
    if isGroup then return .group items
    if items.isEmpty then fail .repetitionMissing inner
    return .flags items
  return .group []

/-- Reads a number, with blanks around it, if there is one. -/
def number : Reading (Except Flaw Nat) := do
  let _ ← readAll Text.whiteSpace.has
  let start := (← get).here
  let digits ← readAll Char.isDigit
  let span ← spanFrom start
  let _ ← readAll Text.whiteSpace.has
  let n := Text.decimalValue digits
  if digits.isEmpty then return .error ⟨.countEmpty, span, none⟩
  else if n < 4294967296 then return .ok n
  else return .error ⟨.decimalInvalid, span, none⟩

/-- Reads how often something is repeated, from a brace on. -/
def counts (start : Position) : Reading (Nat × Option Nat) := do
  if !(← advanceOver) then fail .countUnclosed (← spanFrom start)
  let least ← number
  match ← peek with
  | none => fail .countUnclosed (← spanFrom start)
  | some ',' =>
    if !(← advanceOver) then fail .countUnclosed (← spanFrom start)
    if (← peek) = some '\x7d' then return (← least, none)
    else
      let least ← least
      let most ← (← number)
      return (least, some most)
  | some _ =>
    let least ← least
    return (least, some least)

/-- Reads the repetition of a part, if it can be repeated. -/
def repetition (part : Option (Position × Tree)) : Reading (Position × Tree) := do
  let c ← get
  let body ← match part with
    | none => fail .repetitionMissing c.point
    | some (_, .flags _) => fail .repetitionMissing c.point
    | some body => pure body
  let (first, tree) := body
  let build (least : Nat) (most : Option Nat) : Reading (Position × Tree) := do
    return (first, .repetition (← spanFrom first) tree least most)
  match c.rest.head? with
  | some '\x7b' =>
    let (least, most) ← counts c.here
    if (← peek) ≠ some '\x7d' then fail .countUnclosed (← spanFrom c.here)
    let _ ← advanceOver
    let _ ← accept "?"
    if most.any (· < least) then fail .countInvalid (← spanFrom c.here)
    build least most
  | sign =>
    let _ ← advance
    let _ ← accept "?"
    build (if sign = some '+' then 1 else 0) (if sign = some '?' then some 1 else none)

/-- The parts of a sequence that have been read, the last one first, and where they start. -/
structure OpenSequence where
  start : Position
  parts : List (Position × Tree)

namespace OpenSequence

def close (s : OpenSequence) (stop : Position) : Tree :=
  .ofParts ⟨s.start, stop⟩ (s.parts.map (·.2)).reverse

end OpenSequence

/-- Reads branches up to a parenthesis or the end. Those before are given, the last one first. -/
def branches (fuel : Nat) (start : Position) (before : List Tree) (s : OpenSequence) :
    Reading Tree :=
  match fuel with
  | 0 => return .sequence ⟨start, start⟩ []
  | fuel + 1 => do
    skip
    let c ← get
    let goOn (part : Tree) : Reading Tree :=
      branches fuel start before { s with parts := (c.here, part) :: s.parts }
    let finish : Reading Tree :=
      return .ofBranches ⟨start, c.here⟩ (s.close c.here :: before).reverse
    match c.rest with
    | [] => finish
    | ')' :: _ => finish
    | '|' :: _ =>
      let _ ← advance
      branches fuel start (s.close c.here :: before) ⟨(← get).here, []⟩
    | '(' :: _ =>
      match ← opening with
      | .flags items =>
        modify fun c => { c with blanks := FlagItem.setting .ignoreBlanks c.blanks items }
        goOn (.flags items)
      | .group items =>
        modify fun c => { c with blanks := FlagItem.setting .ignoreBlanks c.blanks items }
        let inner := (← get).here
        let body ← branches fuel inner [] ⟨inner, []⟩
        if (← peek).isNone then fail .groupUnclosed c.charSpan
        modify fun now => { now with blanks := c.blanks }
        let _ ← advance
        goOn (.group (← spanFrom c.here) items body)
    | '[' :: _ =>
      let (span, negated, set) ← bracketed (c.rest.length + 2)
      goOn (.bracketed span negated set)
    | x :: _ =>
      if x = '?' ∨ x = '*' ∨ x = '+' ∨ x = '\x7b' then
        let part ← repetition s.parts.head?
        branches fuel start before { s with parts := part :: s.parts.tail }
      else
        match ← atom with
        | .literal l => goOn (.literal l)
        | .named n => goOn (.named n)
        | .assertion _ a => goOn (.assertion a)
        | .dot span => goOn (.dot span)

def whole : Reading Tree := do
  let c ← get
  let tree ← branches (c.rest.length + 1) c.here [] ⟨c.here, []⟩
  if (← peek).isSome then fail .groupUnopened (← get).charSpan
  match tree.tooDeep? 0 with
  | some span => fail .tooDeep span
  | none => return tree

end Reading

/-- Reads a written pattern. -/
def read (text : String) : Except Flaw Tree := (Reading.whole.run (.ofText text)).map (·.1)

end DocFilter.Pattern

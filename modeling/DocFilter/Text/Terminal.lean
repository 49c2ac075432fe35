/-!
What a terminal shows of a text: characters and line breaks, but none of its control sequences.
A sequence that is broken off takes what looks like its rest with it.
-/

namespace DocFilter.Text

/-- Where a text stands in a control sequence. -/
inductive Control
  | outside
  | escape
  | escapeTail
  /-- Behind the bracket of a sequence with parameters. -/
  | entry
  | parameters
  | intermediates
  | badSequence
  /-- Behind the head of a string for a device. -/
  | deviceEntry
  | deviceParameters
  | deviceIntermediates
  /-- In a string that is for a device, or for nobody. -/
  | string
  /-- In a command to the system, which a bell can end. -/
  | command
  deriving DecidableEq, Repr

namespace Control

/-- Whether line breaks and tabs are heeded as if there were no sequence. -/
def breaks : Control → Bool
  | outside | escape | escapeTail => true
  | entry | parameters | intermediates | badSequence => true
  | _ => false

def shows (s : Control) (c : Char) : Bool :=
  if c = '\t' ∨ c = '\n' ∨ c = '\x0c' ∨ c = '\r' then s.breaks
  else s == outside && ' ' ≤ c && c ≠ '\x7f'

/-- Whether a byte of a character ends a string. -/
def endsString (c : Char) : Bool := (String.utf8EncodeChar c).contains 0x9c

/-- Where a text stands after a printed character of ASCII that belongs to a sequence. -/
def next (s : Control) (c : Char) : Control :=
  match s with
  | outside => outside
  | escape =>
    if c ≤ '/' then escapeTail
    else if c = '[' then entry
    else if c = ']' then command
    else if c = 'P' then deviceEntry
    else if c = 'X' ∨ c = '^' ∨ c = '_' then string
    else outside
  | escapeTail => if c ≤ '/' then escapeTail else outside
  | entry => if c ≤ '/' then intermediates else if c ≤ '?' then parameters else outside
  | parameters =>
    if c ≤ '/' then intermediates
    else if c ≤ ';' then parameters
    else if c ≤ '?' then badSequence
    else outside
  | intermediates =>
    if c ≤ '/' then intermediates else if c ≤ '?' then badSequence else outside
  | badSequence => if c ≤ '?' then badSequence else outside
  | deviceEntry =>
    if c ≤ '/' then deviceIntermediates else if c ≤ '?' then deviceParameters else string
  | deviceParameters =>
    if c ≤ '/' then deviceIntermediates else if c ≤ ';' then deviceParameters else string
  | deviceIntermediates => if c ≤ '/' then deviceIntermediates else string
  | string => string
  | command => command

def after (s : Control) (c : Char) : Control :=
  if s.shows c ∨ c = '\x18' ∨ c = '\x1a' then outside
  else if c = '\x1b' then escape
  else if ' ' ≤ c ∧ c ≤ '~' then s.next c
  else if (s = string ∧ endsString c) ∨ (s = command ∧ c = '\x07') then outside
  else s

/-- What is shown of a text that begins within a sequence. -/
def visible (s : Control) : List Char → List Char
  | [] => []
  | c :: cs => if s.shows c then c :: visible (s.after c) cs else visible (s.after c) cs

end Control

/-- What a terminal shows of a text. -/
def visible (s : String) : String := String.ofList (Control.outside.visible s.toList)

end DocFilter.Text

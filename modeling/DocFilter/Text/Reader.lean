import DocFilter.Text.Basic

/-!
Readers: functions that take a value off the front of a text and hand back what follows, or
refuse.
-/

namespace DocFilter

def Reader (α : Type) := List Char → Option (α × List Char)

namespace Reader

open Text

variable {α β : Type}

instance : Monad Reader where
  pure a := fun cs => some (a, cs)
  bind r f := fun cs => match r cs with
    | some (a, rest) => f a rest
    | none => none

theorem bind_apply (r : Reader α) (f : α → Reader β) (cs : List Char) :
    (r >>= f) cs = match r cs with
      | some (a, rest) => f a rest
      | none => none := rfl

/-- Refuses every text. -/
def refuse : Reader α := fun _ => none

/-- The second reader, where the first one refuses. -/
protected def orElse (r : Reader α) (s : Unit → Reader α) : Reader α := fun cs =>
  match r cs with
  | some result => some result
  | none => s () cs

instance : OrElse (Reader α) := ⟨Reader.orElse⟩

theorem orElse_apply (r s : Reader α) (cs : List Char) :
    (r <|> s) cs = match r cs with
      | some result => some result
      | none => s cs := rfl

/-- One character of a class. -/
def one (p : Char → Bool) : Reader Char
  | c :: cs => if p c then some (c, cs) else none
  | [] => none

/-- One given character. -/
def char (c : Char) : Reader Unit := do let _ ← one (· = c)

/-- A given text. -/
def literally (word : List Char) : Reader Unit := fun cs =>
  if word.isPrefixOf cs then some ((), cs.drop word.length) else none

/-- The longest run of a class, which may be empty. -/
def run (p : Char → Bool) : Reader (List Char) := fun cs =>
  some (cs.takeWhile p, cs.dropWhile p)

/-- The longest run of a class, which has at least one character. -/
def run1 (p : Char → Bool) : Reader (List Char) := do
  let taken ← run p
  if taken.isEmpty then refuse else pure taken

/-- The first characters of a text, all of one class. -/
def exactly (n : Nat) (p : Char → Bool) : Reader (List Char) := fun cs =>
  let taken := cs.take n
  if taken.length = n ∧ taken.all p then some (taken, cs.drop n) else none

/-- A number of exactly `n` decimal digits. -/
def digits (n : Nat) : Reader Nat := decimalValue <$> exactly n Char.isDigit

/-- The value, if there is one. -/
def ofOption : Option α → Reader α
  | some a => pure a
  | none => refuse

/-- Goes on only if a condition holds. -/
def require (condition : Bool) : Reader Unit := if condition then pure () else refuse

/-- What a reader finds, or nothing, and then nothing is taken. -/
def optional (r : Reader α) : Reader (Option α) := fun cs =>
  match r cs with
  | some (a, rest) => some (some a, rest)
  | none => some (none, cs)

/-- The end of the text. -/
def atEnd : Reader Unit
  | [] => some ((), [])
  | _ :: _ => none

/-- As often as a reader takes something. -/
def repeated (r : Reader α) (cs : List Char) : List α × List Char :=
  match r cs with
  | some (a, rest) =>
    if rest.length < cs.length then
      let (as, rest') := repeated r rest
      (a :: as, rest')
    else ([], cs)
  | none => ([], cs)
termination_by cs.length

/-- Zero or more of the same. -/
def many (r : Reader α) : Reader (List α) := fun cs => some (repeated r cs)

/-- One or more of the same, with a separator between them. -/
def separated (r : Reader α) (separator : Reader Unit) : Reader (List α) := do
  let a ← r
  let as ← many do
    separator
    r
  pure (a :: as)

/-- What a reader finds in a text that it takes as a whole. -/
def whole? (r : Reader α) (cs : List Char) : Option α :=
  match r cs with
  | some (a, []) => some a
  | _ => none

end Reader

end DocFilter

import DocFilter.Json.Basic
import DocFilter.Text.Basic

/-!
Two layouts of JSON text: compact, on one line without blanks, and pretty, one item to a line
and two blanks to a level.
-/

namespace DocFilter.Json

open Text

/-- A character inside a string. -/
def escaped (c : Char) : List Char :=
  if c = '"' then ['\\', '"']
  else if c = '\\' then ['\\', '\\']
  else if c = '\x08' then ['\\', 'b']
  else if c = '\x0c' then ['\\', 'f']
  else if c = '\n' then ['\\', 'n']
  else if c = '\r' then ['\\', 'r']
  else if c = '\t' then ['\\', 't']
  else if c.toNat < 0x20 then
    '\\' :: 'u' :: '0' :: '0' :: (if c.toNat < 0x10 then '0' else '1') ::
      hexadecimal (c.toNat % 16)
  else [c]

def quoted (s : String) : List Char := '"' :: s.toList.flatMap escaped ++ ['"']

/-- A value that both layouts write alike. -/
def boolText (b : Bool) : List Char := if b then "true".toList else "false".toList

mutual

def compactChars : Json → List Char
  | null => "null".toList
  | bool b => boolText b
  | int n => signedDecimal n
  | str s => quoted s
  | arr [] => ['[', ']']
  | arr (item :: items) => '[' :: (compactChars item ++ compactItems items)
  | obj [] => ['\x7b', '\x7d']
  | obj ((key, value) :: fields) =>
    '\x7b' :: (quoted key ++ ':' :: (compactChars value ++ compactFields fields))

/-- The items after the first one, and the end of the array. -/
def compactItems : List Json → List Char
  | [] => [']']
  | item :: items => ',' :: (compactChars item ++ compactItems items)

/-- The fields after the first one, and the end of the object. -/
def compactFields : List (String × Json) → List Char
  | [] => ['\x7d']
  | (key, value) :: fields =>
    ',' :: (quoted key ++ ':' :: (compactChars value ++ compactFields fields))

end

/-- A new line at a level of nesting. -/
def lineBreak (level : Nat) : List Char := '\n' :: List.replicate (2 * level) ' '

mutual

def prettyChars (level : Nat) : Json → List Char
  | null => "null".toList
  | bool b => boolText b
  | int n => signedDecimal n
  | str s => quoted s
  | arr [] => ['[', ']']
  | arr (item :: items) =>
    '[' :: (lineBreak (level + 1) ++ prettyChars (level + 1) item ++ prettyItems level items)
  | obj [] => ['\x7b', '\x7d']
  | obj ((key, value) :: fields) =>
    '\x7b' :: (lineBreak (level + 1) ++ quoted key ++ ':' :: ' ' ::
      (prettyChars (level + 1) value ++ prettyFields level fields))

def prettyItems (level : Nat) : List Json → List Char
  | [] => lineBreak level ++ [']']
  | item :: items =>
    ',' :: (lineBreak (level + 1) ++ prettyChars (level + 1) item ++ prettyItems level items)

def prettyFields (level : Nat) : List (String × Json) → List Char
  | [] => lineBreak level ++ ['\x7d']
  | (key, value) :: fields =>
    ',' :: (lineBreak (level + 1) ++ quoted key ++ ':' :: ' ' ::
      (prettyChars (level + 1) value ++ prettyFields level fields))

end

def compact (j : Json) : String := String.ofList j.compactChars

def pretty (j : Json) : String := String.ofList (j.prettyChars 0)

/-- The text of a value in one of the two layouts. -/
def render (onOneLine : Bool) (j : Json) : String := if onOneLine then j.compact else j.pretty

end DocFilter.Json

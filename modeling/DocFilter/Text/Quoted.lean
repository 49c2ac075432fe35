import DocFilter.Text.Unprintable

/-!
Text in quotes as it is shown in logs: what cannot be printed by itself is written as an escape.
-/

namespace DocFilter.Text

def shownChar (c : Char) : List Char :=
  if c = '"' then ['\\', '"']
  else if c = '\\' then ['\\', '\\']
  else if c = '\n' then ['\\', 'n']
  else if c = '\r' then ['\\', 'r']
  else if c = '\t' then ['\\', 't']
  else if c = '\x00' then ['\\', '0']
  else if ' ' ≤ c ∧ c ≤ '~' then [c]
  else if unprintable.has c then
    ['\\', 'u', '\x7b'] ++ hexadecimal c.toNat ++ ['\x7d']
  else [c]

def shown (s : String) : String := String.ofList ('"' :: s.toList.flatMap shownChar ++ ['"'])

/-- A list of texts in brackets. -/
def shownList (ss : List String) : String := "[" ++ ", ".intercalate (ss.map shown) ++ "]"

end DocFilter.Text

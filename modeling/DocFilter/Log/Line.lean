import DocFilter.Log.Filter
import DocFilter.Text.Terminal

/-!
The text of shown records: a line for each, headed by its level and target. Further lines of a
message are indented. Where there are no colors, nothing else is left that is for a terminal.
-/

namespace DocFilter.Log

/-- A text in a style of the terminal, given by its codes. -/
def styled (codes : List String) (text : String) : String :=
  String.join (codes.map fun code => "\x1b[" ++ code ++ "m") ++ text ++ "\x1b[0m"

namespace Level

def codes : Level → List String
  | error => ["1", "31"]
  | warn => ["33"]
  | info => ["32"]
  | debug => ["34"]
  | trace => ["36"]

/-- The name in five columns. -/
def column (l : Level) : String :=
  l.name ++ String.ofList (List.replicate (5 - l.name.length) ' ')

end Level

structure Logger where
  filter : Filter
  inColor : Bool

namespace Logger

def line (l : Logger) (r : Record) : String :=
  let paint (codes : List String) (text : String) : String :=
    if l.inColor then styled codes text else text
  let line := paint ["90"] "[" ++ paint r.level.codes r.level.column ++ " " ++ r.target ++
    paint ["90"] "]" ++ " " ++ "\n    ".intercalate (r.message.splitOn "\n") ++ "\n"
  if l.inColor then line else Text.visible line

def lines (l : Logger) (records : List Record) : String :=
  String.join ((records.filter l.filter.shows).map l.line)

end Logger

end DocFilter.Log

/-!
Log records: a level, the part of the program that speaks, and what it says.
-/

namespace DocFilter.Log

inductive Level
  | error | warn | info | debug | trace
  deriving DecidableEq, Repr

namespace Level

def name : Level → String
  | error => "ERROR"
  | warn => "WARN"
  | info => "INFO"
  | debug => "DEBUG"
  | trace => "TRACE"

/-- The place of a level in their order, from the gravest one on. -/
def verbosity : Level → Nat
  | error => 1
  | warn => 2
  | info => 3
  | debug => 4
  | trace => 5

end Level

structure Record where
  level : Level
  target : String
  message : String
  deriving DecidableEq, Repr

end DocFilter.Log

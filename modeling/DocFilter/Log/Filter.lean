import DocFilter.Log.Record
import DocFilter.Pattern.Match
import DocFilter.Pattern.Meaning

/-!
Which records are shown. A specification is a list of directives with commas between them, and
after a slash a pattern that messages must match:

    level                the limit for all targets
    name                 no limit for targets that start with the name
    name=level           the limit for targets that start with the name
-/

namespace DocFilter.Log

/-- How much is shown: nothing, or all up to a level. -/
inductive Limit
  | off
  | upTo (level : Level)
  deriving DecidableEq, Repr

namespace Limit

def all : List (String × Limit) :=
  [("off", off), ("error", upTo .error), ("warn", upTo .warn), ("info", upTo .info),
    ("debug", upTo .debug), ("trace", upTo .trace)]

/-- The limit with a name, which may be in capitals. -/
def ofName? (name : String) : Option Limit :=
  (all.find? (·.1 = name.toLower)).map (·.2)

def allows : Limit → Level → Bool
  | off, _ => false
  | upTo limit, level => level.verbosity ≤ limit.verbosity

end Limit

/-- A limit for the targets that start with a name, or for all of them. -/
structure Directive where
  name : Option String
  limit : Limit
  deriving DecidableEq, Repr

structure Filter where
  directives : List Directive
  /-- What a part of each message must match. -/
  wanted : Option Pattern
  deriving DecidableEq, Repr

namespace Filter

/-- Shows all targets up to a limit. -/
def upTo (limit : Limit) : Filter := ⟨[⟨none, limit⟩], none⟩

/-- Adds a directive in the place of the one for the same targets. -/
def insert (f : Filter) (d : Directive) : Filter :=
  if f.directives.any (·.name = d.name) then
    { f with directives := f.directives.map fun e => if e.name = d.name then d else e }
  else { f with directives := f.directives ++ [d] }

/-- Reads a directive, or says which part of it is no good. -/
def readDirective (text : String) : Except String Directive :=
  match text.splitOn "=" with
  | [name] =>
    match Limit.ofName? name with
    | some limit => .ok ⟨none, limit⟩
    | none => .ok ⟨some name, .upTo .trace⟩
  | [name, limit] =>
    let limit := Text.trim limit
    if limit = "" then .ok ⟨some name, .upTo .trace⟩
    else match Limit.ofName? limit with
      | some l => .ok ⟨some name, l⟩
      | none => .error limit
  | _ => .error text

/-- Adds the directives of a list with commas, with a complaint for each that is no good. -/
def addList (f : Filter) (text : String) : Filter × List String :=
  let parts := (text.splitOn ",").map Text.trim |>.filter (· ≠ "")
  parts.foldl
    (fun (f, complaints) part =>
      match readDirective part with
      | .ok d => (f.insert d, complaints)
      | .error bad => (f, complaints ++ [s!"invalid logging spec '{bad}'"]))
    (f, [])

/-- Adds a specification, with complaints. -/
def add (f : Filter) (text : String) : Filter × List String :=
  match text.splitOn "/" with
  | [directives] => f.addList directives
  | [directives, wanted] =>
    let (f, complaints) := f.addList directives
    match Pattern.ofText wanted with
    | .ok r => ({ f with wanted := some r }, complaints)
    | .error e => (f, complaints ++ [s!"invalid regex filter - {e}"])
  | _ => (f, [s!"invalid logging spec '{text}' (too many '/'s)"])

/-- The limit for a target: that of the longest name it starts with, the last one of several. -/
def limitFor (f : Filter) (target : String) : Limit :=
  let applying := f.directives.filter fun d =>
    d.name.all fun name => name.toList.isPrefixOf target.toList
  let length (d : Directive) : Nat := (d.name.getD "").utf8ByteSize
  let longest := applying.foldl
    (fun best d => if best.any fun b => length d < length b then best else some d) none
  longest.elim .off (·.limit)

def shows (f : Filter) (r : Record) : Bool :=
  (f.limitFor r.target).allows r.level && f.wanted.all (·.isIn r.message)

end Filter

end DocFilter.Log

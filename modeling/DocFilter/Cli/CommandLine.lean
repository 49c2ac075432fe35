import DocFilter.Cli.Arguments

/-!
Reading the command line. Options may stand before the command and after it; each of these two
scopes is read by itself, and what the inner one says goes before what the outer one says. An
option's value that stands in an argument of its own is checked when the next option is met, or
at the end of the scope.
-/

namespace DocFilter.Cli

/-- An option that takes no value. -/
inductive Flag
  | strict | compact | verbose | json | help | version
  deriving DecidableEq, Repr

/-- An option that takes a value. -/
inductive Setting
  | config | fields | output | color
  deriving DecidableEq, Repr

inductive Switch
  | flag (f : Flag)
  | setting (s : Setting)
  deriving DecidableEq, Repr

/-- The part of the command line that is read: before the command, or after it. -/
inductive Scope
  | outer
  | inner (command : CommandName)
  deriving DecidableEq, Repr

namespace Scope

/-- The options that are known in every scope. -/
def common : List (String × Option Char × Switch) :=
  [("config", none, .setting .config), ("fields", none, .setting .fields),
    ("strict", none, .flag .strict), ("compact", some 'c', .flag .compact),
    ("output", some 'o', .setting .output), ("verbose", some 'v', .flag .verbose),
    ("color", none, .setting .color), ("help", some 'h', .flag .help)]

def switches : Scope → List (String × Option Char × Switch)
  | outer => common ++ [("version", some 'V', .flag .version)]
  | inner .tokens => common ++ [("json", none, .flag .json)]
  | inner _ => common

def long? (scope : Scope) (name : String) : Option Switch :=
  (scope.switches.find? (·.1 = name)).map (·.2.2)

def short? (scope : Scope) (c : Char) : Option Switch :=
  (scope.switches.find? (·.2.1 = some c)).map (·.2.2)

end Scope

/-- What the options of one scope say. -/
structure Given where
  config : Option String
  fields : Option (List String)
  output : Option String
  color : Option Color
  strict : Bool
  compact : Bool
  json : Bool
  verbose : Nat
  deriving DecidableEq, Repr

namespace Given

def nothing : Given := ⟨none, none, none, none, false, false, false, 0⟩

/-- Stores a value that may be given only once. -/
def once {α : Type} (current : Option α) (value : Except Refusal α) :
    Except Refusal (Option α) :=
  if current.isSome then .error .argumentConflict else value.map some

def path (value : String) : Except Refusal String :=
  if value = "" then .error .invalidValue else .ok value

def color? (value : String) : Except Refusal Color :=
  match Color.ofName? value with
  | some c => .ok c
  | none => .error .invalidValue

/-- The fields of several options, and of one option with commas, are put together. -/
def set (g : Given) (s : Setting) (value : String) : Except Refusal Given :=
  match s with
  | .config => do pure { g with config := ← once g.config (path value) }
  | .output => do pure { g with output := ← once g.output (path value) }
  | .color => do pure { g with color := ← once g.color (color? value) }
  | .fields => .ok { g with fields := some (g.fields.getD [] ++ value.splitOn ",") }

def raise (g : Given) : Flag → Except Refusal Given
  | .strict => if g.strict then .error .argumentConflict else .ok { g with strict := true }
  | .compact => if g.compact then .error .argumentConflict else .ok { g with compact := true }
  | .json => if g.json then .error .argumentConflict else .ok { g with json := true }
  | .verbose => .ok { g with verbose := min 255 (g.verbose + 1) }
  | .help => .error .help
  | .version => .error .version

end Given

/-- An option whose value is still to come or still to be checked. -/
inductive Pending
  | none
  | awaiting (s : Setting)
  | unchecked (s : Setting) (value : String)
  deriving DecidableEq, Repr

def Pending.isAwaiting : Pending → Bool
  | awaiting _ => true
  | _ => false

/-- A scope that has been read in part. -/
structure Reading where
  given : Given
  pending : Pending
  query : Option String
  /-- After two dashes, where nothing is an option. -/
  plain : Bool
  deriving DecidableEq, Repr

namespace Reading

def start : Reading := ⟨.nothing, .none, none, false⟩

/-- Checks the value that has not been checked. -/
def settle (r : Reading) : Except Refusal Reading :=
  match r.pending with
  | .none => .ok r
  | .awaiting _ => .error .invalidValue
  | .unchecked s value => do pure { r with given := ← r.given.set s value, pending := .none }

def raise (r : Reading) (f : Flag) : Except Refusal Reading := do
  let r ← r.settle
  pure { r with given := ← r.given.raise f }

def set (r : Reading) (s : Setting) (value : String) : Except Refusal Reading := do
  let r ← r.settle
  pure { r with given := ← r.given.set s value }

def await (r : Reading) (s : Setting) : Except Refusal Reading := do
  let r ← r.settle
  pure { r with pending := .awaiting s }

/-- An argument with two dashes: a name, and after an equals sign a value. -/
def addLong (scope : Scope) (r : Reading) (text : List Char) : Except Refusal Reading :=
  let name := text.takeWhile (· ≠ '=')
  let value := if name.length < text.length then some (text.drop (name.length + 1)) else none
  match scope.long? (String.ofList name), value with
  | none, _ => .error .unknownArgument
  | some (.flag f), none => r.raise f
  | some (.flag _), some _ => .error .tooManyValues
  | some (.setting s), none => r.await s
  | some (.setting s), some v => r.set s (String.ofList v)

/-- An argument with one dash: letters of options, and after an option that takes a value the
value, with or without an equals sign. -/
def addShort (scope : Scope) : Reading → List Char → Except Refusal Reading
  | r, [] => .ok r
  | r, c :: rest =>
    match scope.short? c with
    | none => .error .unknownArgument
    | some (.flag f) => do addShort scope (← r.raise f) rest
    | some (.setting s) =>
      match rest with
      | [] => r.await s
      | '=' :: value => r.set s (String.ofList value)
      | value => r.set s (String.ofList value)

/-- An argument that is neither an option nor its value: the query, after a command. -/
def addPlain (scope : Scope) (r : Reading) (arg : String) : Except Refusal Reading :=
  match scope with
  | .outer =>
    if r.plain ∧ (arg = "help" ∨ (CommandName.ofName? arg).isSome) then .error .unknownArgument
    else .error .invalidSubcommand
  | .inner _ =>
    match r.query with
    | some _ => .error .unknownArgument
    | none => do
      let r ← r.settle
      pure { r with query := some arg }

def add (scope : Scope) (r : Reading) (arg : String) : Except Refusal Reading :=
  if r.plain then r.addPlain scope arg
  else match arg.toList with
    | ['-', '-'] => .ok { r with plain := true }
    | '-' :: '-' :: text => r.addLong scope text
    | '-' :: c :: text => r.addShort scope (c :: text)
    | _ =>
      match r.pending with
      | .awaiting s => .ok { r with pending := .unchecked s arg }
      | _ => r.addPlain scope arg

/-- The end of a scope. The environment's path of a configuration stands for one not given. -/
def finish (r : Reading) (configPath : Option String) : Except Refusal Reading := do
  let r ← r.settle
  match r.given.config, configPath with
  | none, some path => let _ ← Given.path path
  | _, _ => pure ()
  pure r

end Reading

/-- What `help` shows: the help for all, or for one command. -/
def helpFor : List String → Refusal
  | [] => .help
  | [name] =>
    if name = "help" ∨ (CommandName.ofName? name).isSome then .help else .invalidSubcommand
  | _ => .invalidSubcommand

/-- Reads the options before the command; hands on the command and what follows it. -/
def readOuter : Reading → List String →
    Except Refusal (Reading × Option (CommandName × List String))
  | r, [] => .ok (r, none)
  | r, arg :: args =>
    if r.plain || r.pending.isAwaiting then do readOuter (← r.add .outer arg) args
    else if arg = "help" then .error (helpFor args)
    else match CommandName.ofName? arg with
      | some name => .ok (r, some (name, args))
      | none => do readOuter (← r.add .outer arg) args

/-- What both scopes say together. -/
def Given.merge (inner outer : Given) : Given where
  config := inner.config <|> outer.config
  fields := inner.fields <|> outer.fields
  output := inner.output <|> outer.output
  color := inner.color <|> outer.color
  strict := inner.strict || outer.strict
  compact := inner.compact || outer.compact
  json := inner.json
  verbose := if inner.verbose = 0 then outer.verbose else inner.verbose

/-- Reads the arguments of a call. The path of a configuration may be given by the environment. -/
def Arguments.read (configPath : Option String) (args : List String) :
    Except Refusal Arguments := do
  let (outer, rest) ← readOuter .start args
  match rest with
  | none =>
    let outer ← outer.finish configPath
    if outer.given = .nothing ∧ configPath = none then throw .nothingGiven
    else throw .missingSubcommand
  | some (name, args) =>
    let inner ← args.foldlM (Reading.add (.inner name)) .start
    let inner ← inner.finish configPath
    let query ← match inner.query with
      | some query => pure query
      | none => throw .missingRequiredArgument
    let outer ← outer.finish configPath
    let given := inner.given.merge outer.given
    let command : Command := match name with
      | .compile => .compile query
      | .tokens => .tokens query given.json
      | .ast => .ast query
    pure
      { command
        config := given.config <|> configPath
        fields := given.fields
        strict := given.strict
        compact := given.compact
        output := given.output
        verbose := given.verbose
        color := given.color.getD .auto }

end DocFilter.Cli

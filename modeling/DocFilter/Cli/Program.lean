import DocFilter.Cli.CommandLine
import DocFilter.Config
import DocFilter.Filter.Compile
import DocFilter.Json.Printer
import DocFilter.Log.Line
import DocFilter.Query.Json
import DocFilter.Token.Json
import DocFilter.Token.Table

/-!
The program: it reads its settings, answers one query, prints the answer, and writes it to a file
if asked to. Whatever fails before the answer is known leaves no output and no file.
-/

namespace DocFilter.Cli

open Query (Event Failure Traced)

/-- The environment variables that count. -/
structure Environment where
  config : Option String
  log : Option String
  logStyle : Option String
  noColor : Option String
  forceColor : Option String
  deriving DecidableEq, Repr

namespace Environment

/-- Whether the mark of an error is colored. The output counts as no terminal, so that without a
choice on the command line colors have to be forced. -/
def colorsErrors (env : Environment) : Color → Bool
  | .always => true
  | .never => false
  | .auto => env.forceColor.any (· ≠ "0")

/-- Whether the log is colored. Here a refusal of colors goes before their being forced. -/
def colorsLog (env : Environment) : Bool :=
  match env.logStyle with
  | some "always" => true
  | some "never" => false
  | _ => env.noColor.all (· = "") && env.forceColor.any fun force => force ≠ "0" && force ≠ ""

end Environment

/-- What is shown without a specification of the log. -/
def verbosityLimit : Nat → Log.Limit
  | 0 => .upTo .warn
  | 1 => .upTo .info
  | 2 => .upTo .debug
  | _ => .upTo .trace

/-- What a run leaves behind besides its files. -/
structure Outcome where
  exit : Nat
  stdout : String
  stderr : String
  deriving DecidableEq, Repr

/-- The logger of a run, and the complaints about its specification. -/
def logger (env : Environment) (verbose : Nat) : Log.Logger × String :=
  let (filter, complaints) := (Log.Filter.upTo (verbosityLimit verbose)).add (env.log.getD "")
  (⟨filter, env.colorsLog⟩,
    String.join (complaints.map fun c => s!"warning: {c}, ignoring it\n"))

/-- A message on why the run failed. -/
def errorLine (env : Environment) (color : Color) (message : String) : String :=
  let mark := if env.colorsErrors color then Log.styled ["1;31"] "error:" else "error:"
  mark ++ " " ++ message ++ "\n"

/-- The settings of a run. -/
def settings (args : Arguments) (file : Config) : Config :=
  (file.withFields args.fields).withStrict args.strict

/-- What is logged before the query is looked at. -/
def opening (args : Arguments) (c : Config) : List Log.Record :=
  let profile : Log.Record := ⟨.info, "filter_query",
    s!"profile '{c.profile}', literal fields {Text.shownList c.fields}, strict {c.strict}"⟩
  let file : List Log.Record := args.config.toList.map fun path =>
    ⟨.info, "filter_query", s!"config file: {path}"⟩
  profile :: file

/-- All tokens of a query, with the events on the way. -/
def tokenizeTraced (query : String) : Traced (List Token) :=
  let stream := Token.Stream.ofText query
  ⟨stream.tokens.map .scanned,
    stream.toList.mapError fun s => .query (.unexpectedCharacter s)⟩

/-- The text of the answer to a command. -/
def answer (compact : Bool) (c : Config) : Command → Traced String
  | .compile query =>
    (compileQueryTraced c.fields c.strict query).map fun d => d.toJson.render compact
  | .tokens query true =>
    (tokenizeTraced query).map fun ts => (Token.listToJson ts).render compact
  | .tokens query false => (tokenizeTraced query).map Token.table
  | .ast query =>
    (Query.parseTraced c.strict query).map fun n => n.programToJson.render compact

variable {m : Type → Type} [Monad m]

/-- Runs the program on arguments that have been read. -/
def runWith (fs : FileSystem m) (env : Environment) (args : Arguments) : m Outcome := do
  let (log, complaints) := logger env args.verbose
  match ← Config.load fs args.config with
  | .error e =>
    let message := s!"Failed to load config: {e.message}: {e.causeMessage}"
    pure ⟨1, "", complaints ++ errorLine env args.color message⟩
  | .ok file =>
    let c := settings args file
    let answered := answer args.compact c args.command
    let logged :=
      complaints ++ log.lines (opening args c ++ answered.events.map Event.record)
    match answered.result with
    | .error e => pure ⟨1, "", logged ++ errorLine env args.color e.message⟩
    | .ok text =>
      match args.output with
      | none => pure ⟨0, text ++ "\n", logged⟩
      | some path =>
        match ← fs.write path text.toUTF8 with
        | .ok () => pure ⟨0, text ++ "\n", logged⟩
        | .error e =>
          let message := s!"Failed to write output file '{path}': {e.message}"
          pure ⟨1, text ++ "\n", logged ++ errorLine env args.color message⟩

def versionText : String := "filter-query 0.1.0\n"

/-- What is answered when there is nothing to run. -/
def refuse : Refusal → Outcome
  | .version => ⟨0, versionText, ""⟩
  | .help => ⟨0, "", ""⟩
  | _ => ⟨2, "", ""⟩

def run (fs : FileSystem m) (env : Environment) (args : List String) : m Outcome :=
  match Arguments.read env.config args with
  | .error r => pure (refuse r)
  | .ok args => runWith fs env args

end DocFilter.Cli

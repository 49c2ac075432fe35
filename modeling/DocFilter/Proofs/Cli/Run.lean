import DocFilter.Cli.Program
import DocFilter.Proofs.Cli.Files
import DocFilter.Proofs.Filter.NoDefect

/-!
How a run of the program ends, told by what the library answers: with its answer, or with none of
it. What is logged and colored does not matter for the answer.
-/

namespace DocFilter.Cli

open Query (Failure)

variable {σ : Type}

/-! ### What a run is told by -/

/-- The settings in the file of a run, or the default ones. -/
def loaded (fs : FileSystem (StateM σ)) (args : Arguments) (s : σ) : Except ConfigError Config :=
  ((Config.load fs args.config).run s).1

/-- What the library answers to a command, as text. -/
def reply (compact : Bool) (c : Config) : Command → Except Failure String
  | .compile query => (compileQuery c.fields c.strict query).map fun d => d.toJson.render compact
  | .tokens query true =>
    ((Token.tokenize query).mapError fun s => .query (.unexpectedCharacter s)).map fun ts =>
      (Token.listToJson ts).render compact
  | .tokens query false =>
    ((Token.tokenize query).mapError fun s => .query (.unexpectedCharacter s)).map Token.table
  | .ast query => (Query.parse c.strict query).map fun n => n.programToJson.render compact

/-- What the library answers in a run. The fields of the command line go before those of the file,
and either may ask for strictness. -/
def replyTo (args : Arguments) (file : Config) : Except Failure String :=
  reply args.compact
    ⟨file.profile, args.fields.getD file.fields, file.strict || args.strict⟩ args.command

/-- How a run on such arguments ends, which is found in one state of the files and leaves them in
another: it fails and leaves them as they were, or it prints the answer of the library, which is
then in the file that is asked for, or could not be written there. -/
inductive Ends (fs : FileSystem (StateM σ)) (args : Arguments) (s : σ) : Outcome × σ → Prop
  | noConfig {e : ConfigError} {err : String} (config : loaded fs args s = .error e) :
      Ends fs args s (⟨1, "", err⟩, s)
  | refused {file : Config} {e : QueryError} {err : String} (config : loaded fs args s = .ok file)
      (answer : replyTo args file = .error (.query e)) : Ends fs args s (⟨1, "", err⟩, s)
  | printed {file : Config} {t err : String} (config : loaded fs args s = .ok file)
      (answer : replyTo args file = .ok t) (output : args.output = none) :
      Ends fs args s (⟨0, t ++ "\n", err⟩, s)
  | written {file : Config} {t path err : String} {s' : σ} (config : loaded fs args s = .ok file)
      (answer : replyTo args file = .ok t) (output : args.output = some path)
      (write : (fs.write path t.toUTF8).run s = (.ok (), s'))
      (holds : ((fs.read path).run s').1 = .ok t.toUTF8) :
      Ends fs args s (⟨0, t ++ "\n", err⟩, s')
  | unwritten {file : Config} {t path err : String} {e : FileError} {s' : σ}
      (config : loaded fs args s = .ok file) (answer : replyTo args file = .ok t)
      (output : args.output = some path)
      (write : (fs.write path t.toUTF8).run s = (.error e, s')) :
      Ends fs args s (⟨1, t ++ "\n", err⟩, s')

variable {fs : FileSystem (StateM σ)} {args : Arguments} {env : Environment} {s : σ}

/-- What is to be seen of a run, from its settings, the answer of the library and the files. -/
def ending (fs : FileSystem (StateM σ)) (args : Arguments) (s : σ) : Nat × String × σ :=
  match loaded fs args s with
  | .error _ => (1, "", s)
  | .ok file =>
    match replyTo args file, args.output with
    | .error _, _ => (1, "", s)
    | .ok t, none => (0, t ++ "\n", s)
    | .ok t, some path =>
      match (fs.write path t.toUTF8).run s with
      | (.ok (), s') => (0, t ++ "\n", s')
      | (.error _, s') => (1, t ++ "\n", s')

end DocFilter.Cli

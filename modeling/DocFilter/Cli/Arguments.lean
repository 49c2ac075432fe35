/-!
What the command line asks for, and why it may be refused.
-/

namespace DocFilter.Cli

inductive Color
  | auto | always | never
  deriving DecidableEq, Repr

def Color.ofName? : String → Option Color
  | "auto" => some .auto
  | "always" => some .always
  | "never" => some .never
  | _ => none

inductive CommandName
  | compile | tokens | ast
  deriving DecidableEq, Repr

namespace CommandName

def all : List CommandName := [compile, tokens, ast]

def name : CommandName → String
  | compile => "compile"
  | tokens => "tokens"
  | ast => "ast"

def ofName? (s : String) : Option CommandName := all.find? (·.name = s)

end CommandName

inductive Command
  | compile (query : String)
  | tokens (query : String) (json : Bool)
  | ast (query : String)
  deriving DecidableEq, Repr

structure Arguments where
  command : Command
  config : Option String
  fields : Option (List String)
  strict : Bool
  compact : Bool
  output : Option String
  verbose : Nat
  color : Color
  deriving DecidableEq, Repr

/-- Why there is nothing to run. Help and version are asked for, all else is an error. -/
inductive Refusal
  | help
  | version
  | nothingGiven
  | missingSubcommand
  | invalidSubcommand
  | unknownArgument
  | tooManyValues
  | invalidValue
  | argumentConflict
  | missingRequiredArgument
  deriving DecidableEq, Repr

end DocFilter.Cli

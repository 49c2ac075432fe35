import DocFilter.Files
import DocFilter.Toml.Document

/-!
Settings: which fields a bare literal is compared with, and whether text may be left over after a
query. They are read from TOML files, in which every setting may be missing.
-/

namespace DocFilter

structure Config where
  profile : String
  /-- The fields that a bare literal is compared with, in order. -/
  fields : List String
  strict : Bool
  deriving DecidableEq, Repr

inductive ConfigError
  | unreadable (path : String) (cause : FileError)
  | malformed (path : String)
  deriving DecidableEq, Repr

/-- The message ends with the cause, which for a malformed file is not told. -/
def ConfigError.message : ConfigError → String
  | unreadable path cause => s!"Failed to read config file '{path}': {cause.message}"
  | malformed path => s!"Failed to parse config file '{path}': TOML parse error"

/-- The message of the cause alone. -/
def ConfigError.causeMessage : ConfigError → String
  | unreadable _ cause => cause.message
  | malformed _ => "TOML parse error"

namespace Config

def base : Config := ⟨"base", ["title", "email"], false⟩

/-- Replaces the fields, if there are others. -/
def withFields (c : Config) (fields : Option (List String)) : Config :=
  { c with fields := fields.getD c.fields }

/-- Turns strict mode on; it is never turned off. -/
def withStrict (c : Config) (strict : Bool) : Config := { c with strict := c.strict || strict }

def textOf? : Toml.Item → Option String
  | .string s => some s
  | _ => none

def textsOf? : Toml.Item → Option (List String)
  | .array items => items.mapM textOf?
  | _ => none

def flagOf? : Toml.Item → Option Bool
  | .boolean b => some b
  | _ => none

/-- A setting of a document, or its default where the document has none. -/
def setting? {α : Type} (entries : Toml.Entries) (key : String) (decode : Toml.Item → Option α)
    (default : α) : Option α :=
  match entries.find? key with
  | some item => decode item
  | none => some default

def ofToml? (text : String) : Option Config := do
  let entries ← Toml.read? text
  let profile ← setting? entries "profile_name" textOf? base.profile
  let fields ← setting? entries "literal_comparison_fields" textsOf? base.fields
  let strict ← setting? entries "strict" flagOf? base.strict
  pure ⟨profile, fields, strict⟩

/-- The settings in a file of which the content is given. -/
def ofFile (path : String) (content : Except FileError ByteArray) : Except ConfigError Config :=
  match content with
  | .error e => .error (.unreadable path e)
  | .ok bytes =>
    match String.fromUTF8? bytes with
    | none => .error (.unreadable path .notText)
    | some text =>
      match ofToml? text with
      | none => .error (.malformed path)
      | some c => .ok c

variable {m : Type → Type} [Monad m]

/-- The settings in a file, or the default ones where no file is given. -/
def load (fs : FileSystem m) : Option String → m (Except ConfigError Config)
  | none => pure (.ok base)
  | some path => do pure (ofFile path (← fs.read path))

end Config

end DocFilter

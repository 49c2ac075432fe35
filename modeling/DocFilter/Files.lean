/-!
Files as the program sees them: what can be asked of a file system, why it refuses, and a
directory that holds nothing but files.
-/

namespace DocFilter

inductive FileError
  | notFound
  | notDirectory
  | isDirectory
  | nameTooLong
  /-- The path has a character that no path can have. -/
  | badPath
  | notText
  /-- Another reason the system gives. -/
  | other (message : String)
  deriving DecidableEq, Repr

def FileError.message : FileError → String
  | notFound => "No such file or directory (os error 2)"
  | notDirectory => "Not a directory (os error 20)"
  | isDirectory => "Is a directory (os error 21)"
  | nameTooLong => "File name too long (os error 36)"
  | badPath => "file name contained an unexpected NUL byte"
  | notText => "stream did not contain valid UTF-8"
  | other message => message

structure FileSystem (m : Type → Type) where
  read : (path : String) → m (Except FileError ByteArray)
  write : (path : String) → (content : ByteArray) → m (Except FileError Unit)

/-- The files of a directory without others in it, by name. Files elsewhere go by their paths. -/
structure Directory where
  files : List (String × ByteArray)

namespace Directory

/-- A directory with some files, on a system with nothing else. -/
def ofFiles (files : List (String × ByteArray)) : Directory := ⟨files⟩

def find? (d : Directory) (name : String) : Option ByteArray :=
  (d.files.find? (·.1 = name)).map (·.2)

def put (d : Directory) (name : String) (content : ByteArray) : Directory :=
  ⟨(name, content) :: d.files.filter (·.1 ≠ name)⟩

/-- How a path goes on after a name. -/
inductive Ending
  | nothing
  | slash
  | path
  deriving DecidableEq, Repr

/-- What a path leads to. -/
inductive Place
  /-- The directory, or one around it. -/
  | directory
  /-- A file, by what it is known as and by its bare name, and the rest of the path. -/
  | entry (file name : String) (ending : Ending)
  deriving DecidableEq, Repr

def place (path : String) : Place :=
  let parts := path.splitOn "/"
  let names := parts.filter fun part => part ≠ "" ∧ part ≠ "."
  let around := String.join ((names.takeWhile (· = "..")).map (· ++ "/"))
  match names.dropWhile (· = "..") with
  | [] => .directory
  | name :: more =>
    let file := (if path.startsWith "/" then "/" else around) ++ name
    .entry file name <|
      if more ≠ [] ∨ parts.getLast? = some "." then .path
      else if parts.getLast? = some "" then .slash
      else .nothing

/-- Why a path is no good, whatever there is on the system. -/
def refusal? (path : String) : Option FileError :=
  if path.contains '\x00' then some .badPath
  else if 4095 < path.utf8ByteSize then some .nameTooLong
  else none

/-- Why there is no file with a name. -/
def missing (name : String) : FileError :=
  if 255 < name.utf8ByteSize then .nameTooLong else .notFound

def read (d : Directory) (path : String) : Except FileError ByteArray :=
  match refusal? path, d.find? path with
  | some e, _ => .error e
  | none, some content => .ok content
  | none, none =>
    match place path with
    | .directory => .error .isDirectory
    | .entry file name ending =>
      match d.find? file, ending with
      | some content, .nothing => .ok content
      | some _, _ => .error .notDirectory
      | none, _ => .error (missing name)

def write (d : Directory) (path : String) (content : ByteArray) : Except FileError Directory :=
  match refusal? path, d.find? path with
  | some e, _ => .error e
  | none, some _ => .ok (d.put path content)
  | none, none =>
    match place path with
    | .directory => .error .isDirectory
    | .entry _ _ .slash => .error .isDirectory
    | .entry file name .nothing =>
      if 255 < name.utf8ByteSize then .error .nameTooLong else .ok (d.put file content)
    | .entry file name .path =>
      .error (if (d.find? file).isSome then .notDirectory else missing name)

/-- The file system that is a single directory. -/
def fileSystem : FileSystem (StateM Directory) where
  read path := do pure ((← get).read path)
  write path content := do
    match (← get).write path content with
    | .ok d => set d; pure (.ok ())
    | .error e => pure (.error e)

end Directory

end DocFilter

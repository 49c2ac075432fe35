import DocFilter.Cli.Program

/-!
The command line program, on the files and the environment of the system.
-/

namespace DocFilter

def fileError : IO.Error → FileError
  | .noFileOrDirectory .. => .notFound
  | .inappropriateType _ code _ => if code = 20 then .notDirectory else .isDirectory
  | e => .other (toString e)

def diskFiles : FileSystem IO where
  read path := do
    try
      pure (.ok (← IO.FS.readBinFile path))
    catch e => pure (.error (fileError e))
  write path content := do
    try
      IO.FS.writeBinFile path content
      pure (.ok ())
    catch e => pure (.error (fileError e))

end DocFilter

def main (args : List String) : IO UInt32 := do
  let env : DocFilter.Cli.Environment :=
    { config := ← IO.getEnv "FILTER_QUERY_CONFIG"
      log := ← IO.getEnv "RUST_LOG"
      logStyle := ← IO.getEnv "RUST_LOG_STYLE"
      noColor := ← IO.getEnv "NO_COLOR"
      forceColor := ← IO.getEnv "CLICOLOR_FORCE" }
  let outcome ← DocFilter.Cli.run DocFilter.diskFiles env args
  IO.print outcome.stdout
  IO.eprint outcome.stderr
  pure outcome.exit.toUInt32

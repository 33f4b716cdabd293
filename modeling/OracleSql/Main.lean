import OracleSql.CommandLine.Run

/-!
# The command

The outer layer of the command line: it looks at the files that a run needs, and prints what the
run yields.
-/

open OracleSql.CommandLine

def lookAt (path : String) : IO FileStatus := do
  try
    return .file (← IO.FS.readFile path)
  catch
    | .noFileOrDirectory .. => return .missing
    | .inappropriateType _ code _ => return if code = 20 then .notDirectory else .directory
    | e => return .unreadable (toString e)

def userConfigDirectory : IO (Option String) := do
  match ← IO.getEnv "XDG_CONFIG_HOME" with
  | some directory =>
    if directory.startsWith "/" then return some directory
  | none => pure ()
  return (← IO.getEnv "HOME").map fun home => home ++ "/.config"

def main (args : List String) : IO UInt32 := do
  let configDirectory ← userConfigDirectory
  let found ← (neededPaths configDirectory args).mapM fun path => do
    return (path, ← lookAt path)
  let report := run ⟨configDirectory, fun path => (found.lookup path).getD .missing⟩ args
  IO.print report.stdout
  match report.message with
  | some message => IO.eprintln ("Error: " ++ message)
  | none => pure ()
  return report.exitCode.toUInt32

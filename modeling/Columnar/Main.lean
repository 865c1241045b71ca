import Columnar.CommandLine.Help
import Columnar.CommandLine.Report

/-!
# The program

Reads the files that the arguments name, runs the command on them, and prints its report.
-/

open Columnar

/-- What a path of the file system leads to. -/
def readEntry (path : String) : IO Entry := do
  if '\x00' ∈ path.toList then return .absent .nulInPath
  try
    return .file (← IO.FS.readBinFile path)
  catch
    | .noFileOrDirectory .. => return .absent .notFound
    | .inappropriateType _ code _ =>
      return if code = 20 then .absent .notADirectory else .directory
    | .invalidArgument _ 36 _ => return .absent .nameTooLong
    | failure => throw failure

/-- The files at the given paths. -/
def readDirectory (paths : List String) : IO Directory := do
  let entries ← paths.mapM fun path => return (path, ← readEntry path)
  return fun path => (entries.lookup path).getD (.absent .notFound)

/-- Runs the program and gives its exit status. -/
def main (arguments : List String) : IO UInt32 := do
  match CommandLine.Invocation.parse arguments with
  | .error stop =>
    let program := (← IO.appPath).fileName.getD "columnar"
    IO.print (stop.output program)
    if stop = .usage then
      IO.eprintln ("Usage: " ++ CommandLine.Scope.program.usage program)
    return UInt32.ofNat stop.exitStatus
  | .ok invocation =>
    let report := invocation.run (← readDirectory invocation.paths)
    IO.print report.output
    if let .error failure := report.outcome then
      IO.eprintln s!"Error: {failure.message}"
    return UInt32.ofNat report.exitStatus

import RowQuery.CommandLine.Run

/-!
The program: reads the arguments and the file, prints the answer of the command or the error.
-/

namespace RowQuery.CommandLine

/-- What is printed where no command is run. -/
def usageText : UsageError → String
  | .version => "rowquery 0.1.0"
  | _ => "Usage: rowquery --data <DATA> [OPTIONS] <query [QUERY] [--explain] | describe [QUERY]>"

/-- The text of what can be opened although it is no file of text, or why it cannot be opened. -/
def contentOfFault : IO.Error → Except PathFault String
  | .noFileOrDirectory .. => .error .missing
  | .permissionDenied .. => .error .denied
  | .invalidArgument .. => .error .nameTooLong
  | .inappropriateType _ _ details =>
    if details = "Is a directory" then .ok "" else .error .notDirectory
  | .userError _ => .ok ""
  | e => .error (.other (toString e))

/-- The text of a file, or why it cannot be read. -/
def contentOf (path : String) : IO (Except PathFault String) := do
  if let some fault := PathFault.ofPath? path then return .error fault
  try return .ok (← IO.FS.readFile path)
  catch e => return contentOfFault e

end RowQuery.CommandLine

open RowQuery.CommandLine in
/-- Runs the program. -/
def main (arguments : List String) : IO UInt32 := do
  match Arguments.read arguments with
  | .error e =>
    IO.println (usageText e)
    return if e = .help || e = .version then 0 else 2
  | .ok args =>
    match run args (← contentOf args.data) with
    | .ok output =>
      IO.println output
      return 0
    | .error e =>
      IO.eprintln ("Error: " ++ e.message)
      return e.exitCode.toUInt32

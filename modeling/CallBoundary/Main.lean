import CallBoundary.Request

/-! The command line program. -/
namespace CallBoundary

def readContent (path : String) : IO Declaration.Content := do
  try
    return .stored (← IO.FS.readBinFile path)
  catch
    | .noFileOrDirectory .. => return .missing
    | error => return .unreadable (toString error)

/-- Prints an outcome and writes its output file. -/
def deliver (outcome : Command.Outcome) (path : Option String) : IO UInt32 := do
  (← IO.getStderr).putStr outcome.stderr
  (← IO.getStdout).putStr outcome.stdout
  try
    match outcome.output, path with
    | some text, some path => IO.FS.writeFile path text
    | _, _ => pure ()
    return outcome.exit.toUInt32
  catch error =>
    (← IO.getStderr).putStr ("Error: " ++ toString error ++ "\n")
    return 1

end CallBoundary

open CallBoundary in
def main (arguments : List String) : IO UInt32 := do
  match Request.ofArguments? arguments with
  | some (.lower input output options) =>
    deliver (Command.lower options (← readContent input)) output
  | some (.check input) => deliver (Command.check input (← readContent input)) none
  | none =>
    (← IO.getStderr).putStr Request.usage
    return 2

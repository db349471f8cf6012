import BeltGantry.Program.Arguments
namespace BeltGantry

/-!
# The command

Reads the command line and the machine file, carries out the invocation and
prints what it produced: the log and the report on standard output, a complaint
on standard error.
-/

/-- Read what a path leads to. -/
def readContent (path : String) : IO FileContent := do
  try
    return .bytes (← IO.FS.readBinFile path)
  catch
    | .noFileOrDirectory .. => return .missing
    | problem => return .unreadable (toString problem)

/-- Print what an invocation produced, and return the exit code. -/
def Outcome.print (outcome : Outcome) (json : Bool) : IO UInt32 := do
  for notice in outcome.log do
    IO.println (if json then notice.datum.compact else notice.printed)
  for report in outcome.report do
    IO.println report.datum.pretty
  for complaint in outcome.complaint do
    IO.eprintln complaint.message
  return outcome.exitCode.toUInt32

end BeltGantry

open BeltGantry in
/-- The command itself. -/
def main (words : List String) : IO UInt32 := do
  match Program.readArguments words with
  | .error .help => IO.println Program.helpText; return 0
  | .error .version => IO.println Program.versionText; return 0
  | .error (.fault fault) =>
    IO.eprintln (Text.unstyled (fault.message ++ "\n\n" ++ Program.usageText ++
      "\n\nFor more information, try '--help'."))
    return 2
  | .ok invocation =>
    let outcome := Program.execute invocation (← readContent invocation.config)
    outcome.print invocation.json

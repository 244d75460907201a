import FrontEnd.Command.Answer

/-!
# The program

Reads the file that the arguments name, and gives the answer to them.
-/

namespace FrontEnd

/-- What a path leads to on disk. -/
def contentOnDisk (path : String) : IO Content := do
  if path.toList.contains '\x00' then return .impossible
  try
    return .file (← IO.FS.readBinFile path)
  catch
    | .inappropriateType .. => return .directory
    | _ => return .missing

/-- Prints an answer, the messages first. -/
def printOutcome (o : Outcome) : IO Unit := do
  let out ← IO.getStdout
  let err ← IO.getStderr
  for e in o.entries do
    err.putStrLn s!"DEBUG {e.channel.name}: {e.message}"
  out.putStr o.stdout
  err.putStr o.stderr
  out.flush
  err.flush

end FrontEnd

open FrontEnd in
/-- Answers the arguments and ends with the exit code of the answer. -/
def main (args : List String) : IO UInt32 := do
  let request := Interface.terminal.request args
  let content ← match request.wish.path? with
    | some path => contentOnDisk path
    | none => pure .missing
  let settings := Settings.ofEnvironment (← IO.getEnv "RUCKY_DEBUG") none "normal"
  let outcome := Interface.terminal.answer (fun _ => content) settings request
  printOutcome outcome
  return outcome.exitCode.toUInt32

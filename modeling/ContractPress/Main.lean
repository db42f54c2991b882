import ContractPress.CommandLine.Process
import ContractPress.Log.Line

/-!
The program at a terminal.
-/

namespace ContractPress

/-- The result of an action, if it succeeds. -/
def attempt {α : Type} (action : IO α) : IO (Option α) := do
  try
    return some (← action)
  catch _ =>
    return none

/-- The files of the machine. -/
def machineFiles : FileAccess IO where
  readText? path := attempt (IO.FS.readFile path)
  occupied path := do return (← attempt (IO.FS.realPath path)).isSome
  createDirectories path := do
    if path = "" then return true
    return (← attempt (IO.FS.createDirAll path)).isSome
  write path text := do return (← attempt (IO.FS.writeFile path text)).isSome

end ContractPress

open ContractPress in
def main (words : List String) : IO UInt32 := do
  let environment ← variableNames.mapM fun name => do return (name, ← IO.getEnv name)
  let o ← runProcess machineFiles (fun name => (environment.lookup name).join) words
  for e in o.events do IO.eprintln (e.line o.settings)
  for notice in o.notices do IO.eprintln notice
  IO.print o.output
  return o.exitCode.toUInt32

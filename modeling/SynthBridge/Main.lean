import SynthBridge.Command.Run

/-!
# The program

Gathers what the command works on, lets `Command.run` decide what to print, and prints it.
-/

namespace SynthBridge

namespace Command

/-- The variables that the command looks at. -/
def variableNames : List String :=
  ["HOME", "XDG_CONFIG_HOME", "XDG_DATA_HOME", "XDG_DATA_DIRS", "CLICOLOR_FORCE"]

/-- The environment of the process. -/
def processEnvironment : IO Environment := do
  let found ← variableNames.filterMapM fun name => do
    return (← IO.getEnv name).map (name, ·)
  return { settings := found }

/-- Adds what there is under a path. What cannot be read but is there counts as a directory. -/
def addFile (t : FileTree) (path : String) : IO FileTree := do
  try
    return t.layOut path (← IO.FS.readBinFile path)
  catch e =>
    match e with
    | .noFileOrDirectory .. => return t
    | _ => return t.layOut (path ++ "/") .empty

/-- The files that a command line makes the command look at. -/
def neededFiles (words : List String) (e : Environment) : IO FileTree := do
  let t ← (configPaths words).foldlM addFile .empty
  (romPaths words .xdg e t).foldlM addFile t

end Command

end SynthBridge

open SynthBridge in
/-- Runs the command on the words of the command line. -/
def main (words : List String) : IO UInt32 := do
  let e ← Command.processEnvironment
  let t ← Command.neededFiles words e
  let report := Command.run Command.programName words .xdg e t
  (← IO.getStdout).putStr report.out
  (← IO.getStderr).putStr report.err
  return report.code.toUInt32

import ServiceDocs.CommandLine.Run
import ServiceDocs.Files.Description
import ServiceDocs.Json.Reader
import ServiceDocs.Program.ModuleFiles
import ServiceDocs.Program.Reader

open ServiceDocs
open ServiceDocs.Json (Value)
open ServiceDocs.Program (Listing ModuleSource)

/-!
# The program

The arguments of the program are a command line, and its standard input is a JSON object that
describes what the command works on: its files (`files`) and its modules (`modules`).  The files
that are new or have changed come out on standard output, again as a JSON object, and the log on
standard error.
-/

/-- Writes what has come of a command. -/
def printRun (before : Files.Tree) (r : CommandLine.Run) : IO UInt32 := do
  for e in r.log do
    IO.eprintln (e.level.word ++ " " ++ e.word)
  let changes := (before.changes r.tree).map fun (name, text) => (name, Value.string text)
  IO.println (Value.object changes).canonical
  match r.outcome with
  | .exit code => return code.toUInt32
  | .brokenOff e => do
    IO.eprintln e.message
    return 1

/-- Carries out the command line that the program is called with. -/
def main (args : List String) : IO UInt32 := do
  let input ← (← IO.getStdin).readToEnd
  match Json.read input with
  | .error e => do
    IO.eprintln e.message
    return 2
  | .ok v => do
    let fields := Program.fieldsOf v
    let listing := Listing.ofSources ((fields.items "modules").map ModuleSource.read)
    let modules := listing.files.map fun (name, text) => (name, Value.string text)
    let tree := Files.Tree.ofFields (modules ++ Program.fieldsOf (fields.value "files"))
    printRun tree (CommandLine.run tree listing args)

import MarkdownSections.Command.Run

/-!
# The program

Reads what the command line names from the disk, runs the command on it, and shows the outcome.
-/

set_option autoImplicit false

namespace MarkdownSections.Main

/-- Reads the bytes of a file; a file that cannot be opened is left out. -/
def readFile? (entry : IO.FS.DirEntry) : IO (Option FileTree) := do
  try
    let bytes ← IO.FS.readBinFile entry.path
    return some (.file (bytes.toList.map UInt8.toNat))
  catch _ => return none

/-- Reads a file, or a directory with the documents in it. -/
partial def readTree? (entry : IO.FS.DirEntry) : IO (Option FileTree) := do
  if ← entry.path.isDir then
    let inner ← entry.path.readDir
    let trees ← inner.toList.filterMapM fun e => do
      if (← e.path.isDir) || (Path.ofText e.fileName).isDocument then
        return (← readTree? e).map (e.fileName, ·)
      else return some (e.fileName, .file [])
    return some (.directory trees)
  else readFile? entry

/-- The files with what stands at a path of the disk. -/
def addPath (files : Files) (path : String) : IO Files := do
  match ← readTree? { root := ← IO.currentDir, fileName := path } with
  | some tree =>
    let names := Files.withoutDots (files.namesTo (Path.ofText path))
    return { files with top := files.top.put tree names }
  | none => return files

/-- The environment variables of the settings. -/
def readEnvironment : IO (List (String × String)) := do
  Settings.fieldNames.filterMapM fun field => do
    let name := Settings.variableName field
    return (← IO.getEnv name).map (name, ·)

/-- What the disk and the environment hold for a command. -/
def readSurroundings (c : Command) : IO Surroundings := do
  let working := (Path.ofText (← IO.currentDir).toString).names
  let files : Files := { top := FileTree.empty.put .empty working, working }
  let files ← addPath files c.path
  let files ← addPath files Settings.filePath.toText
  return { files, environment := ← readEnvironment }

/-- Shows an outcome, and writes the file that it holds. -/
def report (outcome : Outcome) : IO UInt32 := do
  if let some (path, text) := outcome.written then
    IO.FS.createDirAll path.parent.toText
    IO.FS.writeFile path.toText text
  IO.print outcome.output
  IO.eprint outcome.errors
  if let some e := outcome.escaped then IO.eprintln e.message
  return UInt32.ofNat outcome.exitCode

/-- The commands with their options. -/
def usage : String :=
  String.join <| Command.optionTables.map fun (name, options) =>
    "  " ++ " ".intercalate (name :: options.map (·.1)) ++ "\n"

end MarkdownSections.Main

open MarkdownSections in
/-- Runs the command that the command line names. -/
def main (words : List String) : IO UInt32 := do
  match Command.Invocation.ofWords words with
  | .command c => Main.report ((Command.Invocation.command c).outcome (← Main.readSurroundings c))
  | invocation =>
    IO.eprint ("Commands and options:\n" ++ Main.usage)
    Main.report (invocation.outcome { files := {} })

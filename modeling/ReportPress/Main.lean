import ReportPress.Command
import ReportPress.Workspace.Changes

/-!
The command line. What stands at the paths of a command is read into a workspace, the command is run
there, and what it changed is written back.
-/

namespace ReportPress.Console

/-- The location as the system takes it. -/
def systemPath (location : Location) : String :=
  if location.isEmpty then "." else "/".intercalate location

/-- What stands at a location, and below it down to a depth. -/
def readTree : Nat → Location → IO (List (Location × Entry))
  | depth, location => do
    match ← (IO.FS.DirEntry.mk (systemPath location) ".").path.readDir.toBaseIO with
    | .ok children =>
      match depth with
      | 0 => return [(location, .directory)]
      | depth + 1 =>
        let below ← children.toList.mapM fun child => readTree depth (location ++ [child.fileName])
        return (location, .directory) :: below.flatten
    | .error _ =>
      match ← (IO.FS.readBinFile (systemPath location)).toBaseIO with
      | .ok bytes => return [(location, .file bytes.toList)]
      | .error _ => return []

/-- The locations of a path and of what leads to it, the latter first. -/
def locationsTo (path : Path) : List Location :=
  let start : Location := match path.anchor with
    | .here => []
    | _ => ["/"]
  (List.range (path.names.length + 1)).map fun count =>
    (path.names.take count).foldl Workspace.child start

/-- A workspace with what stands at the paths and on the way to them. A command looks no deeper than
into the directories of an output base. -/
def readWorkspace (paths : List Path) : IO Workspace := do
  let trees ← paths.mapM fun path => do
    let way ← (locationsTo path).dropLast.mapM (readTree 0)
    let target ← ((locationsTo path).getLast?.toList).mapM (readTree 2)
    return (way ++ target).flatten
  return trees.flatten.foldl (fun w entry => w.put entry.1 entry.2) .empty

/-- Writes what changed. -/
def writeChanges (changes : List (Location × Option Entry)) : IO Unit :=
  changes.forM fun change =>
    match change.2 with
    | some .directory => IO.FS.createDirAll (systemPath change.1)
    | some (.file bytes) => IO.FS.writeBinFile (systemPath change.1) ⟨bytes.toArray⟩
    | none => pure ()

/-- Tells a failure and gives the exit code. -/
def fail (message : String) : IO UInt32 := do
  IO.eprintln message
  return 1

/-- Tells how the program is used and gives the exit code. -/
def misuse : IO UInt32 := do
  IO.eprintln "Usage: reportpress schema|prompt|render|regenerate [OPTIONS] [FILE]"
  return 2

/-- The settings of the environment and of the file `.env`. -/
def readSettings : IO (Except String Settings) := do
  let environment := match ← (IO.FS.readFile "/proc/self/environ").toBaseIO with
    | .ok block => Settings.environmentOf block
    | .error _ => []
  match ← (IO.FS.readBinFile ".env").toBaseIO with
  | .error _ => return (Settings.load environment none).mapError Rejection.message
  | .ok bytes =>
    match Text.Utf8.decode bytes.toList with
    | .error e => return .error e.message
    | .ok text => return (Settings.load environment (some text)).mapError Rejection.message

/-- Runs a command on the files of the system. -/
def perform (settings : Settings) (command : Command) : IO UInt32 := do
  let before ← readWorkspace (command.paths settings)
  let outcome := command.run before settings
  writeChanges (before.changes outcome.workspace)
  outcome.notices.forM fun notice => IO.eprintln (notice.message Failure.message)
  match outcome.ending with
  | .exited code output =>
    IO.print output
    return code.toUInt32
  | .failed failure => fail failure.message
  | .misused => misuse

/-- Runs the command that the words of the command line give. -/
def run (args : List String) : IO UInt32 := do
  match ← readSettings with
  | .error message => fail message
  | .ok settings =>
    match Command.ofWords? args with
    | some command => perform settings command
    | none => misuse

end ReportPress.Console

def main (args : List String) : IO UInt32 := ReportPress.Console.run args

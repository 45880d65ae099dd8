import CompilerTest.Cli.Run
import CompilerTest.Shell.Host

/-!
# The command line

The outer layer of the program: it takes a picture of the working directory, lets the program work
on it, writes down what has changed, and prints the report.
-/

namespace CompilerTest.Cli

/-! ## Pictures of directories -/

/-- The names of the parts of a path. -/
def placeOf (path : String) : Place := (Path.ofText path).names

/-- The directories above a place. -/
def above (place : Place) : List (Place × Entry) :=
  (List.range place.length).map fun n => (place.take (n + 1), .directory)

/-- Whether a file with this content may be run: scripts may. -/
def mayRun (content : Bytes) : Bool := [0x23, 0x21].isPrefixOf content

/-- The entries of a directory that are found through an item of it. -/
partial def entriesBelow (place : Place) (item : IO.FS.DirEntry) : IO (List (Place × Entry)) := do
  let here := place ++ [item.fileName]
  if ← item.path.isDir then
    let inner ← item.path.readDir
    let entries ← inner.toList.mapM (entriesBelow here)
    return (here, .directory) :: entries.flatten
  else
    let content := (← IO.FS.readBinFile item.path).toList
    return [(here, .file content (mayRun content))]

/-- The working directory as a tree. -/
def readTree : IO FileTree := do
  let directory ← IO.currentDir
  let place := placeOf directory.toString
  let items ← directory.readDir
  let entries ← items.toList.mapM (entriesBelow place)
  return { entries := above place ++ entries.flatten ++ Shell.installed, workingPlace := place }

/-! ## Changes -/

/-- The text of a place. -/
def textOfPlace (place : Place) : String := "/" ++ String.intercalate "/" place

/-- Writes down an entry of the working directory that was not there before. -/
def writeEntry (old : FileTree) (place : Place) (entry : Entry) : IO Unit := do
  if old.workingPlace.isPrefixOf place && old.entries.lookup place ≠ some entry then
    match entry with
    | .directory => IO.FS.createDirAll (textOfPlace place)
    | .file content _ => IO.FS.writeBinFile (textOfPlace place) ⟨content.toArray⟩
    | _ => return

/-- Writes down what has changed from one tree to another. -/
def writeChanges (old new : FileTree) : IO Unit := do
  new.entries.forM fun (place, entry) => writeEntry old place entry
  old.entries.forM fun (place, entry) =>
    if (new.entries.lookup place).isNone && FileTree.isRegular entry then
      IO.FS.removeFile (textOfPlace place)
    else pure ()

end CompilerTest.Cli

open CompilerTest

/-- Runs the program with its arguments. -/
def main (arguments : List String) : IO UInt32 := do
  match Cli.Options.ofArguments arguments with
  | .error .help => return 0
  | .error (.usage error) =>
    IO.eprintln (Cli.usageLine error)
    return 2
  | .ok options =>
    let tree ← Cli.readTree
    match Cli.run Shell.host options tree with
    | .error fault =>
      IO.eprintln fault.message
      return 1
    | .ok ended =>
      Cli.writeChanges tree ended.report.session.tree
      IO.print ended.report.stdout
      IO.eprint ended.report.stderr
      return UInt32.ofNat ended.status

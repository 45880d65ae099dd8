import CompilerTest.Directives.Basic
import CompilerTest.FileTree.Resolve

/-!
# Configuration

What all tests of a run share: how the compiler is invoked, where its artifacts go, and what happens
to expected output that differs. The artifacts of a test go below the output directory, to a place
that depends on the real directory of the test alone.
-/

namespace CompilerTest

/-- How the compiler is invoked, before anything that depends on the test. -/
structure CommandBuilder where
  /-- The compiler. -/
  program : String
  /-- Its first arguments. -/
  args : List String := []
  /-- The argument that stands before the output directory; nothing if it is not given at all. -/
  outDirFlag : Option String := some "--out-dir"
  /-- Variables for its environment. -/
  envs : List (String × String) := []
  deriving DecidableEq, Repr, Inhabited

/-- The command for an output directory. -/
def CommandBuilder.build (b : CommandBuilder) (outDir : Path) : Command :=
  let command : Command := { program := b.program, args := b.args }
  let command := match b.outDirFlag with
    | some flag => command.extend [flag, outDir.text]
    | none => command
  command.envs b.envs

/-- The configuration of a run. How the output of the compiler is taken apart is no part of it:
there is one way to do so (`Diagnostics.decode`). -/
structure Config where
  /-- How the compiler is invoked. -/
  program : CommandBuilder
  /-- The directory of the tests. -/
  rootDir : Path
  /-- The directory for artifacts. -/
  outDir : Path
  /-- The platform that is compiled for. -/
  target : Option String := none
  /-- The platform of the compiler. -/
  host : Option String := none
  /-- The width of pointers of the target. -/
  pointerWidth : Option Number := none
  /-- What happens to expected output that differs. -/
  handling : ConflictHandling := .error
  /-- The command that makes actual output the expected one, for the user. -/
  blessCommand : Option String := none
  /-- Further arguments for builds that a test needs. -/
  auxArgs : List String := ["--crate-type=lib"]
  /-- Templates for the arguments that a test gets for a build. -/
  auxLinkArgs : List String :=
    ["--extern", "\x7bname\x7d=\x7bout_dir\x7d/lib\x7bname\x7d.rlib", "-L", "\x7bout_dir\x7d"]
  /-- What the names of compiled programs end in. -/
  exeSuffix : String := ""
  deriving DecidableEq, Repr, Inhabited

namespace Config

/-- Whether the compiled programs run where the compiler does. -/
def hostMatchesTarget (c : Config) : Bool := c.target.isNone || c.target = c.host

/-- The width of pointers of the machine. -/
def hostPointerWidth : Number := .int 64

/-- The width of pointers. -/
def width (c : Config) : Number := c.pointerWidth.getD hostPointerWidth

/-- The directory for artifacts of directories outside the directory of the tests. -/
def externalDir : String := "__external__"

/-- The names below the output directory for a real directory, where `root` is the real directory of
the tests. -/
def placeBelow (root : Option Path) (directory : Path) : List String :=
  match root.bind directory.relativeTo? with
  | some names => names
  | none => externalDir :: directory.names

/-- The real path of the directory of the tests; nothing if it is no path at all. -/
def realRoot (c : Config) (t : FileTree) : Except ResolveError (Option Path) :=
  match t.realPath false c.rootDir with
  | .ok root => .ok (some root)
  | .error (.file ⟨.hasNull, _⟩) => .ok none
  | .error error => .error error

/-- The directory for the artifacts of a file. -/
def outDirFor (c : Config) (t : FileTree) (file : Path) : Except ResolveError Path := do
  let directory ← t.realPath false file.parent
  let root ← c.realRoot t
  return c.outDir.below (placeBelow root directory)

end Config

end CompilerTest

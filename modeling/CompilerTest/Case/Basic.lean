import CompilerTest.Config.Basic
import CompilerTest.Fault

/-!
# Test cases

A test case is a test file under one of its revisions, with the configuration and the directives
that hold for it. This module says which directives apply, and where the expected output and the
input of the test are found: beside the test file, under its name with another suffix.
-/

namespace CompilerTest

/-- A test file under one of its revisions. -/
structure Case where
  /-- The configuration. -/
  config : Config
  /-- The revision; the nameless one is empty. -/
  revision : String
  /-- The directives of the file. -/
  directives : Directives
  /-- The test file. -/
  path : Path
  /-- The directory of files that tests need. -/
  auxDir : Path
  /-- Whether the output directory is already the one for this file. -/
  outDirPatched : Bool := false
  deriving Inhabited

/-- One of the outputs of a program. -/
inductive Stream where
  | stdout
  | stderr
  deriving DecidableEq, Repr

/-- The name of an output. -/
def Stream.name : Stream → String
  | stdout => "stdout"
  | stderr => "stderr"

namespace Case

/-- The same case under another revision. -/
def withRevision (c : Case) (revision : String) : Case := { c with revision }

/-- The directory where files that a test needs are found unless it is said otherwise. -/
def defaultAuxDir (path : Path) : Path := path.parent.below ["auxiliary"]

/-! ## Directives -/

/-- The sets of directives that apply. -/
def sets (c : Case) : List DirectiveSet := c.directives.forRevision c.revision

/-- What is expected of the compiler. -/
def mode (c : Case) : Except Failure (Spanned Mode) := c.directives.mode c.revision

/-- The value of a setting; `kind` names it in complaints. -/
def findOne {α : Type} (c : Case) (kind : String) (setting : DirectiveSet → Option (Spanned α)) :
    Except Failure (Option (Spanned α)) :=
  c.directives.findOne c.revision kind setting

/-- The messages that are expected on lines of the file. -/
def errorMatches (c : Case) : List ErrorMatch := c.sets.flatMap (·.errorMatches)

/-- The messages that are expected elsewhere. -/
def otherFiles (c : Case) : List (Spanned Pattern) := c.sets.flatMap (·.otherFiles)

/-- The files that are built first. -/
def auxBuilds (c : Case) : List (Spanned Path) := c.sets.flatMap (·.auxBuilds)

/-- The custom flags. -/
def flags (c : Case) : List Flag :=
  c.sets.flatMap fun s => s.custom.map fun (_, flag) => flag.content

/-- The normalization rules for an output. -/
def rules (c : Case) : Stream → List Normalization
  | .stdout => c.sets.flatMap (·.normalizeStdout)
  | .stderr => c.sets.flatMap (·.normalizeStderr)

/-! ## Output directory -/

/-- The case with the output directory for its file. It is looked up only once, also for cases that
are derived from this one. -/
def patchOutDir (c : Case) (t : FileTree) : Except ResolveError Case :=
  if c.outDirPatched then .ok c
  else do
    let outDir ← c.config.outDirFor t c.path
    return { c with config := { c.config with outDir }, outDirPatched := true }

/-! ## Files beside the test -/

/-- What the name of a file for this revision ends in. -/
def extension (c : Case) (kind : String) : String :=
  if c.revision = "" then kind else c.revision ++ "." ++ kind

/-- The file that the test reads as its input. -/
def stdinPath (c : Case) : Except Path.SuffixError Path :=
  c.path.withSuffix ("." ++ c.extension "stdin")

/-- Whether the expected output depends on the width of pointers. -/
def perBitwidth (c : Case) : Bool := c.sets.any (·.perBitwidth)

/-- The file of the expected output of a kind. -/
def outputPath (c : Case) (kind : String) : Except Path.SuffixError Path :=
  if c.perBitwidth then
    c.path.withSuffix ("." ++ c.config.width.display ++ "bit." ++ c.extension kind)
  else c.path.withSuffix ("." ++ c.extension kind)

/-! ## Normalization -/

/-- The output of a kind with the rules applied. Fixed output is kept as it is. -/
def normalize (c : Case) (text : Bytes) (kind : String) : Except Fault Bytes :=
  let applied (stream : Stream) : Except Fault Bytes :=
    (Normalization.applyAll (c.rules stream) text).mapError .regex
  if kind = "fixed" then .ok text
  else if kind = "stderr" then applied .stderr
  else if kind = "stdout" then applied .stdout
  else .error (.unknownOutput kind)

end Case

end CompilerTest

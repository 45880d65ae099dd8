import CompilerTest.Case.Basic
import CompilerTest.Session

/-!
# Expected output

The output of a program is normalized and compared with the expected output, which is a file beside
the test. A difference is an error, or makes the actual output the expected one, or does not matter.
-/

namespace CompilerTest

namespace Case

/-- The expected output in a file; no file stands for no output. -/
def expectedOutput (t : FileTree) (path : Path) : Except FileError Bytes :=
  match t.read path with
  | .error ⟨.notFound, _⟩ => .ok []
  | result => result

/-- The files after actual output has become the expected one: empty output has no file. -/
def blessed (t : FileTree) (path : Path) (output : Bytes) : Except FileError FileTree :=
  if output.isEmpty then t.remove path else t.write path output

/-- Makes actual output the expected one. -/
def bless (path : Path) (output : Bytes) : Run Unit := do
  Run.setTree (← Run.liftFile (blessed (← Run.tree) path output))
  if output.isEmpty then Run.log .debug "case" ("removed empty baseline " ++ path.text)
  else Run.log .info "case" ("blessed " ++ path.text)

/-- Compares the output of a kind with the expected one, and gives the file of the latter and what
is wrong. -/
def checkOutput (c : Case) (output : Bytes) (kind : String) : Run (Path × List Discrepancy) := do
  let output ← Run.lift (c.normalize output kind)
  let path ← Run.lift ((c.outputPath kind).mapError .suffix)
  match c.config.handling with
  | .error =>
    let expected ← Run.liftFile (expectedOutput (← Run.tree) path)
    if output = expected then return (path, [])
    else return (path, [.outputDiffers path output expected c.config.blessCommand])
  | .bless =>
    bless path output
    return (path, [])
  | .ignore => return (path, [])

/-- Compares both outputs of a program with the expected ones. -/
def checkTestOutput (c : Case) (stdout stderr : Bytes) : Run (List Discrepancy) := do
  let (_, first) ← c.checkOutput stderr "stderr"
  let (_, second) ← c.checkOutput stdout "stdout"
  return first ++ second

end Case

end CompilerTest

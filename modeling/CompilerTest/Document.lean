import CompilerTest.FileTree.Resolve
import CompilerTest.Json.Parser
import CompilerTest.Json.Schema

/-!
# Documents

Configuration and annotations are files that hold a single JSON object. Their text is UTF-8, and its
line ends count as line feeds.
-/

namespace CompilerTest

/-- What is wrong with a document, before its content is looked at. -/
inductive DocumentProblem where
  /-- It cannot be read. -/
  | unreadable (error : FileError)
  /-- It is no JSON. -/
  | malformed (problem : Json.Problem) (line column : Nat)
  /-- It is no object. -/
  | notAnObject
  deriving DecidableEq, Repr

/-- The wording of a problem with the document at a path; `what` names the sort of document. -/
def DocumentProblem.message (what : String) (path : Path) : DocumentProblem → String
  | unreadable error => s!"unable to read {what} file {path.text}: {error.message}"
  | malformed problem line column =>
    s!"{what} file is not valid JSON: {path.text} " ++
      s!"(line {line} column {column}: {problem.message})"
  | notAnObject => s!"{what} root must be a JSON object: {path.text}"

/-- Why a document is not read. -/
inductive DocumentError where
  /-- Something is wrong with it. -/
  | rejected (problem : DocumentProblem)
  /-- Its path is none. -/
  | badPath (error : FileError)
  /-- It is not UTF-8. -/
  | undecodable
  /-- A number in it has too many digits. -/
  | tooLong (digits : Nat)
  /-- It is nested too deep. -/
  | tooDeep
  deriving DecidableEq, Repr

namespace FileTree

/-- Reads the document at a path. -/
def document (t : FileTree) (path : Path) : Except DocumentError Json := do
  match t.read path with
  | .error error =>
    if error.problem = .hasNull then .error (.badPath error)
    else .error (.rejected (.unreadable error))
  | .ok bytes =>
    match bytes.text? with
    | none => .error .undecodable
    | some text =>
      match Json.parse (Text.unifyLineEnds text.toList) with
      | .error (.malformed problem line column) =>
        .error (.rejected (.malformed problem line column))
      | .error (.tooLong digits) => .error (.tooLong digits)
      | .error .tooDeep => .error .tooDeep
      | .ok (.object ms) => return .object ms
      | .ok _ => .error (.rejected .notAnObject)

end FileTree

end CompilerTest

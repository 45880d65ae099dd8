import CompilerTest.Config.Error
import CompilerTest.Directives.Error
import CompilerTest.Failure
import CompilerTest.Text.Template

/-!
# Faults

Everything that can end an operation: a failed test, an unusable document, or one of the ways in
which values that are read from documents turn out to be unusable later.
-/

namespace CompilerTest

/-- What has ended an operation. -/
inductive Fault where
  /-- The test has failed. -/
  | failed (failure : Failure)
  /-- The configuration is unusable. -/
  | config (error : ConfigError)
  /-- The directives are unusable. -/
  | directives (error : DirectivesError)
  /-- A pattern or a replacement is unusable. -/
  | regex (error : Regex.Error)
  /-- A template is unusable. -/
  | template (error : Text.TemplateError)
  /-- A path gets no other suffix. -/
  | suffix (error : Path.SuffixError)
  /-- A custom flag is unusable. -/
  | flag (error : FlagError)
  /-- The argument of a flag is no text. -/
  | flagArgument
  /-- There is no output of this kind. -/
  | unknownOutput (kind : String)
  /-- A text names no level. -/
  | unknownLevel (text : String)
  /-- An expected message stands on a line below one. -/
  | badLine (line : Number)
  /-- A line with a fraction cannot be looked up. -/
  | fractionalLine
  /-- The children of a diagnostic are no list. -/
  | childrenOfKind (children : Json)
  /-- A number in a document has too many digits. -/
  | longNumber (digits : Nat)
  /-- A document is nested too deep. -/
  | deepDocument
  /-- A document is not UTF-8. -/
  | undecodable
  /-- A text cannot be encoded. -/
  | unencodable
  /-- A variable of the environment has no proper name. -/
  | badVariable
  /-- The system refuses something. -/
  | file (error : FileError)
  /-- Links lead in a circle. -/
  | linkLoop (shown : String)
  /-- A build has failed for a reason of its own. -/
  | buildRefused (message : String)
  deriving Inhabited

namespace Fault

/-- The fault of a document that is not read; `reject` says what a problem with it means. -/
def ofDocument (reject : DocumentProblem → Fault) : DocumentError → Fault
  | .rejected problem => reject problem
  | .badPath error => .file error
  | .undecodable => .undecodable
  | .tooLong digits => .longNumber digits
  | .tooDeep => .deepDocument

/-- The wording of a fault. -/
def message : Fault → String
  | failed failure => failure.summary
  | config error => error.message
  | directives error => error.message
  | regex error => error.message
  | template error => error.message
  | suffix error => error.message
  | flag error => error.message
  | flagArgument => "an argument of a custom flag is no text"
  | unknownOutput kind => "unknown output kind " ++ Text.quote kind
  | unknownLevel text => Level.unknown text
  | badLine line => "error annotations use 1-based lines, got " ++ line.display
  | fractionalLine => "a line with a fraction cannot be looked up"
  | childrenOfKind children => "the children of a diagnostic are " ++ children.display
  | longNumber digits => (Text.IntegerError.tooLong digits).message
  | deepDocument => "a document is nested too deep"
  | undecodable => "a document is not UTF-8"
  | unencodable => "a text with a lone surrogate cannot be encoded"
  | badVariable => "illegal environment variable name"
  | file error => if error.problem = .hasNull then error.problem.description else error.message
  | linkLoop shown => "links lead in a circle: " ++ shown
  | buildRefused message => message

/-- The fault of a path without a real path. -/
def resolve : ResolveError → Fault
  | .file error => .file error
  | .loop shown => .linkLoop shown

end Fault

end CompilerTest

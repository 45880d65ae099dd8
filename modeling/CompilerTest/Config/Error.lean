import CompilerTest.Document

/-!
# Errors in configuration

Why a document gives no configuration.
-/

namespace CompilerTest

/-- Why a document gives no configuration. -/
inductive ConfigError where
  /-- The document itself is unusable. -/
  | document (path : Path) (problem : DocumentProblem)
  /-- The document does not have the shape of a configuration. -/
  | invalid (complaint : Json.Complaint)
  deriving DecidableEq, Repr

/-- The wording of a configuration error. -/
def ConfigError.message : ConfigError → String
  | document path problem => problem.message "config" path
  | invalid complaint =>
    s!"config validation failed at {complaint.location}: {complaint.message}"

end CompilerTest

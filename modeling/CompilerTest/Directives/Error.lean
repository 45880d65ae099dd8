import CompilerTest.Document
import CompilerTest.Flag.Error
import CompilerTest.Mode
import CompilerTest.Regex.Error

/-!
# Errors in directives

Why a document gives no directives, and why a revision cannot be chosen.
-/

namespace CompilerTest

/-- Why directives are refused. -/
inductive DirectivesError where
  /-- The document itself is unusable. -/
  | document (path : Path) (problem : DocumentProblem)
  /-- The document does not have the shape of directives. -/
  | invalid (complaint : Json.Complaint)
  /-- A set names revisions that are not declared. -/
  | undeclaredRevisions (set : Nat) (names : List String)
  /-- A pattern for messages is malformed. -/
  | badPattern (set : Nat) (list : String) (position : Nat) (error : Regex.Error)
  /-- A normalization rule is malformed. -/
  | badNormalization (set : Nat) (list : String) (position : Nat) (error : Regex.Error)
  /-- A mode that is no failure requires patterns. -/
  | misplacedRequirement (set : Nat) (mode : Mode)
  /-- A custom flag is malformed. -/
  | badFlag (set : Nat) (name : String) (error : FlagError)
  /-- Revisions were asked for that are not declared. -/
  | unknownRevisions (names : List String)

/-- The wording of an error in directives. -/
def DirectivesError.message : DirectivesError → String
  | document path problem => problem.message "annotation" path
  | invalid complaint =>
    s!"annotation validation failed at {complaint.location}: {complaint.message}"
  | undeclaredRevisions set names =>
    s!"directives.{set} names undeclared revision(s): " ++ String.intercalate ", " names
  | badPattern set list position error =>
    s!"invalid pattern regex at directives.{set}.{list}.{position}: {error.message}"
  | badNormalization set list position error =>
    s!"invalid normalization regex at directives.{set}.{list}.{position}: {error.message}"
  | misplacedRequirement set mode =>
    s!"require_patterns at directives.{set} needs mode \x60fail\x60, got \x60{mode.name}\x60"
  | badFlag set name error =>
    "invalid custom flag " ++ Text.quote name ++ s!" at directives.{set}: {error.message}"
  | unknownRevisions names => "unknown revision(s): " ++ String.intercalate ", " names

namespace Directives

/-- The revisions to run: the requested ones, which have to be declared, or else all declared ones,
or else the nameless one. -/
def selectRevisions (declared requested : List String) : Except DirectivesError (List String) :=
  if requested.isEmpty then .ok (if declared.isEmpty then [""] else declared)
  else
    let unknown := requested.filter (!declared.contains ·)
    if unknown.isEmpty then .ok requested else .error (.unknownRevisions unknown)

end Directives

end CompilerTest

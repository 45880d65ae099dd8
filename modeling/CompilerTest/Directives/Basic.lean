import CompilerTest.Failure
import CompilerTest.Flag
import CompilerTest.Normalization

/-!
# Directives

The directives of a test come in sets, each for some revisions of the test or for all of them. What
holds for a revision is the union of the sets that apply to it, in their order; a setting with a
single value is taken from the sets that name the revision or, failing that, from the last one that
is meant for all revisions.
-/

namespace CompilerTest

/-- What is expected of a message on a line. -/
inductive Expectation where
  /-- Its text fits a pattern, and it has a level. -/
  | pattern (pattern : Spanned Pattern) (level : Level)
  /-- It is an error with a code. -/
  | code (code : Spanned String)
  deriving DecidableEq, Repr, Inhabited

/-- Where an expectation was written down. -/
def Expectation.span : Expectation → Span
  | pattern p _ => p.span
  | code c => c.span

/-- A message that is expected on a line. -/
structure ErrorMatch where
  /-- What is expected. -/
  kind : Expectation
  /-- The line, which is at least one. -/
  line : Number
  deriving DecidableEq, Repr, Inhabited

namespace ErrorMatch

/-- Where an expected message was written down. -/
def span (m : ErrorMatch) : Span := m.kind.span

/-- An expected message, unless its line is below one. -/
def of? (kind : Expectation) (line : Number) : Option ErrorMatch :=
  if line.below 1 then none else some ⟨kind, line⟩

end ErrorMatch

/-- Directives for some revisions, or for all of them. -/
structure DirectiveSet where
  /-- The revisions; all of them if none is named. -/
  revisions : List String := []
  /-- Where the set was written down. -/
  span : Span := {}
  /-- Further arguments for the compiler. -/
  compileFlags : List String := []
  /-- Variables for the environment of the compiler. -/
  env : List (String × String) := []
  /-- Files that are built first. -/
  auxBuilds : List (Spanned Path) := []
  /-- Messages that are expected on lines of the file. -/
  errorMatches : List ErrorMatch := []
  /-- Messages that are expected elsewhere. -/
  otherFiles : List (Spanned Pattern) := []
  /-- Rules for the output. -/
  normalizeStdout : List Normalization := []
  /-- Rules for the error output. -/
  normalizeStderr : List Normalization := []
  /-- What the codes of messages begin with. -/
  codePrefix : Option (Spanned String) := none
  /-- The level from which on messages have to be expected. -/
  requiredLevel : Option (Spanned Level) := none
  /-- Whether the expected output depends on the width of pointers. -/
  perBitwidth : Bool := false
  /-- What is expected of the compiler. -/
  mode : Option (Spanned Mode) := none
  /-- Custom flags under their names, in the order in which they are applied. -/
  custom : List (String × Spanned Flag) := []
  deriving Inhabited

/-- Whether a set applies to a revision. -/
def DirectiveSet.appliesTo (s : DirectiveSet) (revision : String) : Bool :=
  s.revisions.isEmpty || s.revisions.contains revision

/-- Whether a set names a revision. -/
def DirectiveSet.mentions (s : DirectiveSet) (revision : String) : Bool :=
  s.revisions.contains revision

/-- The directives of a test. -/
structure Directives where
  /-- The revisions of the test. -/
  revisions : List String := []
  /-- The sets, in order. -/
  sets : List DirectiveSet := []
  deriving Inhabited

namespace Directives

/-- The sets that apply to a revision. -/
def forRevision (d : Directives) (revision : String) : List DirectiveSet :=
  d.sets.filter (·.appliesTo revision)

/-- The failure of a setting with several values for a revision. -/
def conflict (revision kind : String) (lines : List (Option Number)) : Failure :=
  { command := { program := s!"<finding flags for revision \x60{revision}\x60>" }
    errors := [.multipleValues kind lines] }

/-- The values of a setting in the sets that name a revision. -/
def specific {α : Type} (d : Directives) (revision : String)
    (setting : DirectiveSet → Option (Spanned α)) : List (Spanned α) :=
  (d.sets.filter (·.mentions revision)).filterMap setting

/-- The values of a setting in the sets for all revisions. -/
def general {α : Type} (d : Directives) (setting : DirectiveSet → Option (Spanned α)) :
    List (Spanned α) :=
  (d.sets.filter (·.revisions.isEmpty)).filterMap setting

/-- The value of a setting for a revision: the only one among the sets that name it or, if there is
none, the last one among the sets for all revisions. `kind` names the setting in complaints. -/
def findOne {α : Type} (d : Directives) (revision kind : String)
    (setting : DirectiveSet → Option (Spanned α)) : Except Failure (Option (Spanned α)) :=
  match d.specific revision setting with
  | [] => .ok (d.general setting).getLast?
  | [value] => .ok (some value)
  | _ :: others => .error (conflict revision kind (others.map Spanned.line))

/-- What is expected of the compiler for a revision; a failure with patterns if nothing is said. -/
def mode (d : Directives) (revision : String) : Except Failure (Spanned Mode) := do
  return (← d.findOne revision "mode changes" DirectiveSet.mode).getD ⟨.fail true, {}⟩

/-- The custom flag with this name for a revision. -/
def findFlag (d : Directives) (revision name : String) : Except Failure (Option (Spanned Flag)) :=
  d.findOne revision name fun s => s.custom.lookup name

end Directives

end CompilerTest

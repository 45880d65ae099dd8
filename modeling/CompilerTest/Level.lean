import CompilerTest.Text.Quoted
import CompilerTest.Text.Lines
import CompilerTest.Unicode.Case

/-!
# Levels of diagnostics

How severe a diagnostic is. The levels are ordered by their rank, and each can be written in several
ways.
-/

namespace CompilerTest

/-- How severe a diagnostic is. -/
inductive Level where
  /-- A note about the failure as a whole. -/
  | failureNote
  /-- A note. -/
  | note
  /-- A suggestion. -/
  | help
  /-- A warning. -/
  | warning
  /-- An error. -/
  | error
  deriving DecidableEq, Repr, Inhabited

namespace Level

/-- The rank of a level: an error ranks highest. -/
def rank : Level → Nat
  | failureNote => 0
  | note => 1
  | help => 2
  | warning => 3
  | error => 4

/-- The name of a level. -/
def name : Level → String
  | failureNote => "failure-note"
  | note => "note"
  | help => "help"
  | warning => "warning"
  | error => "error"

/-- Whether the first level is at least as severe as the second. -/
def atLeast (a b : Level) : Bool := b.rank ≤ a.rank

/-- The less severe of two levels. -/
def lower (a b : Level) : Level := if a.rank < b.rank then a else b

/-- The ways in which levels are written. -/
def spellings : List (String × Level) :=
  [("error", error), ("warn", warning), ("warning", warning), ("help", help), ("note", note),
    ("failure-note", failureNote), ("failure_note", failureNote),
    ("error: internal compiler error", error)]

/-- The level that a text names; blanks around it and the case of its letters do not matter. -/
def ofText? (text : String) : Option Level :=
  spellings.lookup (Unicode.lowerText (Text.strip text))

/-- The complaint about a text that names no level. -/
def unknown (text : String) : String := "unknown diagnostic level " ++ Text.quote text

end Level

end CompilerTest

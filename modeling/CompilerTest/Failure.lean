import CompilerTest.Command
import CompilerTest.Diagnostics.Basic
import CompilerTest.Mode
import CompilerTest.Pattern
import CompilerTest.Span

/-!
# Failures

What can be wrong with a test run, and the report about it. A discrepancy is a single way in which
the run differs from what the test expects; the failure of a build that the test needs carries the
discrepancies of that build. A failure collects the discrepancies of one command with its output.
-/

namespace CompilerTest

/-- A way in which a run differs from what a test expects. -/
inductive Discrepancy where
  /-- The exit status is not the expected one. -/
  | exitStatus (mode : String) (status expected : Int)
  /-- A command that has to succeed has not. -/
  | commandFailed (kind : String) (status : Int)
  /-- The output is not the expected one. -/
  | outputDiffers (path : Path) (actual expected : Bytes) (blessCommand : Option String)
  /-- No message fits a pattern. -/
  | patternNotFound (pattern : Spanned Pattern) (expectedLine : Option Number)
  /-- No message has a code. -/
  | codeNotFound (code : Spanned String) (expectedLine : Option Number)
  /-- Messages are not expected. Without a path they have no line of the tested file. -/
  | unexpectedMessages (messages : List Message) (path : Option (Spanned Path))
  /-- A message is expected in a test that must not fail. -/
  | patternInPassingTest (mode span : Span)
  /-- No message is expected in a test that has to expect one. -/
  | noPatterns
  /-- A setting has several values for one revision. -/
  | multipleValues (kind : String) (lines : List (Option Number))
  /-- A build that the test needs has failed. -/
  | auxiliary (path : Path) (errors : List Discrepancy) (line : Option Number)
  deriving Inhabited

namespace Discrepancy

/-- The words for a line, if there is one. -/
def onLine : Option Number → String
  | none => ""
  | some line => " on line " ++ line.display

/-- Captured output in a report. -/
def shownOutput (bytes : Bytes) : String := Text.trimLineFeeds (Bytes.textLossy bytes)

/-- The line about a message. -/
def messageLine (m : Message) : String :=
  let code := match m.code with
    | some code => if code = "" then "" else "[" ++ code ++ "] "
    | none => ""
  "  " ++ m.level.name ++ ": " ++ code ++ m.text

/-- A place where a value was set, or a question mark. -/
def shownLine : Option Number → String
  | none => "?"
  | some line => line.display

/-- Indents every line of a text. -/
def indented (text : String) : List String := (Text.lines text).map ("  " ++ ·)

mutual

/-- The description of a discrepancy. -/
def describe : Discrepancy → String
  | exitStatus mode status expected =>
    s!"test got exit status {status}, but expected {expected} ({mode} test)"
  | commandFailed kind status => s!"{kind} failed with exit status {status}"
  | outputDiffers path actual expected blessCommand =>
    let hint := match blessCommand with
      | some command =>
        if command = "" then [] else [s!"use \x60{command}\x60 to update the expected output"]
      | none => []
    Text.unlines (["actual output differs from expected in " ++ path.text] ++ hint ++
      ["--- expected", shownOutput expected, "+++ actual", shownOutput actual])
  | patternNotFound pattern expectedLine =>
    "pattern " ++ pattern.content.shown ++ " not found" ++ onLine expectedLine ++
      " (annotation at " ++ pattern.span.describe ++ ")"
  | codeNotFound code expectedLine =>
    "diagnostic code \x60" ++ code.content ++ "\x60 not found" ++ onLine expectedLine ++
      " (annotation at " ++ code.span.describe ++ ")"
  | unexpectedMessages messages path =>
    let header := match path with
      | none => "there were diagnostics in other files or without a line"
      | some path => "there were diagnostics without annotations at " ++ path.span.describe
    Text.unlines ((header ++ ":") :: messages.map messageLine)
  | patternInPassingTest mode span =>
    "error annotation at " ++ span.describe ++
      " found in a test that must not fail (mode set at " ++ mode.describe ++ ")"
  | noPatterns => "no error annotations found in a test that requires them"
  | multipleValues kind lines =>
    s!"multiple {kind} found for one revision (lines " ++
      String.intercalate ", " (lines.map shownLine) ++ ")"
  | auxiliary path errors line =>
    Text.unlines (("aux build of " ++ path.text ++ onLine line ++ " failed") ::
      describeAll errors)

/-- The indented descriptions of discrepancies, line by line. -/
def describeAll : List Discrepancy → List String
  | [] => []
  | d :: rest => indented d.describe ++ describeAll rest

end

end Discrepancy

/-- A failed test: the command, everything that was wrong, and the captured output. -/
structure Failure where
  /-- The command. -/
  command : Command
  /-- Everything that was wrong. -/
  errors : List Discrepancy := []
  /-- The captured error output. -/
  stderr : Bytes := []
  /-- The captured output. -/
  stdout : Bytes := []
  deriving Inhabited

namespace Failure

/-- The failure in a single line. -/
def summary (f : Failure) : String :=
  s!"{f.errors.length} error(s) running {f.command.render}"

/-- The lines of a description in a report: the first one is marked, the others are indented. -/
def itemLines (text : String) : List String :=
  match Text.lines text with
  | [] => []
  | first :: rest => ("- " ++ first) :: rest.map ("  " ++ ·)

/-- A section of a report with captured output. -/
def outputSection (header : String) (bytes : Bytes) : List String :=
  if bytes.isEmpty then [] else [header, Discrepancy.shownOutput bytes]

/-- The lines about everything that was wrong. -/
def errorSection (errors : List Discrepancy) : List String :=
  if errors.isEmpty then [] else "errors:" :: errors.flatMap fun e => itemLines e.describe

/-- The report about a failure. -/
def render (f : Failure) : String :=
  Text.unlines (["command: " ++ f.command.render] ++ errorSection f.errors ++
    outputSection "full stderr:" f.stderr ++ outputSection "full stdout:" f.stdout)

end Failure

end CompilerTest

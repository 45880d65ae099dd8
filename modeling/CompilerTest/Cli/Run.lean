import CompilerTest.Case.Run
import CompilerTest.Cli.Options
import CompilerTest.Config.Loader
import CompilerTest.Directives.Loader

/-!
# Running the revisions of a test

The program reads the configuration and the directives of one test file, runs the test under each
revision that was asked for, and reports: passed revisions on its output, and everything else,
together with the log, on its error output. Unusable documents and a missing test file are errors of
the input. A fault that is neither such an error nor a failed test ends the program.
-/

namespace CompilerTest.Cli

/-- The name of the program, as it appears in its own messages. -/
def programName : String := "uicheck"

/-- What the program has written so far, with the session that it works on. -/
structure Report where
  /-- The session. -/
  session : Session
  /-- The output. -/
  stdout : String := ""
  /-- The error output. -/
  stderr : String := ""
  deriving Inhabited

namespace Report

/-- Adds a line to the output. -/
def print (r : Report) (line : String) : Report := { r with stdout := r.stdout ++ line ++ "\n" }

/-- Adds a line to the error output. -/
def complain (r : Report) (line : String) : Report := { r with stderr := r.stderr ++ line ++ "\n" }

/-- Goes on with a later session: the records that are new in its log are written to the error
output if they are important enough. -/
def advance (r : Report) (severity : Severity) (session : Session) : Report :=
  let fresh := session.log.drop r.session.log.length
  let shown := fresh.filter fun record => severity.rank ≤ record.severity.rank
  shown.foldl (fun r record => r.complain record.line) { r with session }

/-- Takes a step of a run. -/
def step {α : Type} (r : Report) (severity : Severity) (x : Run α) : Except Fault α × Report :=
  let (result, session) := x r.session
  (result, r.advance severity session)

end Report

/-- How the program has ended: its exit status and its report. -/
structure Ended where
  /-- The exit status. -/
  status : Nat
  /-- The report. -/
  report : Report
  deriving Inhabited

/-! ## Input -/

/-- What the program works on. -/
structure Input where
  /-- The configuration. -/
  config : Config
  /-- The directives of the test file. -/
  directives : Directives
  /-- The revisions to run. -/
  revisions : List String

/-- Reads the configuration. -/
def loadConfig (o : Options) : Run Config := do
  let config ← Run.lift (Config.load (← Run.tree) o.config)
  Run.log .debug "config" ("loaded config for program " ++ config.program.program)
  return config

/-- Reads what the program works on. -/
def loadInput (o : Options) : Run Input := do
  let config ← loadConfig o
  let directives ← Run.lift (Directives.load (← Run.tree) o.annotations o.file)
  let revisions ← Run.lift
    ((Directives.selectRevisions directives.revisions o.revisions).mapError .directives)
  return { config, directives, revisions }

/-- The message of a fault that is an error of the input. -/
def inputError? : Fault → Option String
  | .config error => some error.message
  | .directives error => some error.message
  | _ => none

/-- The configuration with what the options say about it. -/
def configFor (o : Options) (config : Config) : Config :=
  { config with
    handling := o.handling.getD config.handling
    blessCommand := config.blessCommand.getD s!"{programName} {o.file.text} --bless" }

/-- The test under a revision. -/
def caseFor (o : Options) (config : Config) (directives : Directives) (revision : String) : Case :=
  { config, revision, directives, path := o.file
    auxDir := o.auxDir.getD (Case.defaultAuxDir o.file) }

/-! ## Revisions -/

/-- What a revision is called in the report. -/
def labelOf (file : Path) (revision : String) : String :=
  if revision = "" then file.text else s!"{file.text} ({revision})"

/-- Runs the test under revisions, one after the other, and counts those that have failed. -/
def runRevisions (host : Host) (o : Options) (config : Config) (directives : Directives) :
    List String → Report → Except Fault (Nat × Report)
  | [], r => .ok (0, r)
  | revision :: rest, r => do
    let label := labelOf o.file revision
    match r.step o.severity ((caseFor o config directives revision).run host config) with
    | (.ok _, r) => runRevisions host o config directives rest (r.print s!"ok {label}")
    | (.error (.failed failure), r) =>
      let r := (r.complain s!"FAILED {label}").complain failure.render
      let (failed, r) ← runRevisions host o config directives rest r
      return (failed + 1, r)
    | (.error fault, _) => .error fault

/-! ## The program -/

/-- The end of the program after an error of the input. -/
def endWithInputError (r : Report) (message : String) : Ended :=
  ⟨2, r.complain s!"{programName}: error: {message}"⟩

/-- Runs the program with its options on what it works on. -/
def runInput (host : Host) (o : Options) (input : Input) (r : Report) : Except Fault Ended := do
  if !(← (r.session.tree.isFile? o.file).mapError .file) then
    return endWithInputError r s!"test file does not exist: {o.file.text}"
  else
    let config := configFor o input.config
    let (failed, r) ← runRevisions host o config input.directives input.revisions r
    if failed = 0 then return ⟨0, r⟩
    else
      let total := input.revisions.length
      return ⟨1, r.complain s!"{programName}: {failed} of {total} revision(s) failed"⟩

/-- Runs the program with its options on a tree of files. -/
def run (host : Host) (o : Options) (t : FileTree) : Except Fault Ended :=
  let start : Report := { session := { tree := t } }
  match start.step o.severity (loadInput o) with
  | (.ok input, r) => runInput host o input r
  | (.error fault, r) =>
    match inputError? fault with
    | some message => .ok (endWithInputError r message)
    | none => .error fault

/-- The exit status after wrong arguments. -/
def usageStatus : Nat := 2

/-- The line about wrong arguments. -/
def usageLine (error : UsageError) : String := s!"{programName}: error: {error.message}"

end CompilerTest.Cli

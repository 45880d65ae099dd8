import CompilerTest.Builds

/-!
# Sessions

A session is what the steps of a run share and change: the files, the builds, the log, and what
observing flags have been handed. A step either gives a value or ends with a fault; in
both cases the session is as the step has left it.

Programs are run by a host, which is a parameter: it takes a command and the files and gives the
output of the program and the files as the program has left them, or says why it cannot be run.
-/

namespace CompilerTest

/-- How important a record of the log is. -/
inductive Severity where
  | debug
  | info
  | warning
  | error
  deriving DecidableEq, Repr

namespace Severity

/-- The name of a severity. -/
def name : Severity → String
  | debug => "DEBUG"
  | info => "INFO"
  | warning => "WARNING"
  | error => "ERROR"

/-- The rank of a severity. -/
def rank : Severity → Nat
  | debug => 0
  | info => 1
  | warning => 2
  | error => 3

/-- The severity that a text names. -/
def ofName? (name : String) : Option Severity :=
  [debug, info, warning, error].find? (·.name = name)

end Severity

/-- A record of the log. -/
structure LogRecord where
  /-- How important it is. -/
  severity : Severity
  /-- The part of the program that it comes from. -/
  source : String
  /-- Its text. -/
  text : String
  deriving DecidableEq, Repr

/-- A record of the log in one line. -/
def LogRecord.line (r : LogRecord) : String := s!"{r.severity.name} uicheck.{r.source}: {r.text}"

/-- What an observing flag has been handed. -/
structure FlagRecord where
  /-- The key of the flag. -/
  key : Nat
  /-- The command. -/
  command : Command
  /-- The output of the compiler. -/
  output : ProcessOutput

/-- What the steps of a run share and change. -/
structure Session where
  /-- The files. -/
  tree : FileTree
  /-- The builds. -/
  builds : Builds := {}
  /-- The log, in order. -/
  log : List LogRecord := []
  /-- What observing flags have been handed, in order. -/
  handed : List FlagRecord := []
  deriving Inhabited

/-- What runs programs. -/
structure Host where
  /-- Runs a program to its end. -/
  launch : FileTree → Command → Except FileError (ProcessOutput × FileTree)

/-- A step of a run. -/
abbrev Run := ExceptT Fault (StateM Session)

namespace Run

/-- Ends a step with a fault. -/
def fault {α : Type} (f : Fault) : Run α := throw f

/-- Ends a step with a failed test. -/
def fail {α : Type} (f : Failure) : Run α := throw (.failed f)

/-- A value, or the fault that stands in its place. -/
def lift {α : Type} : Except Fault α → Run α
  | .ok a => return a
  | .error f => throw f

/-- A value, or the failure that stands in its place. -/
def liftFailure {α : Type} : Except Failure α → Run α
  | .ok a => return a
  | .error f => throw (.failed f)

/-- A value, or the refusal that stands in its place. -/
def liftFile {α : Type} : Except FileError α → Run α
  | .ok a => return a
  | .error e => throw (.file e)

/-- A value, or the reason why there is no real path. -/
def liftResolve {α : Type} : Except ResolveError α → Run α
  | .ok a => return a
  | .error e => throw (.resolve e)

/-- The files. -/
def tree : Run FileTree := return (← get).tree

/-- Replaces the files. -/
def setTree (t : FileTree) : Run Unit := modify fun s => { s with tree := t }

/-- Adds a record to the log. -/
def log (severity : Severity) (source text : String) : Run Unit :=
  modify fun s => { s with log := s.log ++ [⟨severity, source, text⟩] }

/-- A step together with the fault that it may end with. -/
def attempt {α : Type} (x : Run α) : Run (Except Fault α) := fun s =>
  let (result, s) := x s
  (.ok result, s)

/-! ## Programs -/

/-- Refuses what cannot be handed to any program: a variable whose name holds an equals sign, and a
text with a zero byte. -/
def checkCommand (command : Command) : Run Unit := do
  let hasNull (text : String) : Bool := text.toList.contains '\x00'
  if command.env.any fun (k, _) => k.toList.contains '=' then fault .badVariable
  let texts := command.tokens ++ command.env.flatMap fun (k, v) => [k, v]
  match (texts ++ (command.directory.map Path.text).toList).find? hasNull with
  | some text => fault (.file ⟨.hasNull, Text.quote text⟩)
  | none => return

/-- What a command fails with if it cannot be run. -/
def refusal (command : Command) (e : FileError) : Failure where
  command := command
  stderr := Bytes.ofText e.message
  stdout := Bytes.ofText s!"could not spawn \x60{command.program}\x60 as a process"

/-- Runs a command to its end. The command fails if its program cannot be run. -/
def launch (host : Host) (command : Command) : Run ProcessOutput := do
  checkCommand command
  match host.launch (← tree) command with
  | .ok (output, t) =>
    setTree t
    return output
  | .error e => fail (refusal command e)

/-- Runs a command to its end. The command fails if its input cannot be read or its program cannot
be run. -/
def command (host : Host) (command : Command) : Run ProcessOutput := do
  log .debug "command" ("running " ++ command.render)
  match command.stdin with
  | none => launch host command
  | some path =>
    match (← tree).read path with
    | .ok _ => launch host command
    | .error e => if e.problem = .hasNull then fault (.file e) else fail (refusal command e)

/-! ## Builds -/

/-- Something that can be built. -/
structure Build where
  /-- What it is known by. -/
  key : BuildKey
  /-- What building it is, in words. -/
  description : String
  /-- Builds it: arguments for those who need it, or nothing if it was interrupted. -/
  run : Run (Option (List String))

/-- Changes the builds. -/
def modifyBuilds (f : Builds → Builds) : Run Unit := modify fun s => { s with builds := f s.builds }

/-- Asks for a build: it is run if nobody has asked for it before, and its result is handed out
again otherwise. Nothing if it was interrupted. -/
def request (what : Build) : Run (Option (List String)) := do
  let (n, isNew, builds) := (← get).builds.claim what.key
  modifyBuilds fun _ => builds
  if isNew then
    log .debug "build_manager" what.description
    match ← attempt what.run with
    | .ok (some args) =>
      modifyBuilds (·.settle n (.ok args))
      log .info "build_manager" ("finished " ++ what.description)
      return some args
    | .ok none =>
      modifyBuilds (·.forget what.key)
      modifyBuilds (·.cancel n)
      return none
    | .error f =>
      modifyBuilds (·.settle n (.error f))
      fault f
  else
    log .debug "build_manager" ("reusing " ++ what.description)
    match builds.promise? n with
    | some (.settled outcome) => return some (← lift (Builds.reused what.description outcome))
    | _ => return none

end Run

end CompilerTest

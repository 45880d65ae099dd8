import CompilerTest.Case.Baseline
import CompilerTest.Case.Matching
import CompilerTest.Diagnostics.Decode

/-!
# Running a test

A test is run in these steps: the builds that it needs, the compiler, the comparison of status,
output and messages with what is expected, and at last the actions of its custom flags.

Builds use the configuration that all tests share, so that their result does not depend on the test
that asks first; everything else uses the configuration of the case.
-/

namespace CompilerTest

namespace Case

/-! ## Builds that a test needs -/

/-- The path of a file that a test needs. A leading parent is seen from the parent of the directory
of such files. -/
def resolveAux (aux dir : Path) : Path :=
  if !aux.isAbsolute && aux.names.head? = some ".." then dir.parent.join aux else dir.join aux

/-- The arguments for a test that needs a build, from the templates of the configuration. -/
def linkArgs (config : Config) (file outDir : Path) : Except Text.TemplateError (List String) :=
  let name := String.ofList (file.stem.toList.map fun c => if c = '-' then '_' else c)
  config.auxLinkArgs.mapM (Text.fill [("name", name), ("out_dir", outDir.text)])

/-- Compiles a file that tests need. -/
def buildAuxFile (host : Host) (shared : Config) (file : Path) : Run (List String) := do
  let outDir ← Run.liftResolve (shared.outDirFor (← Run.tree) file)
  Run.setTree (← Run.liftFile ((← Run.tree).ensureDirectory outDir))
  let command := ((shared.program.build outDir).extend shared.auxArgs).arg file.text
  let output ← Run.command host command
  if output.status ≠ 0 then
    Run.fail {
      command
      errors := [.commandFailed "compilation of aux build" output.status]
      stderr := output.stderr
      stdout := output.stdout }
  Run.lift ((linkArgs shared file outDir).mapError .template)

/-- The build of a file that tests need. -/
def auxBuild (host : Host) (shared : Config) (file : Path) : Run.Build where
  key := .auxiliary file.text
  description := s!"building aux file \x60{file.text}\x60"
  run := do return some (← buildAuxFile host shared file)

/-- The path by which the build of a real file is known: seen from the working directory, if the
file is below it. -/
def auxKeyPath (t : FileTree) (real : Path) : Path :=
  match real.relativeTo? t.workingDirectory with
  | some names => ⟨.relative, names⟩
  | none => real

/-- The real path of a file that a test needs. -/
def realAux (file : Path) : Run Path := do
  match (← Run.tree).realPath true file with
  | .ok real => return real
  | .error (.file e) =>
    if e.problem = .hasNull then Run.fault (.file e)
    else Run.fail {
      command := { program := s!"canonicalizing path \x60{file.text}\x60" }
      stderr := Bytes.ofText e.message }
  | .error (.loop shown) => Run.fault (.linkLoop shown)

/-- Asks for the build of a file by its path as the test sees it. -/
def requestAux (host : Host) (shared : Config) (file : Path) : Run (List String) := do
  let real ← realAux file
  let args ← Run.request (auxBuild host shared (auxKeyPath (← Run.tree) real))
  return args.getD []

/-- Builds a file that a test needs. A failure is reported as that of the file. -/
def buildAux (host : Host) (shared : Config) (auxDir : Path) (aux : Spanned Path) :
    Run (List String) := do
  let file := resolveAux aux.content auxDir
  match ← Run.attempt (requestAux host shared file) with
  | .ok args => return args
  | .error (.failed f) => Run.fail { f with errors := [.auxiliary file f.errors aux.line] }
  | .error f => Run.fault f

/-- Builds all files that a test needs, one after the other. -/
def buildAuxFiles (host : Host) (shared : Config) (c : Case) : Run (List String) := do
  let args ← c.auxBuilds.mapM (buildAux host shared c.auxDir)
  return args.flatten

/-! ## The command -/

/-- The command with the arguments of the custom flags. -/
def applyFlags (flags : List Flag) (command : Command) : Except Fault Command :=
  flags.foldlM
    (fun command flag =>
      match flag.extend? command with
      | some command => .ok command
      | none => .error .flagArgument)
    command

/-- The arguments that name the target when it is not the platform of the compiler. -/
def targetArgs (config : Config) : List String :=
  match config.target with
  | some target => if config.hostMatchesTarget then [] else ["--target", target]
  | none => []

/-- The command of a test, given the arguments for the builds that it needs. -/
def assemble (c : Case) (auxArgs : List String) : Except Fault Command := do
  let command := (c.config.program.build c.config.outDir).extend auxArgs
  let command := command.arg c.path.text
  let command := if c.revision = "" then command else command.arg ("--cfg=" ++ c.revision)
  let command := command.extend (c.sets.flatMap (·.compileFlags))
  let command ← applyFlags c.flags command
  let command := command.extend (targetArgs c.config)
  return c.sets.foldl (fun command s => command.envs s.env) command

/-- The command of a test, after the builds that it needs. -/
def buildCommand (host : Host) (shared : Config) (c : Case) : Run Command := do
  let auxArgs ← buildAuxFiles host shared c
  Run.lift (c.assemble auxArgs)

/-- The command with the file of its input, if there is one. -/
def withInput (c : Case) (command : Command) : Run Command := do
  let stdin ← Run.lift (c.stdinPath.mapError .suffix)
  if ← Run.liftFile ((← Run.tree).exists? stdin) then return { command with stdin := some stdin }
  else return command

/-! ## Verification -/

/-- What is wrong with an exit status in a mode. -/
def statusConflict (mode : Mode) (status : Int) : List Discrepancy :=
  match mode.expectedStatus? with
  | some expected => if status = expected then [] else [.exitStatus mode.name status expected]
  | none => []

/-- The diagnostics in the error output of the compiler. -/
def decodeDiagnostics (c : Case) (stderr : Bytes) : Run Diagnostics := do
  let decoding ← Run.lift (Diagnostics.decode ⟨← Run.tree, c.path⟩ stderr)
  decoding.warnings.forM (Run.log .warning "diagnostics")
  return decoding.diagnostics

/-- What is wrong so far, followed by what is wrong with the messages of the compiler. -/
def messageErrors (c : Case) (d : Diagnostics) (errors : List Discrepancy) :
    Except Fault (List Discrepancy) :=
  let (result, s) := c.checkAnnotations { Matching.ofDiagnostics d with errors }
  result.map fun _ => s.errors

/-- Compares status, output and messages of the compiler with what is expected, and hands on the
output if nothing is wrong. -/
def verify (c : Case) (command : Command) (output : ProcessOutput) : Run ProcessOutput := do
  let mode ← Run.liftFailure c.mode
  let statusErrors := statusConflict mode.content output.status
  let diagnostics ← c.decodeDiagnostics output.stderr
  let outputErrors ← c.checkTestOutput output.stdout diagnostics.rendered
  let errors ← Run.lift (c.messageErrors diagnostics (statusErrors ++ outputErrors))
  if !errors.isEmpty then
    Run.fail { command, errors, stderr := diagnostics.rendered, stdout := output.stdout }
  return output

/-- Verification for its failure alone. -/
def checkResult (c : Case) (command : Command) (output : ProcessOutput) : Run Unit := do
  let _ ← c.verify command output

/-! ## Actions of custom flags -/

/-- The program that the compiler has made of the test. -/
def executable (c : Case) : Path :=
  c.config.outDir.join (.ofText (c.path.stem ++ c.config.exeSuffix))

/-- What is wrong with the exit status of the compiled program. -/
def exitConflict (expected status : Int) : List Discrepancy :=
  if status = expected then [] else [.exitStatus s!"run({expected})" status expected]

/-- The case under which the input of the compiled program is found and its output is checked. -/
def runCase (c : Case) : Case := c.withRevision (c.extension "run")

/-- Runs the compiled program and compares its status and output with what is expected. -/
def runExecutable (host : Host) (c : Case) (exitCode : Int) : Run Unit := do
  let command ← c.runCase.withInput { program := c.executable.text }
  let output ← Run.command host command
  let outputErrors ← c.runCase.checkTestOutput output.stdout output.stderr
  let errors := outputErrors ++ exitConflict exitCode output.status
  if !errors.isEmpty then
    Run.fail { command, errors, stderr := output.stderr, stdout := output.stdout }
  Run.log .debug "custom_flags" s!"executable {c.executable.text} passed"

/-- Records what a flag was handed. -/
def record (handed : FlagRecord) : Run Unit :=
  modify fun s => { s with handed := s.handed ++ [handed] }

/-- The action of a flag once the test has been verified: the command that it hands on, or nothing
if the test ends here. -/
def act (host : Host) (c : Case) (output : ProcessOutput) (command : Command) :
    Flag → Run (Option Command)
  | .args _ => return some command
  | .run exitCode => do
    runExecutable host c exitCode
    return some command
  | .observe key _ decide => do
    record { key, command, output }
    match decide command output with
    | .keep => return some command
    | .stop => return none
    | .replace other => return some other
    | .fail fault => Run.fault fault

/-- The actions of flags, each of which gets the command that the one before has handed on. The
result is the last command that was handed on. -/
def actAll (host : Host) (c : Case) (output : ProcessOutput) : Command → List Flag → Run Command
  | command, [] => return command
  | command, flag :: rest => do
    match ← act host c output command flag with
    | some command => actAll host c output command rest
    | none => return command

/-! ## The whole test -/

/-- A test that has passed. -/
structure Passed where
  /-- The last command that was handed on. -/
  command : Command
  /-- What the compiler has left behind. -/
  output : ProcessOutput

/-- Runs a test. -/
def run (host : Host) (shared : Config) (c : Case) : Run Passed := do
  let c ← Run.liftResolve (c.patchOutDir (← Run.tree))
  Run.setTree (← Run.liftFile ((← Run.tree).ensureDirectory c.config.outDir))
  let command ← c.withInput (← buildCommand host shared c)
  let output ← verify c command (← Run.command host command)
  let command ← actAll host c output command c.flags
  return { command, output }

end Case

end CompilerTest

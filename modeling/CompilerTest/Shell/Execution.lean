import CompilerTest.Shell.Utilities

/-!
# Running scripts

What the commands of a script do. Commands that hold commands are run by a runner that is handed to
everything that needs it; the runner is bounded by a number of steps, so that a script that would
never end is stopped.

A program is a utility, a shell, or a script that names its own interpreter.
-/

namespace CompilerTest.Shell

/-- What runs a command. -/
abbrev Runner := Script → Act Nat

/-! ## Statuses -/

/-- Sets the status of the last command. -/
def setStatus (status : Nat) : Act Nat := do
  modifyProcess fun p => { p with status }
  return status

/-- Runs something whose failure is expected. -/
def asTest (x : Act Nat) : Act Nat := do
  let before := (← process).tested
  modifyProcess fun p => { p with tested := true }
  let result ← attempt x
  modifyProcess fun p => { p with tested := before }
  match result with
  | .ok status => return status
  | .error e => throw e

/-- Ends the script after a failure, if it is to end then. -/
def heed (status : Nat) : Act Nat := do
  let p ← process
  if status ≠ 0 && p.endsOnFailure && !p.tested then throw (.exit status) else return status

/-! ## Source texts -/

/-- Runs the lines of a source text. Each round reads at least one character, so the length of the
text bounds their number. -/
def runLines (run : Runner) : Nat → Source → Nat → Act Nat
  | 0, _, status => return status
  | fuel + 1, source, status =>
    match nextLine.run source with
    | .error e => giveUp source.line e.message
    | .ok (none, _) => return status
    | .ok (some script, rest) => do
      let status ← run script
      runLines run fuel rest status

/-- Runs a source text. -/
def runSource (run : Runner) (source : Source) : Act Nat :=
  runLines run (source.rest.length + 1) source 0

/-- What has been written to a channel. -/
def writtenTo (n : Nat) : Act Chars := do
  let channels := (← get).channels
  match channels[n]? with
  | some (.output written) => return written.reverse
  | _ => return []

/-- The output of commands. -/
def capture (run : Runner) (line : Nat) (source : Chars) : Act Chars := do
  let n ← openChannel (.output [])
  let result ← inCopy do
    redirect 1 (some n)
    runSource run ⟨source, line⟩
  let status ← statusOfCopy result
  modifyProcess fun p => { p with status, captured := some status }
  writtenTo n

/-- How words on a line are expanded. -/
def expander (run : Runner) (line : Nat) : Expander := ⟨capture run line, line⟩

/-! ## Redirections -/

/-- The wording of a problem with opening a file. -/
def openProblem (missing : String) : FileProblem → String
  | .notFound => missing
  | .notDirectory => missing
  | problem => problem.description

/-- Opens a file to read. -/
def openToRead (name : String) : Act (Except String Nat) := do
  match (← tree).find true name with
  | .ok (_, .file content _) =>
    return .ok (← openChannel (.input (content.map fun b => Char.ofNat b.toNat)))
  | .ok _ => return .ok (← openChannel .nothing)
  | .error problem =>
    return .error ("cannot open " ++ name ++ ": " ++ openProblem "No such file" problem)

/-- Opens a file to write, with a change of what it holds. -/
def openToWrite (name : String) (change : Bytes → Bytes) : Act (Except String Nat) := do
  let t ← tree
  let failed (problem : FileProblem) : Except String Nat :=
    .error ("cannot create " ++ name ++ ": " ++ openProblem "Directory nonexistent" problem)
  match t.find true name with
  | .ok (_, .program _) => return .ok (← openChannel .nothing)
  | _ =>
    match t.update name change with
    | .error problem => return failed problem
    | .ok changed =>
      setTree changed
      match changed.locate true name with
      | .ok place => return .ok (← openChannel (.file place))
      | .error problem => return failed problem

/-- Applies a redirection: the complaint about it, if it fails. -/
def applyRedirection (x : Expander) (r : Redirection) : Act (Option String) := do
  let cs ← expandPlain x r.word
  let opened ← match r.opening with
    | .read => openToRead (textOf cs)
    | .write => openToWrite (textOf cs) fun _ => []
    | .append => openToWrite (textOf cs) id
    | .here => pure (.ok (← openChannel (.input cs)))
    | .duplicate => do
      let number := (String.ofList cs).toNat?
      match ← (number.map channelOf?).getD (pure none) with
      | some n => pure (.ok n)
      | none => pure (.error (textOf cs ++ ": Bad file descriptor"))
  match opened with
  | .ok n =>
    redirect r.descriptor (some n)
    return none
  | .error text =>
    if r.opening = .duplicate && cs = ['-'] then
      redirect r.descriptor none
      return none
    else return some text

/-- Applies redirections one after the other: the complaint about the first that fails. -/
def applyRedirections (x : Expander) : List Redirection → Act (Option String)
  | [] => return none
  | r :: rest => do
    match ← applyRedirection x r with
    | none => applyRedirections x rest
    | some text => return some text

/-- Runs something with redirections, which end with it. If one fails, the complaint goes to where
it went before. -/
def withRedirections (x : Expander) (redirections : List Redirection) (body : Act Nat) :
    Act Nat := do
  let before := (← process).descriptors
  let restore : Act Unit := modifyProcess fun p => { p with descriptors := before }
  match ← applyRedirections x redirections with
  | some text =>
    restore
    complain x.line text
    return 2
  | none =>
    let result ← attempt body
    restore
    match result with
    | .ok status => return status
    | .error e => throw e

/-! ## Programs -/

/-- The interpreter that a file names on its first line, with an argument for it. -/
def interpreterOf (content : Bytes) : Option (String × Option Chars) :=
  match content with
  | 0x23 :: 0x21 :: rest =>
    let line := (rest.takeWhile (· ≠ 0x0a)).map fun b => Char.ofNat b.toNat
    let line := ((line.dropWhile isBlank).reverse.dropWhile isBlank).reverse
    let name := line.takeWhile (!isBlank ·)
    let argument := (line.drop name.length).dropWhile isBlank
    if name.isEmpty then none
    else some (textOf name, if argument.isEmpty then none else some argument)
  | _ => none

/-- The program that a file is run by and the arguments of that program, the first of which is what
it is called. A script is run by the interpreter that it names, which may be a script again and is
called by its path; `depth` bounds how often. -/
def imageOf (t : FileTree) (called : Chars) :
    Nat → String → List Chars → Except FileProblem (String × List Chars)
  | 0, _, _ => .error .tooManyLinks
  | depth + 1, path, args =>
    match t.find true path with
    | .error problem => .error problem
    | .ok (_, .program name) => .ok (name, called :: args)
    | .ok (_, .file content executable) =>
      if !executable then .error .denied
      else match interpreterOf content with
        | none => .error .badFormat
        | some (interpreter, argument) =>
          imageOf t (charsOf interpreter) depth interpreter
            (argument.toList ++ charsOf path :: args)
    | .ok _ => .error .denied

/-- How often the interpreter of a script may be a script. -/
def interpreterDepth : Nat := 6

/-- Cuts characters at a separator; `part` holds the current part in reverse. -/
def cutAt (separator : Char) (part : Chars) : Chars → List Chars
  | [] => [part.reverse]
  | c :: rest =>
    if c = separator then part.reverse :: cutAt separator [] rest
    else cutAt separator (c :: part) rest

/-- The directories in which programs are looked for if nothing else is said. -/
def usualPath : Chars := "/usr/local/bin:/usr/bin:/bin".toList

/-- The paths under which a program is looked for. -/
def candidates (searchPath : Option Chars) (name : Chars) : List Chars :=
  if name.contains '/' then [name]
  else (cutAt ':' [] (searchPath.getD usualPath)).map fun d =>
    if d.isEmpty then name else if d.getLast? = some '/' then d ++ name else d ++ '/' :: name

/-- The first of some paths that can be run, or the most telling of the problems: the first one that
is not about a missing file, or else the last one. -/
def firstImage (t : FileTree) (called : Chars) (args : List Chars) (paths : List Chars) :
    Except FileProblem (String × List Chars) :=
  let images := paths.map fun path => imageOf t called interpreterDepth (textOf path) args
  let problems := images.filterMap fun
    | .ok _ => none
    | .error problem => some problem
  match images.findSome? Except.toOption with
  | some image => .ok image
  | none =>
    let telling := problems.find? fun p => p ≠ .notFound && p ≠ .notDirectory
    .error ((telling.or problems.getLast?).getD .notFound)

/-! ## Shells -/

/-- What the arguments of a shell ask for. -/
structure ShellRequest where
  /-- Whether the first operand is the script itself. -/
  inline : Bool := false
  /-- The letters of the options. -/
  letters : Chars := []
  /-- The operands. -/
  operands : List Chars := []

/-- What the arguments of a shell ask for. -/
def shellRequest (r : ShellRequest) : List Chars → ShellRequest
  | [] => r
  | ['-', '-'] :: rest => { r with operands := rest }
  | ('-' :: c :: letters) :: rest =>
    shellRequest
      { r with inline := r.inline || (c :: letters).contains 'c'
               letters := r.letters ++ c :: letters } rest
  | operands => { r with operands }

/-- Names the script and sets its parameters. -/
def setScript (name : Chars) (params : List Chars) (letters : Chars) : Act Unit :=
  modifyProcess fun p =>
    { p with name, params, endsOnFailure := letters.contains 'e'
             endsOnUnset := letters.contains 'u', shows := letters.contains 'x' }

/-- Runs a source text that a trap names; it leaves the status of the last command as it is. -/
def runTrap (run : Runner) (source : Chars) : Act Unit := do
  let status := (← process).status
  let _ ← runSource run { rest := source }
  modifyProcess fun p => { p with status }

/-- Runs what is to be run for the signals that have come. -/
def heedSignals (run : Runner) : Act Unit := do
  let p ← process
  modifyProcess fun p => { p with pending := [] }
  p.pending.forM fun signal => runTrap run ((p.trapFor? signal).getD [])

/-- Runs a script to its end, and then what is to be run there. -/
def runToEnd (run : Runner) (script : Act Nat) : Act Nat := do
  let status ← statusOfCopy (← attempt script)
  modifyProcess fun p => { p with status }
  match (← process).trapFor? 0 with
  | none => return status
  | some source =>
    modifyProcess fun p => { p with traps := p.traps.filter fun (signal, _) => signal ≠ 0 }
    runTrap run source
    return status

/-- Runs a shell, given its name and its arguments. -/
def runShell (run : Runner) (name : Chars) (args : List Chars) : Act Nat := runToEnd run do
  let r := shellRequest {} args
  setScript name [] r.letters
  if r.inline then
    match r.operands with
    | [] => giveUp 0 "-c requires an argument"
    | source :: rest =>
      setScript (rest.headD name) (rest.drop 1) r.letters
      runSource run { rest := source }
  else match r.operands with
    | [] => runSource run { rest := ← readAll 0 }
    | file :: params =>
      match (← tree).content (textOf file) with
      | .ok content =>
        setScript file params r.letters
        runSource run { rest := content.map fun b => Char.ofNat b.toNat }
      | .error .isDirectory => return 0
      | .error problem =>
        giveUp 0 ("cannot open " ++ textOf file ++ ": " ++ openProblem "No such file" problem)

/-- Runs a program that is at hand, given its name and all of its arguments, its own name first. -/
def runTool (run : Runner) (tool : String) (args : List Chars) : Act Nat := do
  if tool = "sh" then runShell run (args.headD "sh".toList) (args.drop 1)
  else match utility? (fun text => writeText 2 (text ++ "\n")) tool with
    | some utility => utility (args.drop 1)
    | none => return 126

/-- A process of its own for a program: it has the variables that programs get and ignores the
signals that the shell ignores, and it has nothing else of the shell. -/
def startProcess : Act Unit := modify fun w =>
  { w with
    count := w.count + 1
    process :=
      { number := w.process.number + w.count, name := "sh".toList
        vars := w.process.environment, descriptors := w.process.descriptors
        traps := w.process.traps.filter fun (_, source) => source.isEmpty } }

/-- The words for the signal that has ended a process. -/
def signalText (signal : Nat) : String :=
  ([(1, "Hangup"), (3, "Quit"), (4, "Illegal instruction"), (5, "Trace/breakpoint trap"),
    (6, "Aborted"), (7, "Bus error"), (8, "Floating point exception"), (9, "Killed"),
    (10, "User defined signal 1"), (11, "Segmentation fault"), (12, "User defined signal 2"),
    (14, "Alarm clock"), (15, "Terminated")].lookup signal).getD s!"Signal {signal}"

/-- Runs a program from a shell; `label` stands in front of complaints about it. -/
def runProgram (run : Runner) (line : Nat) (label : String) (name : Chars) (args : List Chars) :
    Act Nat := do
  let paths := candidates ((← process).valueOf? "PATH".toList) name
  let start (tool : String) (args : List Chars) : Act Nat := do
    let result ← inCopy do
      startProcess
      runTool run tool args
    match result with
    | .error (.killed signal) =>
      if signal ≠ 2 && signal ≠ 13 then writeText 2 (signalText signal ++ "\n")
      return 128 + signal
    | result => return (← statusOfCopy result) % 256
  match firstImage (← tree) name args paths with
  | .ok (tool, args) => start tool args
  | .error .badFormat =>
    let t ← tree
    let path := paths.find? fun path => (t.find true (textOf path)).toOption.isSome
    start "sh" ("sh".toList :: path.getD name :: args)
  | .error problem =>
    let missing := problem = .notFound || problem = .notDirectory
    complain line (label ++ textOf name ++ ": " ++ openProblem "not found" problem)
    return if missing then 127 else 126

/-! ## Commands of the shell itself -/

/-- The number that an argument spells, or a complaint that ends the script. -/
def builtinNumber (line : Nat) (name : String) (arg : Chars) : Act Nat :=
  match (String.ofList arg).toNat? with
  | some n =>
    if arg.all Char.isDigit && n < Nat.pow 2 31 then return n
    else giveUp line (name ++ ": Illegal number: " ++ textOf arg)
  | none => giveUp line (name ++ ": Illegal number: " ++ textOf arg)

/-- The number that the first argument spells, if there is one. -/
def numberOr (default : Nat) (line : Nat) (name : String) (args : List Chars) : Act Nat :=
  match args with
  | [] => return default
  | arg :: _ => builtinNumber line name arg

/-- Drops parameters. -/
def shiftParams (line : Nat) (args : List Chars) : Act Nat := do
  let n ← numberOr 1 line "shift" args
  if (← process).params.length < n then giveUp line "shift: can't shift that many"
  else
    modifyProcess fun p => { p with params := p.params.drop n }
    return 0

/-- Sets options and parameters. -/
def setOptions : List Chars → Act Nat
  | [] => return 0
  | ['-', '-'] :: params => do
    modifyProcess fun p => { p with params }
    return 0
  | (sign :: c :: letters) :: rest => do
    if sign = '-' || sign = '+' then
      let on := sign = '-'
      let letters := c :: letters
      modifyProcess fun p =>
        { p with endsOnFailure := if letters.contains 'e' then on else p.endsOnFailure
                 endsOnUnset := if letters.contains 'u' then on else p.endsOnUnset
                 shows := if letters.contains 'x' then on else p.shows }
      setOptions rest
    else
      modifyProcess fun p => { p with params := (sign :: c :: letters) :: rest }
      return 0
  | params => do
    modifyProcess fun p => { p with params }
    return 0

/-- Sets variables and lets programs get them. -/
def exportNames (args : List Chars) : Act Nat := do
  args.forM fun arg =>
    match assignment? arg with
    | some (name, value) => modifyProcess fun p => (p.assign name value).exportName name
    | none => if arg.head? = some '-' then pure () else modifyProcess (·.exportName arg)
  return 0

/-- Sets variables. -/
def assignNames (args : List Chars) : Act Nat := do
  args.forM fun arg =>
    match assignment? arg with
    | some (name, value) => modifyProcess (·.assign name value)
    | none => pure ()
  return 0

/-- Takes variables or functions away. -/
def unsetNames (args : List Chars) : Act Nat := do
  args.forM fun arg =>
    modifyProcess fun p =>
      let functions := if args.contains ['-', 'f'] then
          p.functions.filter fun (k, _) => k ≠ arg
        else p.functions
      { p.unset arg with functions }
  return 0

/-- Changes the working directory. -/
def changePlace (line : Nat) (args : List Chars) : Act Nat := do
  let target := args.headD ((← process).valueOf? "HOME".toList |>.getD [])
  let t ← tree
  match t.find true (textOf target) with
  | .ok (place, .directory) =>
    setTree { t with workingPlace := place }
    modifyProcess (·.assign "PWD".toList (charsOf ("/" ++ String.intercalate "/" place)))
    return 0
  | _ =>
    complain line ("cd: can't cd to " ++ textOf target)
    return 2

/-- Runs a file in the shell itself. -/
def runFile (run : Runner) (line : Nat) (args : List Chars) : Act Nat := do
  let name := textOf (args.headD [])
  match (← tree).content name with
  | .ok content => runSource run { rest := content.map fun b => Char.ofNat b.toNat }
  | .error problem =>
    if name.contains '/' then
      giveUp line (".: cannot open " ++ name ++ ": " ++ openProblem "No such file" problem)
    else giveUp line (".: " ++ name ++ ": not found")

/-- Says what is run on signals; nothing at all takes back what was said before. The first word that
names no signal ends it. -/
def setTraps (source : Option Chars) : List Chars → Act Nat
  | [] => return 0
  | text :: rest => do
    match signalOf? text with
    | none =>
      write 2 (charsOf "trap: " ++ text ++ charsOf ": bad trap\n")
      return 1
    | some signal =>
      modifyProcess fun p =>
        let others := p.traps.filter fun (k, _) => k ≠ signal
        if isRelentless signal then p
        else { p with traps := (source.map (signal, ·)).toList ++ others }
      setTraps source rest

/-- Says what is run on signals, or takes it back. -/
def trap (args : List Chars) : Act Nat :=
  match if args.head? = some ['-', '-'] then args.drop 1 else args with
  | [] => return 0
  | [signal] => setTraps none [signal]
  | source :: signals =>
    if source = ['-'] then setTraps none signals
    else if source.all Char.isDigit && !source.isEmpty then setTraps none (source :: signals)
    else setTraps (some source) signals

/-- Ends loops: as many as there are, if more are asked for. -/
def leaveLoops (line : Nat) (name : String) (args : List Chars) (escape : Nat → Escape) :
    Act Nat := do
  let n ← numberOr 1 line name args
  let n := min n (← process).loops
  if n = 0 then return 0 else throw (escape n)

/-- The command of the shell itself with this name, given its arguments. -/
def builtin? (run : Runner) (line : Nat) (name : String) (args : List Chars) : Option (Act Nat) :=
  match name with
  | ":" => some (return 0)
  | "exit" => some do throw (.exit ((← numberOr (← process).status line "exit" args) % 256))
  | "return" => some do throw (.back (← numberOr (← process).status line "return" args))
  | "break" => some (leaveLoops line "break" args .leave)
  | "continue" => some (leaveLoops line "continue" args .again)
  | "shift" => some (shiftParams line args)
  | "set" => some (setOptions args)
  | "export" => some (exportNames args)
  | "readonly" => some (assignNames args)
  | "local" => some (assignNames args)
  | "unset" => some (unsetNames args)
  | "cd" => some (changePlace line args)
  | "." => some (runFile run line args)
  | "eval" => some (runSource run ⟨List.intercalate [' '] args, line⟩)
  | "read" => some (readLineInto args)
  | "trap" => some (trap args)
  | "umask" => some (return 0)
  | "wait" => some (return 0)
  | "command" =>
    some (runProgram run line "" (args.headD []) (args.drop 1))
  | name =>
    if builtinNames.contains name then
      (utility? (complain line) name).map fun utility => utility args
    else none

/-- The commands of the shell that end the script if they cannot be run, and that keep the
assignments in front of them. -/
def specialNames : List String :=
  [":", ".", "break", "continue", "eval", "exec", "exit", "export", "readonly", "return", "set",
    "shift", "trap", "unset"]

/-- Runs a function with parameters. -/
def runFunction (run : Runner) (body : Script) (params : List Chars) : Act Nat := do
  let before ← process
  modifyProcess fun p => { p with params, loops := 0 }
  let result ← attempt (run body)
  modifyProcess fun p => { p with params := before.params, loops := before.loops }
  match result with
  | .ok status => return status
  | .error (.back status) => return status
  | .error e => throw e

/-- Runs a program in place of the shell. -/
def runInstead (run : Runner) (line : Nat) (args : List Chars) : Act Nat :=
  match args with
  | [] => return 0
  | name :: args => do
    modifyProcess fun p => { p with traps := p.traps.filter fun (signal, _) => signal ≠ 0 }
    throw (.exit (← runProgram run line "exec: " name args))

/-! ## Simple commands -/

/-- Runs something with assignments that end with it and that programs get. -/
def withAssignments (assignments : List (Chars × Chars)) (body : Act Nat) : Act Nat := do
  if assignments.isEmpty then body
  else
    let before := (← process).vars
    assignments.forM fun (name, value) =>
      modifyProcess fun p => (p.assign name value).exportName name
    let result ← attempt body
    modifyProcess fun p => { p with vars := before }
    match result with
    | .ok status => return status
    | .error e => throw e

/-- Runs a command by its name, with assignments in front of it. -/
def runNamed (run : Runner) (line : Nat) (assignments : List (Chars × Chars)) (name : Chars)
    (args : List Chars) : Act Nat := do
  let assign : Act Unit := assignments.forM fun (name, value) =>
    modifyProcess (·.assign name value)
  if specialNames.contains (textOf name) then
    assign
    (builtin? run line (textOf name) args).getD (runInstead run line args)
  else match (← process).functions.lookup name with
    | some body => withAssignments assignments (runFunction run body args)
    | none =>
      match builtin? run line (textOf name) args with
      | some command => withAssignments assignments command
      | none => withAssignments assignments (runProgram run line "" name args)

/-- Shows a command before it is run, if commands are shown. -/
def showCommand (assignments : List (Chars × Chars)) (fields : List Chars) : Act Unit := do
  if (← process).shows then
    let parts := assignments.map (fun (name, value) => name ++ '=' :: value) ++ fields
    write 2 ('+' :: ' ' :: List.intercalate [' '] parts ++ ['\n'])

/-- Runs a simple command. -/
def runSimple (run : Runner) (line : Nat) (assignments : List (Chars × Word)) (words : List Word)
    (redirections : List Redirection) : Act Nat := do
  let x := expander run line
  modifyProcess fun p => { p with captured := none }
  let fields ← expandWords x words
  match fields with
  | [] =>
    withRedirections x redirections do
      let values ← assignments.mapM fun (name, word) => do
        let value ← expandPlain x word
        modifyProcess (·.assign name value)
        return (name, value)
      if !values.isEmpty then showCommand values []
      return (← process).captured.getD 0
  | name :: args =>
    let special := specialNames.contains (textOf name)
    if name = "exec".toList then
      match ← applyRedirections x redirections with
      | some text => giveUp line text
      | none => runInstead run line args
    else
      let status ← withRedirections x redirections do
        let values ← assignments.mapM fun (key, word) => return (key, ← expandPlain x word)
        showCommand values fields
        runNamed run line values name args
      if special && status = 2 && !redirections.isEmpty then throw (.exit 2) else return status

/-! ## Loops -/

/-- Runs the body of a loop: its status, or that the loop ends. -/
def runRound (body : Act Nat) : Act (Option Nat) := do
  modifyProcess fun p => { p with loops := p.loops + 1 }
  let result ← attempt body
  modifyProcess fun p => { p with loops := p.loops - 1 }
  match result with
  | .ok status => return some status
  | .error (.leave (n + 2)) => throw (.leave (n + 1))
  | .error (.leave _) => return none
  | .error (.again (n + 2)) => throw (.again (n + 1))
  | .error (.again _) => return some 0
  | .error e => throw e

/-- Runs a loop as long as its condition is as wanted, at most `fuel` times. -/
def runLoop (run : Runner) (wanted : Bool) (condition body : Script) : Nat → Nat → Act Nat
  | 0, _ => throw .exhausted
  | fuel + 1, last => do
    match ← runRound (asTest (run condition)) with
    | none => return 0
    | some status =>
      if (status == 0) == wanted then
        match ← runRound (run body) with
        | none => return 0
        | some status => runLoop run wanted condition body fuel status
      else return last

/-- Runs a loop over words. -/
def runEach (run : Runner) (name : Chars) (body : Script) : List Chars → Nat → Act Nat
  | [], last => return last
  | value :: rest, _ => do
    modifyProcess (·.assign name value)
    match ← runRound (run body) with
    | none => return 0
    | some status => runEach run name body rest status

/-- The first branch with a pattern that a text fits. -/
def chooseBranch (x : Expander) (cs : Chars) : List (List Word × Script) → Act Script
  | [] => return .nothing
  | (patterns, body) :: rest => do
    if ← patterns.anyM fun word => return fitsGlob (← expandPattern x word) cs then return body
    else chooseBranch x cs rest

/-! ## Commands -/

/-- Runs something in a copy of the shell. -/
def runCopy (x : Act Nat) : Act Nat := do statusOfCopy (← inCopy x)

/-- Runs two commands, the second of which reads the output of the first. -/
def runPipe (first second : Act Nat) : Act Nat := do
  let output ← openChannel (.output [])
  let _ ← runCopy do
    redirect 1 (some output)
    first
  let input ← openChannel (.input (← writtenTo output))
  runCopy do
    redirect 0 (some input)
    second

/-- Runs a command in at most `fuel` nested steps. -/
def execute : Nat → Script → Act Nat
  | 0, _ => throw .exhausted
  | fuel + 1, script => do
    let run := execute fuel
    let status ← match script with
      | .nothing => pure 0
      | .simple line assignments words redirections => do
        let status ← runSimple run line assignments words redirections
        heedSignals run
        heed status
      | .pipe first second => do heed (← runPipe (run first) (run second))
      | .negated body => do
        let status ← asTest (run body)
        pure (if status = 0 then 1 else 0)
      | .both first second => do
        let status ← asTest (run first)
        if status = 0 then run second else pure status
      | .either first second => do
        let status ← asTest (run first)
        if status = 0 then pure status else run second
      | .sequence first second => do
        let _ ← run first
        run second
      | .choice condition whenTrue whenFalse => do
        if (← asTest (run condition)) = 0 then run whenTrue else run whenFalse
      | .loop wanted condition body => runLoop run wanted condition body fuel 0
      | .each name words body => do
        let values ← match words with
          | some words => expandWords (expander run 0) words
          | none => do pure (← process).params
        runEach run name body values 0
      | .branches word cases => do
        let x := expander run 0
        run (← chooseBranch x (← expandPlain x word) cases)
      | .copied body => do heed (← runCopy (run body))
      | .define name body => do
        modifyProcess fun p => { p with functions := putUnder name body p.functions }
        pure 0
      | .redirected line body redirections =>
        withRedirections (expander run line) redirections (run body)
    setStatus status

/-- How many nested steps a script may take. -/
def stepLimit : Nat := 100000

end CompilerTest.Shell

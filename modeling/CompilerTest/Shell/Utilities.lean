import CompilerTest.Shell.Expansion
import CompilerTest.Shell.Format

/-!
# Utilities

The commands that are at hand: those that write texts, decide conditions, read lines, copy files,
change what may be run, and end processes. Each is given its arguments and has a status, which is
zero if it succeeds.
-/

namespace CompilerTest.Shell

/-- A utility: its status, given its arguments. -/
abbrev Utility := List Chars → Act Nat

/-- Writes a complaint of a utility. -/
def warn (name text : String) : Act Unit := writeText 2 s!"{name}: {text}\n"

/-- Writes a complaint about the arguments of a utility. -/
def warnUsage (name text : String) : Act Unit := do
  warn name text
  writeText 2 s!"Try '{name} --help' for more information.\n"

/-- What is wrong with a file, in words. -/
def problemOf (problem : FileProblem) : String := problem.description

/-! ## Writing and reading -/

/-- Writes its arguments. -/
def echo : Utility := fun args => do
  write 1 (echoed args)
  return 0

/-- Fills in a format. -/
def printf (complaint : String → Act Unit) : Utility := fun args => do
  let complain (text : String) : Act Unit := complaint ("printf: " ++ text)
  match if args.head? = some ['-', '-'] then args.drop 1 else args with
  | [] =>
    complain "usage: printf format [arg ...]"
    return 2
  | format :: rest =>
    match args with
    | ('-' :: c :: _) :: _ =>
      if c ≠ '-' then
        complain s!"Illegal option -{c}"
        return 2
    | _ => pure ()
    let filled := formatted format rest
    write 1 filled.text
    filled.complaints.forM complain
    match filled.refused with
    | some text =>
      complain text
      return 2
    | none => return if filled.complaints.isEmpty then 0 else 1

/-- Writes the content of files, or what it reads. -/
def cat : Utility := fun args => do
  let names := args.filter fun arg => arg.head? ≠ some '-' || arg = ['-']
  let names := if names.isEmpty then [['-']] else names
  let statuses ← names.mapM fun name => do
    if name = ['-'] then
      write 1 (← readAll 0)
      return 0
    else match (← tree).content (textOf name) with
      | .ok content =>
        write 1 (content.map fun b => Char.ofNat b.toNat)
        return 0
      | .error problem =>
        warn "cat" (textOf name ++ ": " ++ problemOf problem)
        return 1
  return statuses.foldl max 0

/-- Drops separators that are blanks. -/
def dropBlankSeparators (separators : Chars) (cs : List Marked) : List Marked :=
  cs.dropWhile fun (c, q) => !q && separators.contains c && (isBlank c || c == '\n')

/-- The fields of a line for `count` variables; the last one gets all that is left. -/
def lineFields (separators : Chars) : Nat → List Marked → List Chars
  | 0, _ => []
  | 1, cs =>
    [((dropBlankSeparators separators cs.reverse).reverse).map Prod.fst]
  | count + 2, cs =>
    let field := cs.takeWhile fun (c, q) => q || !separators.contains c
    let rest := dropBlankSeparators separators (cs.drop field.length)
    let rest := match rest with
      | (c, false) :: tail =>
        if separators.contains c then dropBlankSeparators separators tail else rest
      | rest => rest
    field.map Prod.fst :: lineFields separators (count + 1) rest

/-- The characters of a line whose backslashes protect what follows them. -/
def protectedLine : Chars → List Marked
  | [] => []
  | '\\' :: c :: rest => (c, true) :: protectedLine rest
  | ['\\'] => []
  | c :: rest => (c, false) :: protectedLine rest

/-- A line that backslashes at its end continue, with whether it was ended. -/
def takeLines : Nat → Act (Chars × Bool)
  | 0 => takeLine 0
  | fuel + 1 => do
    let (line, ended) ← takeLine 0
    if ended && line.getLast? = some '\\' then
      let (more, ended) ← takeLines fuel
      return (line.dropLast ++ more, ended)
    else return (line, ended)

/-- Reads a line into variables. -/
def readLineInto : Utility := fun args => do
  let raw := args.contains ['-', 'r']
  let names := args.filter (· ≠ ['-', 'r'])
  let (line, ended) ← if raw then takeLine 0 else takeLines 1000
  let marked := if raw then line.map (·, false) else protectedLine line
  let seps := separators (← process)
  let fields := lineFields seps names.length (dropBlankSeparators seps marked)
  (names.zip fields).forM fun (name, field) => modifyProcess (·.assign name field)
  return if ended then 0 else 1

/-! ## Conditions -/

/-- Decides a condition. -/
def test (complaint : String → Act Unit) (name : String) : Utility := fun args => do
  match decideTest (← tree) args with
  | .ok holds => return if holds then 0 else 1
  | .error e =>
    complaint (name ++ ": " ++ e.message)
    return 2

/-- Decides a condition between brackets. -/
def bracket (complaint : String → Act Unit) : Utility := fun args => do
  if args.getLast? = some [']'] then test complaint "[" args.dropLast
  else
    complaint "[: missing ]"
    return 2

/-! ## Files -/

/-- Writes the working directory. -/
def showPlace : Utility := fun _ => do
  writeText 1 ("/" ++ String.intercalate "/" (← tree).workingPlace ++ "\n")
  return 0

/-- The file that a copy is written to: in a directory it has the name of what is copied. -/
def copyTarget (t : FileTree) (source target : Chars) : String :=
  let target := textOf target
  if t.isDirectory target then
    (Path.join (.ofText target) (.ofText (Path.ofText (textOf source)).name)).text
  else target

/-- Copies a file to a place. A file that is there keeps the right to be run that it has. -/
def copyTo (content : Bytes) (executable : Bool) (target : String) : Act (Option FileProblem) := do
  let t ← tree
  match t.locate true target with
  | .error problem => return some problem
  | .ok place =>
    match t.at? place with
    | some (.file _ kept) =>
      setTree (t.put place (.file content kept))
      return none
    | some .directory => return some .isDirectory
    | some (.program _) => return some .denied
    | _ =>
      setTree (t.put place (.file content executable))
      return none

/-- Copies a file. -/
def copyFile (source target : Chars) : Act Nat := do
  let t ← tree
  let name := textOf source
  match t.find true name with
  | .error problem =>
    warn "cp" ("cannot stat '" ++ name ++ "': " ++ problemOf problem)
    return 1
  | .ok (place, .file content executable) =>
    let target := copyTarget t source target
    if (t.locate true target).toOption = some place then
      warn "cp" ("'" ++ name ++ "' and '" ++ target ++ "' are the same file")
      return 1
    else match ← copyTo content executable target with
      | none => return 0
      | some problem =>
        warn "cp" ("cannot create regular file '" ++ target ++ "': " ++ problemOf problem)
        return 1
  | .ok _ =>
    warn "cp" ("-r not specified; omitting directory '" ++ name ++ "'")
    return 1

/-- Copies files. -/
def copyFiles : Utility := fun args => do
  let names := args.filter fun arg => arg.head? ≠ some '-'
  match names.reverse with
  | [] =>
    warnUsage "cp" "missing file operand"
    return 1
  | [name] =>
    warnUsage "cp" ("missing destination file operand after '" ++ textOf name ++ "'")
    return 1
  | target :: sources =>
    if 1 < sources.length && !(← tree).isDirectory (textOf target) then
      warn "cp" ("target '" ++ textOf target ++ "' is not a directory")
      return 1
    else
      let statuses ← sources.reverse.mapM fun source => copyFile source target
      return statuses.foldl max 0

/-- Whether a file may be run after its mode has been changed, given whether it may be now; nothing
if the text is no mode. -/
def changedMode (mode : Chars) (executable : Bool) : Option Bool :=
  if !mode.isEmpty && mode.all isOctal then
    some (mode.any fun c => (c.toNat - '0'.toNat) % 2 = 1)
  else
    let change := mode.dropWhile ("ugoa".toList.contains ·)
    let names := (change.drop 1).contains 'x'
    match change.head? with
    | some '+' => some (executable || names)
    | some '-' => some (executable && !names)
    | some '=' => some names
    | _ => none

/-- Changes whether files may be run. -/
def changeModes : Utility := fun args => do
  match args with
  | [] =>
    warnUsage "chmod" "missing operand"
    return 1
  | [mode] =>
    warnUsage "chmod" ("missing operand after '" ++ textOf mode ++ "'")
    return 1
  | mode :: names =>
    let statuses ← names.mapM fun name => do
      let t ← tree
      match t.find true (textOf name) with
      | .error problem =>
        warn "chmod" ("cannot access '" ++ textOf name ++ "': " ++ problemOf problem)
        return 1
      | .ok (place, .file content executable) =>
        match changedMode mode executable with
        | some executable =>
          setTree (t.put place (.file content executable))
          return 0
        | none =>
          warnUsage "chmod" ("invalid mode: '" ++ textOf mode ++ "'")
          return 1
      | .ok _ => return 0
    return statuses.foldl max 0

/-! ## Signals -/

/-- The names of signals with their numbers. -/
def signalNames : List (String × Nat) :=
  [("HUP", 1), ("INT", 2), ("QUIT", 3), ("ILL", 4), ("TRAP", 5), ("ABRT", 6), ("BUS", 7),
    ("FPE", 8), ("KILL", 9), ("USR1", 10), ("SEGV", 11), ("USR2", 12), ("PIPE", 13),
    ("ALRM", 14), ("TERM", 15), ("STKFLT", 16), ("CHLD", 17), ("CONT", 18), ("STOP", 19),
    ("TSTP", 20), ("TTIN", 21), ("TTOU", 22), ("URG", 23), ("XCPU", 24), ("XFSZ", 25),
    ("VTALRM", 26), ("PROF", 27), ("WINCH", 28), ("POLL", 29), ("PWR", 30), ("SYS", 31)]

/-- The number of a signal, by its name or its number. -/
def signalOf? (text : Chars) : Option Nat :=
  let name := String.ofList (text.map Char.toUpper)
  if !text.isEmpty && text.all Char.isDigit then name.toNat?.filter (· < 65)
  else if name = "EXIT" then some 0
  else signalNames.lookup name

/-- The name of a signal. -/
def signalName? (signal : Nat) : Option String :=
  (signalNames.find? (·.2 = signal)).map Prod.fst

/-- Whether a signal does not end a process. -/
def isHarmless (signal : Nat) : Bool := [0, 17, 18, 19, 20, 21, 22, 23, 28].contains signal

/-- Whether nothing can be run on a signal. -/
def isRelentless (signal : Nat) : Bool := signal = 9 || signal = 19

/-- What the arguments of the kill command ask for. -/
inductive KillRequest where
  /-- A signal for processes. -/
  | send (signal : Nat) (targets : List Chars)
  /-- The name of a signal, by its number or the exit status after it. -/
  | list (number : Option Chars)
  /-- Something that cannot be done. -/
  | bad (text : String)
  deriving Repr

/-- The words for how the kill command is used. -/
def killUsage : String :=
  "Usage: kill [-s sigspec | -signum | -sigspec] [pid | job]... or\nkill -l [exitstatus]"

/-- A signal for processes, of which there has to be one. -/
def sendTo (signal : Nat) (targets : List Chars) : KillRequest :=
  if targets.isEmpty then .bad killUsage else .send signal targets

/-- What the arguments of the kill command ask for. -/
def killRequest : List Chars → KillRequest
  | ['-', 's'] :: signal :: targets =>
    match signalOf? signal with
    | some signal => sendTo signal targets
    | none => .bad ("invalid signal number or name: " ++ textOf signal)
  | ['-', 'l'] :: numbers => .list numbers.head?
  | ['-', '-'] :: targets => sendTo 15 targets
  | ('-' :: c :: signal) :: targets =>
    match signalOf? (c :: signal) with
    | some signal => sendTo signal targets
    | none => .bad s!"Illegal option -{c}"
  | targets => sendTo 15 targets

/-- Sends a signal to the process itself. -/
def receive (signal : Nat) : Act Unit := do
  match (← process).trapFor? signal with
  | some [] => return
  | some _ => modifyProcess fun p => { p with pending := p.pending ++ [signal] }
  | none => if isHarmless signal then return else throw (.killed signal)

/-- Sends a signal to a process. Only the process itself can be reached. -/
def sendSignal (complaint : String → Act Unit) (signal : Nat) (target : Chars) : Act Nat := do
  if target = digitsOf (← process).number || target = ['0'] then
    receive signal
    return 0
  else if target.all Char.isDigit then
    complaint "kill: No such process\n"
    return 1
  else
    complaint ("kill: Illegal number: " ++ textOf target)
    return 2

/-- Names a signal. -/
def listSignal (complaint : String → Act Unit) (number : Option Chars) : Act Nat := do
  match number with
  | none =>
    write 1 (charsOf (String.intercalate "\n" ("0" :: signalNames.map Prod.fst) ++ "\n"))
    return 0
  | some text =>
    match (String.ofList text).toNat? with
    | none =>
      complaint ("kill: Illegal number: " ++ textOf text)
      return 2
    | some n =>
      match signalName? (if n > 128 then n - 128 else n) with
      | some name =>
        writeText 1 (name ++ "\n")
        return 0
      | none =>
        complaint ("kill: invalid signal number or exit status: " ++ textOf text)
        return 2

/-- Sends signals, or names them. -/
def kill (complaint : String → Act Unit) : Utility := fun args => do
  match killRequest args with
  | .bad text =>
    complaint ("kill: " ++ text)
    return 2
  | .list number => listSignal complaint number
  | .send signal targets =>
    let statuses ← targets.mapM (sendSignal complaint signal)
    return statuses.foldl max 0

/-- The utility of a name, given how it complains. -/
def utility? (complaint : String → Act Unit) (name : String) : Option Utility :=
  [("echo", echo), ("printf", printf complaint), ("cat", cat), ("cp", copyFiles),
    ("chmod", changeModes), ("pwd", showPlace), ("test", test complaint "test"),
    ("[", bracket complaint), ("kill", kill complaint), ("true", fun _ => return 0),
    ("false", fun _ => return 1)].lookup name

/-- The utilities that a shell does not look for among programs. -/
def builtinNames : List String :=
  ["echo", "printf", "pwd", "test", "[", "kill", "true", "false"]

end CompilerTest.Shell

import CompilerTest.Shell.Glob

/-!
# The state of a script

What a running script can see and change: files, the data that descriptors stand for, and its own
variables, parameters and functions. A copy of the shell shares the files and the data with the
shell that it was copied from, but nothing else.

A command has a status. It can also end more than itself: a loop, a function, the script, or, by a
signal, the process.
-/

namespace CompilerTest.Shell

/-- What a descriptor stands for. -/
inductive Channel where
  /-- Data to read. -/
  | input (rest : Chars)
  /-- Data that was written, in reverse. -/
  | output (written : Chars)
  /-- A file, to which data is added at the end. -/
  | file (place : Place)
  /-- Nothing: it gives no data and takes all. -/
  | nothing
  deriving Repr, Inhabited

/-- A variable. -/
structure Variable where
  /-- Its value, if it has one. -/
  value : Option Chars
  /-- Whether programs get it in their environment. -/
  exported : Bool := false
  deriving Repr, Inhabited

/-- What a shell has to itself. -/
structure Process where
  /-- The number of the process. -/
  number : Nat
  /-- What the script is called. -/
  name : Chars
  /-- The parameters. -/
  params : List Chars := []
  /-- The variables. -/
  vars : List (Chars × Variable) := []
  /-- The functions. -/
  functions : List (Chars × Script) := []
  /-- The channels of the descriptors. -/
  descriptors : List (Nat × Nat) := [(0, 0), (1, 1), (2, 2)]
  /-- The status of the last command. -/
  status : Nat := 0
  /-- The status of the commands whose output was inserted last into the current command. -/
  captured : Option Nat := none
  /-- Whether the script ends when a command fails. -/
  endsOnFailure : Bool := false
  /-- Whether the script ends when a variable without a value is expanded. -/
  endsOnUnset : Bool := false
  /-- Whether failure is expected, since it decides how the script goes on. -/
  tested : Bool := false
  /-- Whether commands are shown before they are run. -/
  shows : Bool := false
  /-- How many loops there are around the current command. -/
  loops : Nat := 0
  /-- What is run on a signal, or at the end of the script for the number zero; nothing is run for
  an empty source text. -/
  traps : List (Nat × Chars) := []
  /-- The signals that have come and for which something is still to be run. -/
  pending : List Nat := []
  deriving Inhabited

/-- What the commands of a script can see and change. -/
structure World where
  /-- The files. -/
  tree : FileTree
  /-- What descriptors stand for. -/
  channels : Array Channel
  /-- The shell. -/
  process : Process
  /-- How many processes there have been. -/
  count : Nat := 1

/-- How a command ends more than itself. -/
inductive Escape where
  /-- It ends the script. -/
  | exit (status : Nat)
  /-- It ends the process by a signal. -/
  | killed (signal : Nat)
  /-- It ends some of the loops around it. -/
  | leave (levels : Nat)
  /-- It ends some of the loops around it, except that the last one goes on. -/
  | again (levels : Nat)
  /-- It ends the function around it. -/
  | back (status : Nat)
  /-- It has run for too long. -/
  | exhausted
  deriving DecidableEq, Repr

/-- Running a part of a script. -/
abbrev Act := ExceptT Escape (StateM World)

/-- What an action gives, or how it ends more than itself. -/
def attempt {α : Type} (x : Act α) : Act (Except Escape α) := fun w =>
  let (result, w) := x w
  (.ok result, w)

/-! ## The shell -/

/-- The shell. -/
def process : Act Process := return (← get).process

/-- Changes the shell. -/
def modifyProcess (f : Process → Process) : Act Unit :=
  modify fun w => { w with process := f w.process }

/-- The files. -/
def tree : Act FileTree := return (← get).tree

/-- Replaces the files. -/
def setTree (t : FileTree) : Act Unit := modify fun w => { w with tree := t }

/-- Runs something and gives the shell back what it had to itself before. A signal that came for the
shell in the meantime is kept. -/
def inCopy {α : Type} (x : Act α) : Act (Except Escape α) := do
  let before ← process
  let place := (← tree).workingPlace
  let result ← attempt x
  let after ← process
  let pending := if after.number = before.number then after.pending else before.pending
  modify fun w =>
    { w with process := { before with pending }
             tree := { w.tree with workingPlace := place } }
  return result

/-- The status that the end of a copy of the shell leaves behind; a signal that ends the process
ends the shell too. -/
def statusOfCopy : Except Escape Nat → Act Nat
  | .ok status => return status
  | .error (.exit status) => return status
  | .error (.back status) => return status
  | .error (.leave _) => return 0
  | .error (.again _) => return 0
  | .error e => throw e

/-! ## Variables -/

/-- Puts a value under a name, which keeps its position if it is there. -/
def putUnder {α : Type} (name : Chars) (value : α) : List (Chars × α) → List (Chars × α)
  | [] => [(name, value)]
  | (k, v) :: rest => if k = name then (k, value) :: rest else (k, v) :: putUnder name value rest

/-- The value of a variable. -/
def Process.valueOf? (p : Process) (name : Chars) : Option Chars :=
  (p.vars.lookup name).bind (·.value)

/-- What is run on a signal, if anything was said about it. -/
def Process.trapFor? (p : Process) (signal : Nat) : Option Chars := p.traps.lookup signal

/-- The shell with a variable set. -/
def Process.assign (p : Process) (name value : Chars) : Process :=
  let exported := ((p.vars.lookup name).map (·.exported)).getD false
  { p with vars := putUnder name ⟨some value, exported⟩ p.vars }

/-- The shell with a variable that programs get. -/
def Process.exportName (p : Process) (name : Chars) : Process :=
  let value := (p.vars.lookup name).bind (·.value)
  { p with vars := putUnder name ⟨value, true⟩ p.vars }

/-- The shell without a variable. -/
def Process.unset (p : Process) (name : Chars) : Process :=
  { p with vars := p.vars.filter fun (k, _) => k ≠ name }

/-- The variables that programs get. -/
def Process.environment (p : Process) : List (Chars × Variable) :=
  p.vars.filter fun (_, v) => v.exported && v.value.isSome

/-! ## Descriptors -/

/-- The number of the channel of a descriptor. -/
def channelOf? (descriptor : Nat) : Act (Option Nat) :=
  return (← process).descriptors.lookup descriptor

/-- Opens a channel. -/
def openChannel (channel : Channel) : Act Nat := do
  let n := (← get).channels.size
  modify fun w => { w with channels := w.channels.push channel }
  return n

/-- Replaces what a channel holds. -/
def setChannel (n : Nat) (channel : Channel) : Act Unit :=
  modify fun w => { w with channels := w.channels.setIfInBounds n channel }

/-- What a descriptor stands for. -/
def channel? (descriptor : Nat) : Act (Option (Nat × Channel)) := do
  match ← channelOf? descriptor with
  | none => return none
  | some n =>
    let channels := (← get).channels
    return channels[n]?.map (n, ·)

/-- Lets a descriptor stand for a channel, or for nothing at all. -/
def redirect (descriptor : Nat) (channel : Option Nat) : Act Unit :=
  modifyProcess fun p =>
    let others := p.descriptors.filter fun (d, _) => d ≠ descriptor
    { p with descriptors := (channel.map fun n => [(descriptor, n)]).getD [] ++ others }

/-- Writes to a descriptor. -/
def write (descriptor : Nat) (cs : Chars) : Act Unit := do
  match ← channel? descriptor with
  | some (n, .output written) => setChannel n (.output (cs.reverse ++ written))
  | some (_, .file place) =>
    match (← tree).at? place with
    | some (.file content executable) =>
      setTree ((← tree).put place (.file (content ++ bytesOf cs) executable))
    | _ => return
  | _ => return

/-- Writes a text to a descriptor. -/
def writeText (descriptor : Nat) (text : String) : Act Unit := write descriptor (charsOf text)

/-- Reads all data of a descriptor. -/
def readAll (descriptor : Nat) : Act Chars := do
  match ← channel? descriptor with
  | some (n, .input rest) =>
    setChannel n (.input [])
    return rest
  | _ => return []

/-- Reads a line of a descriptor, with whether it was ended. -/
def takeLine (descriptor : Nat) : Act (Chars × Bool) := do
  match ← channel? descriptor with
  | some (n, .input rest) =>
    let line := rest.takeWhile (· ≠ '\n')
    setChannel n (.input (rest.drop (line.length + 1)))
    return (line, line.length < rest.length)
  | _ => return ([], false)

/-! ## Complaints -/

/-- Writes a complaint of the script about a line. -/
def complain (line : Nat) (text : String) : Act Unit := do
  write 2 ((← process).name ++ charsOf s!": {line}: {text}\n")

/-- Ends the script with a complaint. -/
def giveUp {α : Type} (line : Nat) (text : String) : Act α := do
  complain line text
  throw (.exit 2)

end CompilerTest.Shell

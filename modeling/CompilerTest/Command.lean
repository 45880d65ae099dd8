import CompilerTest.Path

/-!
# Commands

The invocation of a program: its arguments, what is added to its environment, and where its input
comes from. A command is shown as one line, with quotes around the arguments that need them.
-/

namespace CompilerTest

/-- The invocation of a program. -/
structure Command where
  /-- The program. -/
  program : String
  /-- Its arguments. -/
  args : List String := []
  /-- The variables that are added to its environment, in the order in which they were first set. -/
  env : List (String × String) := []
  /-- The directory in which it runs, if it is not the working directory. -/
  directory : Option Path := none
  /-- The file that it reads as its input, if there is one. -/
  stdin : Option Path := none
  deriving DecidableEq, Repr, Inhabited

namespace Command

/-- The command with one more argument. -/
def arg (c : Command) (value : String) : Command := { c with args := c.args ++ [value] }

/-- The command with more arguments. -/
def extend (c : Command) (values : List String) : Command := { c with args := c.args ++ values }

/-- Sets a variable: one that is there keeps its position. -/
def setVariable (name value : String) : List (String × String) → List (String × String)
  | [] => [(name, value)]
  | (k, v) :: rest =>
    if k = name then (k, value) :: rest else (k, v) :: setVariable name value rest

/-- Variables with further ones set on top of them, in order. -/
def setVariables (env values : List (String × String)) : List (String × String) :=
  values.foldl (fun acc (k, v) => setVariable k v acc) env

/-- The command with further variables. -/
def envs (c : Command) (values : List (String × String)) : Command :=
  { c with env := setVariables c.env values }

/-- The program and its arguments. -/
def tokens (c : Command) : List String := c.program :: c.args

/-! ## The line of a command -/

/-- The characters of an argument inside a line. `slashes` is the number of backslashes just before:
in front of a quote each of them is doubled and the quote gets another, and at the end, if the
argument is in quotes, each of them is doubled too. -/
def shield (inQuotes : Bool) (slashes : Nat) : List Char → List Char
  | [] => if inQuotes then List.replicate slashes '\\' else []
  | c :: rest =>
    if c = '\\' then c :: shield inQuotes (slashes + 1) rest
    else if c = '"' then List.replicate (slashes + 1) '\\' ++ c :: shield inQuotes 0 rest
    else c :: shield inQuotes 0 rest

/-- An argument inside a line: in quotes if it is empty or holds a blank or a tab. -/
def shownArgument (arg : String) : String :=
  let cs := arg.toList
  let inQuotes := cs.contains ' ' || cs.contains '\t' || cs.isEmpty
  let body := shield inQuotes 0 cs
  String.ofList (if inQuotes then '"' :: body ++ ['"'] else body)

/-- The line of a command: its variables, its program and its arguments. -/
def render (c : Command) : String :=
  let line := String.intercalate " " (c.tokens.map shownArgument)
  if c.env.isEmpty then line
  else String.intercalate " " (c.env.map fun (k, v) => k ++ "=" ++ v) ++ " " ++ line

end Command

/-- What a program has left behind: its exit status, which is negative if a signal ended it, and its
output. -/
structure ProcessOutput where
  /-- The exit status. -/
  status : Int
  /-- What it wrote to its output. -/
  stdout : Bytes
  /-- What it wrote to its error output. -/
  stderr : Bytes
  deriving DecidableEq, Repr, Inhabited

end CompilerTest

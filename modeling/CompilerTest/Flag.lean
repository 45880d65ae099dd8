import CompilerTest.Fault

/-!
# Custom flags

A flag extends the command of a test and may act once the test has been verified. Flags for
arguments and for running the compiled program can be read from a document; a flag that observes
keeps a record of what is handed to it and then decides how the test goes on.
-/

namespace CompilerTest

/-- What a flag does with the command that is handed to it once the test has been verified. -/
inductive Decision where
  /-- Hands the same command on. -/
  | keep
  /-- Ends the test as passed. -/
  | stop
  /-- Hands another command on. -/
  | replace (command : Command)
  /-- Ends the test with a fault, as failed or for another reason. -/
  | fail (fault : Fault)
  deriving Inhabited

/-- A custom flag. -/
inductive Flag where
  /-- Adds arguments. They are kept as the document gives them, since only a text can be added. -/
  | args (values : List Json)
  /-- Runs the compiled program and expects an exit status. -/
  | run (exitCode : Int)
  /-- Adds arguments, and records under `key` what is handed to it before it decides. -/
  | observe (key : Nat) (values : List String) (decide : Command → ProcessOutput → Decision)
  deriving Inhabited

namespace Flag

/-- The exit status that a value stands for. -/
def statusOf : Json → Except FlagError Int
  | .bool b => .ok (if b then 1 else 0)
  | .number (.int n) => .ok n
  | .number (.real x) =>
    match x, x.truncate? with
    | _, some n => .ok n
    | .nan, none => .error .statusNotANumber
    | _, none => .error .infiniteStatus
  | .text s => (Text.integer? s).mapError .badStatus
  | .broken codes => (Text.integer? (Json.repaired codes)).mapError .badStatus
  | value => .error (.statusOfKind value)

/-- The arguments that a value stands for: the items of a list, the characters of a text, or the
names of the members of an object. -/
def argsOf : Json → Except FlagError (List Json)
  | .array items => .ok items
  | .text s => .ok (s.toList.map fun c => .text c.toString)
  | .broken codes => .ok ((Json.repaired codes).toList.map fun c => .text c.toString)
  | .object ms => .ok (ms.map fun (name, _) => .text name)
  | value => .error (.argsOfKind value)

/-- The flag of a document. -/
def ofJson (payload : Json) : Except FlagError Flag :=
  match payload with
  | .object _ =>
    match (payload.get? "kind").getD .null with
    | .text "args" => do return .args (← argsOf ((payload.get? "args").getD (.array [])))
    | .text "run" => do return .run (← statusOf ((payload.get? "exit_code").getD (.int 0)))
    | .array items => .error (.unusableKind (.array items))
    | .object ms => .error (.unusableKind (.object ms))
    | kind => .error (.unsupportedKind kind)
  | _ => .error .notAnObject

/-- The command with the arguments of a flag; nothing if one of them is no text. -/
def extend? (flag : Flag) (command : Command) : Option Command :=
  match flag with
  | args values => (values.mapM Json.text?).map command.extend
  | run _ => some command
  | observe _ values _ => some (command.extend values)

end Flag

end CompilerTest

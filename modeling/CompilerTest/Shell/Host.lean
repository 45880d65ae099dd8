import CompilerTest.Session
import CompilerTest.Shell.Execution

/-!
# A host for commands

Commands are run on a tree of files by the shell and its utilities, which are all the programs that
there are. A command whose directory cannot be entered or whose program cannot be run is refused;
any other command runs to its end and leaves its output and the files behind.
-/

namespace CompilerTest.Shell

/-- The programs that there are. -/
def programs : List String :=
  ["sh", "cat", "chmod", "cp", "echo", "false", "kill", "printf", "pwd", "test", "[", "true"]

/-- The entries of the programs and of the directories that they are in. -/
def installed : List (Place × Entry) :=
  [(["usr"], .directory), (["usr", "bin"], .directory), (["bin"], .link "usr/bin"),
    (["dev"], .directory), (["dev", "null"], .program "null")] ++
    programs.map fun name => (["usr", "bin", name], .program name)

/-- The place that a command runs in. -/
def placeFor (t : FileTree) (directory : Option Path) : Except FileError Place :=
  match directory with
  | none => .ok t.workingPlace
  | some path =>
    match t.find true path.text with
    | .ok (place, .directory) => .ok place
    | .ok _ => .error ⟨.notDirectory, path.shown⟩
    | .error problem => .error ⟨problem, path.shown⟩

/-- The environment of a command in a place. -/
def environmentFor (place : Place) (env : List (String × String)) : List (Chars × Variable) :=
  let start : List (Chars × Chars) :=
    [("PATH".toList, usualPath), ("PWD".toList, charsOf ("/" ++ String.intercalate "/" place))]
  let all := env.foldl (fun acc (k, v) => putUnder (charsOf k) (charsOf v) acc) start
  all.map fun (k, v) => (k, ⟨some v, true⟩)

/-- What a command reads as its input. -/
def inputFor (t : FileTree) (stdin : Option Path) : Chars :=
  match stdin with
  | none => []
  | some path => ((t.content path.text).toOption.getD []).map fun b => Char.ofNat b.toNat

/-- The number of the process of a command. -/
def processNumber : Nat := 4321

/-- The exit status that the end of a program leaves behind: negative after a signal. -/
def exitStatus : Except Escape Nat → Int
  | .ok status => (status % 256 : Nat)
  | .error (.exit status) => (status % 256 : Nat)
  | .error (.back status) => (status % 256 : Nat)
  | .error (.killed signal) => -signal
  | .error .exhausted => -9
  | .error _ => 0

/-- What has been written to a channel of a world that has ended. -/
def outputOf (w : World) (n : Nat) : Bytes :=
  match w.channels[n]? with
  | some (.output written) => bytesOf written.reverse
  | _ => []

/-- Runs a command to its end. -/
def launch (t : FileTree) (c : Command) : Except FileError (ProcessOutput × FileTree) := do
  let place ← placeFor t c.directory
  let inside : FileTree := { t with workingPlace := place }
  let vars := environmentFor place c.env
  let searchPath := (vars.lookup "PATH".toList).bind (·.value)
  let called := charsOf c.program
  match firstImage inside called (c.args.map charsOf) (candidates searchPath called) with
  | .error problem => .error ⟨problem, Text.quote c.program⟩
  | .ok (tool, args) =>
    let world : World :=
      { tree := inside
        channels := #[.input (inputFor t c.stdin), .output [], .output []]
        process := { number := processNumber, name := args.headD [], vars } }
    let (result, ended) := runTool (execute stepLimit) tool args world
    return (⟨exitStatus result, outputOf ended 1, outputOf ended 2⟩,
      { ended.tree with workingPlace := t.workingPlace })

/-- The host that runs commands by the shell. -/
def host : Host := ⟨launch⟩

end CompilerTest.Shell

/-!
# Modes of tests

What a test expects of the compiler as a whole: that it succeeds, crashes, fails, or anything at
all. A test that expects a failure may also require that its messages are spelled out.
-/

namespace CompilerTest

/-- What a test expects of the compiler. -/
inductive Mode where
  /-- It succeeds. -/
  | pass
  /-- It crashes. -/
  | panic
  /-- It fails; if `requirePatterns` is set, at least one message is expected in so many words. -/
  | fail (requirePatterns : Bool)
  /-- Anything. -/
  | yolo
  deriving DecidableEq, Repr, Inhabited

namespace Mode

/-- The name of a mode. -/
def name : Mode → String
  | pass => "pass"
  | panic => "panic"
  | fail _ => "fail"
  | yolo => "yolo"

/-- The names of all modes. -/
def allNames : List String := ["pass", "panic", "fail", "yolo"]

/-- Whether messages have to be spelled out. -/
def requiresPatterns : Mode → Bool
  | fail requirePatterns => requirePatterns
  | _ => false

/-- The mode that a text names; `requirePatterns` matters for failures only. -/
def ofName? (name : String) (requirePatterns : Bool) : Option Mode :=
  if name = "pass" then some pass
  else if name = "panic" then some panic
  else if name = "fail" then some (fail requirePatterns)
  else if name = "yolo" then some yolo
  else none

/-- The exit status that a mode expects, if it expects one. -/
def expectedStatus? : Mode → Option Int
  | pass => some 0
  | panic => some 101
  | fail _ => some 1
  | yolo => none

end Mode

/-- What happens to expected output that differs from the actual output. -/
inductive ConflictHandling where
  /-- The difference is an error. -/
  | error
  /-- The actual output becomes the expected one. -/
  | bless
  /-- Nothing. -/
  | ignore
  deriving DecidableEq, Repr, Inhabited

namespace ConflictHandling

/-- The name of a way of handling differences. -/
def name : ConflictHandling → String
  | error => "error"
  | bless => "bless"
  | ignore => "ignore"

/-- The way of handling differences that a text names. -/
def ofName? (name : String) : Option ConflictHandling :=
  if name = "error" then some error
  else if name = "bless" then some bless
  else if name = "ignore" then some ignore
  else none

end ConflictHandling

end CompilerTest

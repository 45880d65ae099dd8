import CompilerTest.Level

/-!
# Diagnostics

What a compiler has reported about a file: messages sorted into one bucket per line, messages
without a line of that file, and the rest of its output. The bucket of line zero is never filled.
-/

namespace CompilerTest

/-- A message of a compiler. -/
structure Message where
  /-- How severe it is. -/
  level : Level
  /-- Its text. -/
  text : String
  /-- Its code, if it has one. -/
  code : Option String := none
  deriving DecidableEq, Repr, Inhabited

/-- The messages of one invocation of a compiler. -/
structure Diagnostics where
  /-- The output of the compiler as a user would see it. -/
  rendered : Bytes := []
  /-- The messages of each line, from line zero on. -/
  lines : List (List Message) := [[]]
  /-- The messages without a line. -/
  unknown : List Message := []
  deriving DecidableEq, Repr, Inhabited

namespace Diagnostics

/-- Adds a message to the end of the bucket at position `n`, after as many new buckets as needed. -/
def addAt (m : Message) : Nat → List (List Message) → List (List Message)
  | 0, [] => [[m]]
  | 0, bucket :: rest => (bucket ++ [m]) :: rest
  | n + 1, [] => [] :: addAt m n []
  | n + 1, bucket :: rest => bucket :: addAt m n rest

/-- Adds a message to its line; lines that are not positive count as unknown. -/
def push (d : Diagnostics) (line : Option Int) (m : Message) : Diagnostics :=
  match line with
  | some n =>
    if n ≤ 0 then { d with unknown := d.unknown ++ [m] }
    else { d with lines := addAt m n.toNat d.lines }
  | none => { d with unknown := d.unknown ++ [m] }

end Diagnostics

end CompilerTest

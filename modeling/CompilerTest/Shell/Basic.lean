/-!
# Shell scripts

What a shell script is made of. A word is a list of pieces that are expanded when the command that
it stands in is run; the operand of a parameter and the commands whose output is inserted are kept
as they were written and are read only then.

Scripts, variables and the data that commands hand to one another are byte strings. They are kept
with one character for each byte.
-/

namespace CompilerTest.Shell

/-- A byte string, with one character for each byte. -/
abbrev Chars := List Char

/-! ## Words -/

/-- What stands in the place of a parameter. -/
inductive Change where
  /-- Its value. -/
  | plain
  /-- The length of its value. -/
  | length
  /-- Its value, or the operand if it has none. -/
  | orElse (orEmpty : Bool)
  /-- Its value, or the operand, which becomes its value, if it has none. -/
  | orAssign (orEmpty : Bool)
  /-- Its value; the script ends if it has none. -/
  | orFail (orEmpty : Bool)
  /-- The operand, if it has a value. -/
  | ifPresent (orEmpty : Bool)
  /-- Its value without the shortest or the longest beginning that fits the operand. -/
  | withoutFront (longest : Bool)
  /-- Its value without the shortest or the longest end that fits the operand. -/
  | withoutBack (longest : Bool)
  deriving DecidableEq, Repr

/-- A piece of a word. The pieces between quotes are not taken apart when they are expanded. -/
inductive Piece where
  /-- Characters that stand for themselves. -/
  | chars (cs : Chars) (quoted : Bool)
  /-- A parameter, with the operand of what is done to it. -/
  | parameter (name : Chars) (change : Change) (operand : Chars) (quoted : Bool)
  /-- The output of commands. -/
  | output (source : Chars) (quoted : Bool)
  /-- The number that a formula stands for. -/
  | formula (source : Chars) (quoted : Bool)
  deriving DecidableEq, Repr

/-- A word. -/
abbrev Word := List Piece

/-! ## Commands -/

/-- How a redirection opens what its word names. -/
inductive Opening where
  /-- A file to read. -/
  | read
  /-- A file to write from its beginning. -/
  | write
  /-- A file to write at its end. -/
  | append
  /-- What another descriptor stands for. -/
  | duplicate
  /-- The text of the word itself, to read. -/
  | here
  deriving DecidableEq, Repr

/-- A redirection. -/
structure Redirection where
  /-- The descriptor that is redirected. -/
  descriptor : Nat
  /-- How its new meaning is opened. -/
  opening : Opening
  /-- What is opened. -/
  word : Word
  deriving DecidableEq, Repr

/-- A command. -/
inductive Script where
  /-- No command. -/
  | nothing
  /-- A simple command: assignments, words and redirections, on a line. -/
  | simple (line : Nat) (assignments : List (Chars × Word)) (words : List Word)
      (redirections : List Redirection)
  /-- Two commands, the second of which reads the output of the first. -/
  | pipe (first second : Script)
  /-- A command whose success counts as failure. -/
  | negated (body : Script)
  /-- Two commands, the second of which is run if the first one has succeeded. -/
  | both (first second : Script)
  /-- Two commands, the second of which is run if the first one has failed. -/
  | either (first second : Script)
  /-- Two commands, one after the other. -/
  | sequence (first second : Script)
  /-- A choice between two commands. -/
  | choice (condition whenTrue whenFalse : Script)
  /-- A command that is run as long as a condition is true, or as long as it is false. -/
  | loop (wanted : Bool) (condition body : Script)
  /-- A command that is run for each of some words, or for each parameter. -/
  | each (name : Chars) (words : Option (List Word)) (body : Script)
  /-- The first command whose pattern a word fits. -/
  | branches (word : Word) (cases : List (List Word × Script))
  /-- A command that is run in a copy of the shell. -/
  | copied (body : Script)
  /-- The definition of a function. -/
  | define (name : Chars) (body : Script)
  /-- A command with redirections. -/
  | redirected (line : Nat) (body : Script) (redirections : List Redirection)
  deriving Inhabited

end CompilerTest.Shell

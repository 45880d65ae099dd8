import CompilerTest.Shell.Glob

/-!
# Conditions

The conditions that the test command decides: about texts, about numbers, and about files. They are
read from the arguments of the command from left to right; conjunction binds more tightly than
disjunction.
-/

namespace CompilerTest.Shell

/-- Why a condition is not decided. -/
inductive ConditionError where
  /-- A text is no number. -/
  | notANumber (text : Chars)
  /-- The argument of an operator is missing. -/
  | missing (operator : Chars)
  /-- Something is left over after an argument. -/
  | unexpected (last : Chars)
  /-- A parenthesis is not closed. -/
  | openParenthesis
  deriving DecidableEq, Repr

/-- The wording of an error in a condition. -/
def ConditionError.message : ConditionError → String
  | notANumber text => "Illegal number: " ++ textOf text
  | missing operator => textOf operator ++ ": argument expected"
  | unexpected last => textOf last ++ ": unexpected operator"
  | openParenthesis => "closing paren expected"

/-- The integer that a text spells, with blanks around it. -/
def decimal? (cs : Chars) : Option Int :=
  let blank (c : Char) : Bool := c == ' ' || c == '\t' || c == '\n'
  let cs := ((cs.dropWhile blank).reverse.dropWhile blank).reverse
  let digits? (ds : Chars) : Option Nat :=
    if ds.isEmpty || !ds.all Char.isDigit then none else (String.ofList ds).toNat?
  match cs with
  | '-' :: ds => (digits? ds).map fun n => -(n : Int)
  | '+' :: ds => (digits? ds).map fun n => (n : Int)
  | ds => (digits? ds).map fun n => (n : Int)

/-- The integer that an argument spells. -/
def numberOf (cs : Chars) : Except ConditionError Int :=
  match decimal? cs with
  | some n => .ok n
  | none => .error (.notANumber cs)

/-! ## Tests -/

/-- What is decided about two numbers. -/
def comparison? (operator : String) : Option (Int → Int → Bool) :=
  [("-eq", fun a b : Int => decide (a = b)), ("-ne", fun a b => decide (a ≠ b)),
    ("-gt", fun a b => decide (b < a)), ("-ge", fun a b => decide (b ≤ a)),
    ("-lt", fun a b => decide (a < b)), ("-le", fun a b => decide (a ≤ b))].lookup operator

/-- Whether an argument is an operator between two others. -/
def isBinary (operator : Chars) : Bool :=
  let operator := String.ofList operator
  operator == "=" || operator == "!=" || (comparison? operator).isSome

/-- What a test between two arguments decides. -/
def decideBinary (a operator b : Chars) : Except ConditionError Bool := do
  match comparison? (String.ofList operator) with
  | some holds => return holds (← numberOf a) (← numberOf b)
  | none => return if operator = ['='] then a = b else a ≠ b

/-- Whether an entry can be run or, if it is a directory, entered. -/
def canRun : Entry → Bool
  | .file _ executable => executable
  | .directory => true
  | .program _ => true
  | .link _ => false

/-- Whether an entry has content. -/
def hasContent : Entry → Bool
  | .file content _ => !content.isEmpty
  | .directory => true
  | _ => false

/-- Whether an entry is a directory. -/
def isFolder : Entry → Bool
  | .directory => true
  | _ => false

/-- Whether an entry is a link. -/
def isLink : Entry → Bool
  | .link _ => true
  | _ => false

/-- What a test of a file decides, given whether a link at the end is followed. -/
def fileTest? (letter : Char) : Option (Bool × (Entry → Bool)) :=
  [('e', true, fun _ => true), ('r', true, fun _ => true), ('w', true, fun _ => true),
    ('f', true, FileTree.isRegular), ('d', true, isFolder), ('s', true, hasContent),
    ('x', true, canRun), ('L', false, isLink), ('h', false, isLink)].lookup letter

/-- What a test of one argument decides, if the operator is one. -/
def unary? (t : FileTree) (operator operand : Chars) : Option Bool :=
  match operator with
  | ['-', 'n'] => some !operand.isEmpty
  | ['-', 'z'] => some operand.isEmpty
  | ['-', letter] =>
    (fileTest? letter).map fun (follow, holds) =>
      match t.find follow (textOf operand) with
      | .ok (_, entry) => holds entry
      | .error _ => false
  | _ => none

/-! ## Connectives -/

/-- A condition that was decided, and the arguments that are left. -/
abbrev Decided := Except ConditionError (Bool × List Chars)

/-- Decides a condition without connectives, given how to decide one in parentheses. -/
def decidePrimary (t : FileTree) (inner : List Chars → Decided) (args : List Chars) : Decided :=
  match args with
  | [] => .ok (false, [])
  | a :: operator :: b :: rest =>
    if isBinary operator then (decideBinary a operator b).map (·, rest)
    else if a = ['('] then
      match inner (operator :: b :: rest) with
      | .ok (holds, [')'] :: rest) => .ok (holds, rest)
      | .ok _ => .error .openParenthesis
      | .error e => .error e
    else match unary? t a operator with
      | some holds => .ok (holds, b :: rest)
      | none => .ok (!a.isEmpty, operator :: b :: rest)
  | a :: operand :: rest =>
    match unary? t a operand with
    | some holds => .ok (holds, rest)
    | none =>
      if isBinary operand && rest.isEmpty then .error (.missing operand)
      else .ok (!a.isEmpty, operand :: rest)
  | [a] => .ok (!a.isEmpty, [])

/-- Whether an argument that negates stands in front of a condition, and not between two others. -/
def isNegation (args : List Chars) : Bool :=
  args.head? = some ['!'] && 1 < args.length && !((args[1]?.map isBinary).getD false &&
    2 < args.length)

/-- Decides a condition that may be negated. -/
def decideNegatable (primary : List Chars → Decided) : List Chars → Decided
  | [] => primary []
  | a :: rest =>
    if isNegation (a :: rest) then
      (decideNegatable primary rest).map fun (holds, rest) => (!holds, rest)
    else primary (a :: rest)

/-- Goes on with the conditions that have to hold too. Each round takes at least one argument, so
their number bounds the number of rounds. -/
def decideConjunction (operand : List Chars → Decided) : Nat → Bool × List Chars → Decided
  | fuel + 1, (holds, ['-', 'a'] :: rest) => do
    let (other, rest) ← operand rest
    decideConjunction operand fuel (holds && other, rest)
  | _, decided => .ok decided

/-- Goes on with the conditions of which one has to hold. -/
def decideDisjunction (operand : List Chars → Decided) : Nat → Bool × List Chars → Decided
  | fuel + 1, (holds, ['-', 'o'] :: rest) => do
    let (other, rest) ← decideConjunction operand fuel (← operand rest)
    decideDisjunction operand fuel (holds || other, rest)
  | _, decided => .ok decided

/-- Decides a condition, with parentheses nested at most `depth` deep. -/
def decideCondition (t : FileTree) : Nat → List Chars → Decided
  | 0, _ => .error .openParenthesis
  | depth + 1, args => do
    let operand := decideNegatable (decidePrimary t (decideCondition t depth))
    let first ← decideConjunction operand args.length (← operand args)
    decideDisjunction operand args.length first

/-- What the test command decides about its arguments. -/
def decideTest (t : FileTree) (args : List Chars) : Except ConditionError Bool :=
  if args.isEmpty then .ok false
  else match decideCondition t (args.length + 1) args with
    | .ok (holds, []) => .ok holds
    | .ok (_, extra) => .error (.unexpected (args.getD (args.length - extra.length - 1) []))
    | .error e => .error e

end CompilerTest.Shell

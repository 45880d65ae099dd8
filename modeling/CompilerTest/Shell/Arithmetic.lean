import CompilerTest.Shell.Word

/-!
# Arithmetic

The formulas that are expanded to numbers. A formula is read to the end first; a problem with it is
reported together with its text. Numbers are words of 64 bits with a sign, and a numeral that does
not fit into one stands for the greatest number.

A formula may change variables. It is evaluated over a state of the variables, and what is behind a
decision that went the other way is not evaluated.
-/

namespace CompilerTest.Shell

/-- An operator between two numbers. -/
inductive Operator where
  | multiply
  | divide
  | remainder
  | add
  | subtract
  | shiftLeft
  | shiftRight
  | less
  | lessOrEqual
  | greater
  | greaterOrEqual
  | equal
  | unequal
  | bitAnd
  | bitXor
  | bitOr
  deriving DecidableEq, Repr

/-- A formula. -/
inductive Formula where
  /-- A number. -/
  | number (value : Int64)
  /-- The value of a variable. -/
  | named (name : Chars)
  /-- The number with its sign changed. -/
  | negative (operand : Formula)
  /-- One for zero, and zero for every other number. -/
  | not (operand : Formula)
  /-- The number with every bit changed. -/
  | complement (operand : Formula)
  /-- An operator with its operands. -/
  | binary (operator : Operator) (left right : Formula)
  /-- Whether both numbers are not zero. -/
  | both (left right : Formula)
  /-- Whether one of the numbers is not zero. -/
  | either (left right : Formula)
  /-- One of two numbers. -/
  | choice (condition whenTrue whenFalse : Formula)
  /-- A number that becomes the value of a variable, after an operator if there is one. -/
  | assign (name : Chars) (operator : Option Operator) (value : Formula)
  deriving Repr, Inhabited

/-- What is wrong with a formula. -/
inductive FormulaError where
  /-- A number or a variable is missing. -/
  | expectingPrimary
  /-- Something is left over. -/
  | expectingEnd
  /-- A parenthesis is not closed. -/
  | expectingClosing
  /-- The second of two choices is missing. -/
  | expectingColon
  /-- A number is divided by zero. -/
  | divisionByZero
  /-- The value of a variable is no number. -/
  | notANumber (text : Chars)
  deriving DecidableEq, Repr

/-- The wording of what is wrong with a formula. -/
def FormulaError.message (source : String) : FormulaError → String
  | expectingPrimary => s!"arithmetic expression: expecting primary: \"{source}\""
  | expectingEnd => s!"arithmetic expression: expecting EOF: \"{source}\""
  | expectingClosing => s!"arithmetic expression: expecting ')': \"{source}\""
  | expectingColon => s!"arithmetic expression: expecting ':': \"{source}\""
  | divisionByZero => s!"arithmetic expression: division by zero: \"{source}\""
  | notANumber text => "Illegal number: " ++ String.ofList text

/-! ## Numerals -/

/-- The number that stands for an integer: the nearest one that fits into a word. -/
def nearestWord (n : Int) : Int64 :=
  if n ≥ Nat.pow 2 63 then Int64.maxValue
  else if n < -(Nat.pow 2 63 : Int) then Int64.minValue
  else Int64.ofInt n

/-- The value of a digit in a base. -/
def digitIn? (base : Nat) (c : Char) : Option Nat :=
  let value :=
    if c.isDigit then c.toNat - '0'.toNat
    else if 'a' ≤ c && c ≤ 'f' then c.toNat - 'a'.toNat + 10
    else if 'A' ≤ c && c ≤ 'F' then c.toNat - 'A'.toNat + 10
    else base
  if value < base then some value else none

/-- The value of the digits in a base at the front, and what follows them. -/
def numeralIn (base : Nat) (cs : Chars) : Nat × Chars :=
  let digits := cs.takeWhile fun c => (digitIn? base c).isSome
  (digits.foldl (fun n c => base * n + (digitIn? base c).getD 0) 0, cs.drop digits.length)

/-- The numeral at the front, and what follows it. A leading zero makes it octal, and a letter after
the zero hexadecimal. -/
def numeralOf : Chars → Nat × Chars
  | '0' :: x :: d :: rest =>
    if (x = 'x' || x = 'X') && (digitIn? 16 d).isSome then numeralIn 16 (d :: rest)
    else numeralIn 8 ('0' :: x :: d :: rest)
  | '0' :: rest => numeralIn 8 ('0' :: rest)
  | cs => numeralIn 10 cs

/-- The number that the value of a variable spells; an empty one counts as zero. -/
def wordOf? (value : Chars) : Option Int64 :=
  let blank (c : Char) : Bool := c == ' ' || c == '\t' || c == '\n'
  let cs := ((value.dropWhile blank).reverse.dropWhile blank).reverse
  let (negative, digits) : Bool × Chars := match cs with
    | '-' :: rest => (true, rest)
    | '+' :: rest => (false, rest)
    | rest => (false, rest)
  let (n, rest) := numeralOf digits
  if cs.isEmpty then some 0
  else if digits.isEmpty || !rest.isEmpty then none
  else some (nearestWord (if negative then -n else n))

/-! ## Reading formulas -/

/-- Reading a formula. -/
abbrev FormulaReading := StateT Chars (Except FormulaError)

/-- The operators with what they are written as and how tightly they bind, the longest first. -/
def operators : List (String × Nat × Operator) :=
  [("<<", 6, .shiftLeft), (">>", 6, .shiftRight), ("<=", 5, .lessOrEqual),
    (">=", 5, .greaterOrEqual), ("==", 4, .equal), ("!=", 4, .unequal), ("*", 8, .multiply),
    ("/", 8, .divide), ("%", 8, .remainder), ("+", 7, .add), ("-", 7, .subtract), ("<", 5, .less),
    (">", 5, .greater), ("&", 3, .bitAnd), ("^", 2, .bitXor), ("|", 1, .bitOr)]

/-- The operators that an assignment may have. -/
def assigning : List (String × Option Operator) :=
  [("<<=", some .shiftLeft), (">>=", some .shiftRight), ("*=", some .multiply),
    ("/=", some .divide), ("%=", some .remainder), ("+=", some .add), ("-=", some .subtract),
    ("&=", some .bitAnd), ("^=", some .bitXor), ("|=", some .bitOr), ("=", none)]

/-- Characters without the blanks in front of them. -/
def withoutSpaces (cs : Chars) : Chars := cs.dropWhile fun c => c == ' ' || c == '\t' || c == '\n'

/-- What is left of a formula, from the next character that is no blank. -/
def upcoming : FormulaReading Chars := return withoutSpaces (← get)

/-- Skips a symbol, if it comes next. -/
def acceptSymbol (symbol : String) : FormulaReading Bool := do
  let rest ← upcoming
  if symbol.toList.isPrefixOf rest then
    set (rest.drop symbol.length)
    return true
  else return false

/-- The operator between two numbers that comes next, with how tightly it binds and how many
characters it has. The signs of decisions and assignments are none. -/
def nextOperator? : FormulaReading (Option (Operator × Nat × Nat)) := do
  let rest ← upcoming
  if ["&&", "||"].any fun s => s.toList.isPrefixOf rest then return none
  else
    let found := operators.find? fun (s, _) => s.toList.isPrefixOf rest
    return found.bind fun (s, tightness, operator) =>
      let compares := ["<=", ">=", "==", "!=", "<", ">"].contains s
      let assigns := rest[s.length]? = some '=' && !compares
      if assigns then none else some (operator, tightness, s.length)

/-- The name of a variable and the operator of an assignment to it, if they come next, with what
follows them. -/
def assignmentTarget? (cs : Chars) : Option (Chars × Option Operator × Chars) :=
  let name := cs.takeWhile isNamePart
  let after := withoutSpaces (cs.drop name.length)
  if !isName name || "==".toList.isPrefixOf after then none
  else (assigning.find? fun (s, _) => s.toList.isPrefixOf after).map fun (s, operator) =>
    (name, operator, after.drop s.length)

/-- A number, a variable, or a formula in parentheses, after any signs. -/
def readPrimary (whole : FormulaReading Formula) : Nat → FormulaReading Formula
  | 0 => throw .expectingPrimary
  | fuel + 1 => do
    match ← upcoming with
    | '+' :: rest =>
      set rest
      readPrimary whole fuel
    | '-' :: rest =>
      set rest
      return .negative (← readPrimary whole fuel)
    | '!' :: rest =>
      set rest
      return .not (← readPrimary whole fuel)
    | '~' :: rest =>
      set rest
      return .complement (← readPrimary whole fuel)
    | '(' :: rest =>
      set rest
      let inner ← whole
      if ← acceptSymbol ")" then return inner else throw .expectingClosing
    | c :: rest =>
      if c.isDigit then
        let (n, rest) := numeralOf (c :: rest)
        set rest
        return .number (nearestWord n)
      else if isNameStart c then
        set (rest.dropWhile isNamePart)
        return .named (c :: rest.takeWhile isNamePart)
      else throw .expectingPrimary
    | [] => throw .expectingPrimary

/-- Goes on with the operators that bind at least as tightly as `tightness`, from the left. -/
def readOperators (primary : FormulaReading Formula) :
    Nat → Nat → Formula → FormulaReading Formula
  | 0, _, left => return left
  | fuel + 1, tightness, left => do
    match ← nextOperator? with
    | none => return left
    | some (operator, t, size) =>
      if t < tightness then return left
      else
        set ((← upcoming).drop size)
        let right ← readOperators primary fuel (t + 1) (← primary)
        readOperators primary fuel tightness (.binary operator left right)

/-- Goes on with operands that a symbol joins, from the right. -/
def readJoined (symbol : String) (join : Formula → Formula → Formula)
    (operand : FormulaReading Formula) : Nat → FormulaReading Formula
  | 0 => operand
  | fuel + 1 => do
    let left ← operand
    if ← acceptSymbol symbol then return join left (← readJoined symbol join operand fuel)
    else return left

/-- A formula that is no assignment, given how to read any formula. -/
def readChoices (whole : FormulaReading Formula) : Nat → FormulaReading Formula
  | 0 => throw .expectingPrimary
  | fuel + 1 => do
    let size := (← get).length + 1
    let primary := readPrimary whole size
    let comparison : FormulaReading Formula := do readOperators primary size 1 (← primary)
    let condition ← readJoined "||" .either (readJoined "&&" .both comparison size) size
    if ← acceptSymbol "?" then
      let whenTrue ← whole
      if !(← acceptSymbol ":") then throw .expectingColon
      return .choice condition whenTrue (← readChoices whole fuel)
    else return condition

/-- A formula, with at most `depth` nested in one another. -/
def readFormula : Nat → FormulaReading Formula
  | 0 => throw .expectingPrimary
  | depth + 1 => do
    match assignmentTarget? (← upcoming) with
    | some (name, operator, rest) =>
      set rest
      return .assign name operator (← readFormula depth)
    | none => readChoices (readFormula depth) ((← get).length + 1)

/-- The formula that a text spells. -/
def Formula.ofText (cs : Chars) : Except FormulaError Formula := do
  let (formula, rest) ← (readFormula (cs.length + 1)).run cs
  if (withoutSpaces rest).isEmpty then return formula else throw .expectingEnd

/-! ## Evaluation -/

/-- One for what holds and zero for what does not. -/
def truthWord (holds : Bool) : Int64 := if holds then 1 else 0

/-- What an operator makes of two numbers. -/
def Operator.apply (a b : Int64) : Operator → Except FormulaError Int64
  | multiply => .ok (a * b)
  | divide => if b = 0 then .error .divisionByZero else .ok (a / b)
  | remainder => if b = 0 then .error .divisionByZero else .ok (a % b)
  | add => .ok (a + b)
  | subtract => .ok (a - b)
  | shiftLeft => .ok (a <<< b)
  | shiftRight => .ok (a >>> b)
  | less => .ok (truthWord (a < b))
  | lessOrEqual => .ok (truthWord (a ≤ b))
  | greater => .ok (truthWord (b < a))
  | greaterOrEqual => .ok (truthWord (b ≤ a))
  | equal => .ok (truthWord (a = b))
  | unequal => .ok (truthWord (a ≠ b))
  | bitAnd => .ok (a &&& b)
  | bitXor => .ok (a ^^^ b)
  | bitOr => .ok (a ||| b)

/-- The values of variables, as far as they were changed last. -/
abbrev Valuation := Chars → Option Chars

/-- The number that a variable stands for; one without a value counts as zero. -/
def numberFor (values : Valuation) (name : Chars) : Except FormulaError Int64 :=
  match values name with
  | none => .ok 0
  | some value =>
    match wordOf? value with
    | some n => .ok n
    | none => .error (.notANumber value)

/-- The number that a formula stands for and the values that it gives to variables, the last one
first. -/
def Formula.eval (start : Valuation) :
    Formula → List (Chars × Chars) → Except FormulaError (Int64 × List (Chars × Chars))
  | number n, changes => .ok (n, changes)
  | named name, changes => do
    return (← numberFor (fun k => (changes.lookup k).or (start k)) name, changes)
  | negative a, changes => do
    let (n, changes) ← a.eval start changes
    return (-n, changes)
  | not a, changes => do
    let (n, changes) ← a.eval start changes
    return (truthWord (n = 0), changes)
  | complement a, changes => do
    let (n, changes) ← a.eval start changes
    return (~~~n, changes)
  | binary operator a b, changes => do
    let (m, changes) ← a.eval start changes
    let (n, changes) ← b.eval start changes
    return (← operator.apply m n, changes)
  | both a b, changes => do
    let (m, changes) ← a.eval start changes
    if m = 0 then return (0, changes)
    else
      let (n, changes) ← b.eval start changes
      return (truthWord (n ≠ 0), changes)
  | either a b, changes => do
    let (m, changes) ← a.eval start changes
    if m ≠ 0 then return (1, changes)
    else
      let (n, changes) ← b.eval start changes
      return (truthWord (n ≠ 0), changes)
  | choice c a b, changes => do
    let (n, changes) ← c.eval start changes
    if n ≠ 0 then a.eval start changes else b.eval start changes
  | assign name operator a, changes => do
    let (n, changes) ← a.eval start changes
    let n ← match operator with
      | none => pure n
      | some operator => do
        operator.apply (← numberFor (fun k => (changes.lookup k).or (start k)) name) n
    return (n, (name, (toString n.toInt).toList) :: changes)

/-- The number that a text stands for and the values that it gives to variables, the last one
first. -/
def evalText (start : Valuation) (cs : Chars) :
    Except FormulaError (Int64 × List (Chars × Chars)) := do
  (← Formula.ofText cs).eval start []

end CompilerTest.Shell

import CompilerTest.Shell.Basic

/-!
# Reading words

How the characters of a script form words. Quotes and expansions may be nested; what stands inside
an expansion is found by its closing character and kept as it is.
-/

namespace CompilerTest.Shell

/-- What is wrong with a script. -/
inductive Malformed where
  /-- A quote is not closed. -/
  | openQuote
  /-- An expansion is not closed. -/
  | openExpansion
  /-- A formula is not closed. -/
  | openFormula
  /-- An expansion is none. -/
  | badExpansion
  /-- Something stands where it must not. -/
  | unexpected (what : String) (expected : Option String)
  deriving DecidableEq, Repr

/-- The wording of what is wrong with a script. -/
def Malformed.message : Malformed → String
  | openQuote => "Syntax error: Unterminated quoted string"
  | openExpansion => "Syntax error: Missing '\x7d'"
  | openFormula => "Syntax error: Missing '))'"
  | badExpansion => "Bad substitution"
  | unexpected what none => s!"Syntax error: {what} unexpected"
  | unexpected what (some expected) =>
    s!"Syntax error: {what} unexpected (expecting \"" ++ expected ++ "\")"

/-! ## Characters -/

/-- Whether a character is a blank. -/
def isBlank (c : Char) : Bool := c == ' ' || c == '\t'

/-- Whether a character ends a word that it is not quoted in. -/
def isMeta (c : Char) : Bool := isBlank c || c == '\n' || ";&|<>()".toList.contains c

/-- Whether a character has a meaning of its own inside a word. -/
def isActive (c : Char) : Bool := "\\'\"$\x60".toList.contains c

/-- Whether a name may begin with a character. -/
def isNameStart (c : Char) : Bool := c.isAlpha || c == '_'

/-- Whether a name may go on with a character. -/
def isNamePart (c : Char) : Bool := c.isAlphanum || c == '_'

/-- Whether characters are a name. -/
def isName (cs : Chars) : Bool := (cs.head?.map isNameStart).getD false && cs.all isNamePart

/-- Whether a character names a parameter that is set by the shell. -/
def isSpecial (c : Char) : Bool := c.isDigit || "@*#?-$!".toList.contains c

/-! ## Enclosed characters -/

/-- Cuts characters at the one that closes the outermost of the open quotes and brackets, which
`closers` lists from the innermost on. `acc` holds the characters so far in reverse. -/
def enclosed (closers acc : List Char) : Chars → Option (Chars × Chars)
  | [] => none
  | c :: rest =>
    match closers with
    | [] => none
    | closer :: outer =>
      if c = closer then
        if outer.isEmpty then some (acc.reverse, rest) else enclosed outer (c :: acc) rest
      else if closer = '\'' then enclosed closers (c :: acc) rest
      else if c = '\\' then
        match rest with
        | d :: rest => enclosed closers (d :: c :: acc) rest
        | [] => none
      else if c = '$' then
        match rest with
        | '\x7b' :: rest => enclosed ('\x7d' :: closers) ('\x7b' :: c :: acc) rest
        | '(' :: rest => enclosed (')' :: closers) ('(' :: c :: acc) rest
        | rest => enclosed closers (c :: acc) rest
      else if c = '\x60' || c = '"' then enclosed (c :: closers) (c :: acc) rest
      else if c = '\'' && closer ≠ '"' then enclosed (c :: closers) (c :: acc) rest
      else if c = '(' && closer = ')' then enclosed (')' :: closers) (c :: acc) rest
      else enclosed closers (c :: acc) rest

/-- Cuts characters at the back quote that closes commands, and takes away the backslashes that
protect characters from the outer shell. -/
def backQuoted (acc : Chars) : Chars → Option (Chars × Chars)
  | [] => none
  | '\x60' :: rest => some (acc.reverse, rest)
  | '\\' :: c :: rest =>
    if c = '\x60' || c = '\\' || c = '$' then backQuoted (c :: acc) rest
    else backQuoted (c :: '\\' :: acc) rest
  | c :: rest => backQuoted (c :: acc) rest

/-! ## Expansions -/

/-- What is done to a parameter, with the operand, given what follows its name in braces. -/
def changeOf : Chars → Option (Change × Chars)
  | [] => some (.plain, [])
  | ':' :: '-' :: operand => some (.orElse true, operand)
  | '-' :: operand => some (.orElse false, operand)
  | ':' :: '=' :: operand => some (.orAssign true, operand)
  | '=' :: operand => some (.orAssign false, operand)
  | ':' :: '?' :: operand => some (.orFail true, operand)
  | '?' :: operand => some (.orFail false, operand)
  | ':' :: '+' :: operand => some (.ifPresent true, operand)
  | '+' :: operand => some (.ifPresent false, operand)
  | '#' :: '#' :: operand => some (.withoutFront true, operand)
  | '#' :: operand => some (.withoutFront false, operand)
  | '%' :: '%' :: operand => some (.withoutBack true, operand)
  | '%' :: operand => some (.withoutBack false, operand)
  | _ => none

/-- The name of a parameter at the front of characters, with what follows it. -/
def parameterName : Chars → Option (Chars × Chars)
  | [] => none
  | c :: rest =>
    if isNameStart c then
      some (c :: rest.takeWhile isNamePart, rest.dropWhile isNamePart)
    else if c.isDigit then
      some (c :: rest.takeWhile Char.isDigit, rest.dropWhile Char.isDigit)
    else if isSpecial c then some ([c], rest)
    else none

/-- The expansion between braces. -/
def bracedParameter (quoted : Bool) (inner : Chars) : Except Malformed Piece :=
  match inner with
  | '#' :: c :: rest =>
    match parameterName (c :: rest) with
    | some (name, []) => .ok (.parameter name .length [] quoted)
    | _ =>
      match changeOf (c :: rest) with
      | some (change, operand) => .ok (.parameter ['#'] change operand quoted)
      | none => .error .badExpansion
  | _ =>
    match parameterName inner with
    | none => .error .badExpansion
    | some (name, rest) =>
      match changeOf rest with
      | some (change, operand) => .ok (.parameter name change operand quoted)
      | none => .error .badExpansion

/-- The expansion that follows a dollar sign, or the sign itself. -/
def readDollar (quoted : Bool) (rest : Chars) : Except Malformed (Piece × Chars) :=
  match rest with
  | '(' :: '(' :: rest =>
    match (enclosed [')', ')'] [] rest).map fun (source, rest) => (source.reverse, rest) with
    | some (')' :: source, rest) => .ok (.formula source.reverse quoted, rest)
    | _ => .error .openFormula
  | '(' :: rest =>
    match enclosed [')'] [] rest with
    | some (source, rest) => .ok (.output source quoted, rest)
    | none => .error (.unexpected "end of file" (some ")"))
  | '\x7b' :: rest =>
    match enclosed ['\x7d'] [] rest with
    | some (inner, rest) => return (← bracedParameter quoted inner, rest)
    | none => .error .openExpansion
  | c :: rest =>
    if isNameStart c then
      .ok (.parameter (c :: rest.takeWhile isNamePart) .plain [] quoted, rest.dropWhile isNamePart)
    else if isSpecial c then .ok (.parameter [c] .plain [] quoted, rest)
    else .ok (.chars ['$'] quoted, c :: rest)
  | [] => .ok (.chars ['$'] quoted, [])

/-- The commands whose output is inserted, given what follows a back quote. -/
def readBackQuoted (quoted : Bool) (rest : Chars) : Except Malformed (Piece × Chars) :=
  match backQuoted [] rest with
  | some (source, rest) => .ok (.output source quoted, rest)
  | none => .error (.unexpected "end of file" (some "\x60"))

/-! ## Words -/

/-- Reads the pieces of quoted text up to the closing quote or, if there is none to close it, up to
the end. Each round takes at least one character, so the length of the text bounds their number. -/
def readQuoted (inQuotes : Bool) : Nat → Chars → Except Malformed (Word × Chars)
  | 0, rest => .ok ([], rest)
  | fuel + 1, rest => do
    match rest with
    | [] => if inQuotes then .error .openQuote else return ([], [])
    | '\\' :: '\n' :: rest => readQuoted inQuotes fuel rest
    | '\\' :: c :: rest =>
      let (pieces, rest) ← readQuoted inQuotes fuel rest
      let escapes := c = '$' || c = '\x60' || c = '\\' || (c = '"' && inQuotes)
      return (.chars (if escapes then [c] else ['\\', c]) true :: pieces, rest)
    | '$' :: rest =>
      let (piece, rest) ← readDollar true rest
      let (pieces, rest) ← readQuoted inQuotes fuel rest
      return (piece :: pieces, rest)
    | '\x60' :: rest =>
      let (piece, rest) ← readBackQuoted true rest
      let (pieces, rest) ← readQuoted inQuotes fuel rest
      return (piece :: pieces, rest)
    | c :: rest =>
      if c = '"' && inQuotes then return ([], rest)
      else
        let (pieces, rest) ← readQuoted inQuotes fuel rest
        return (.chars [c] true :: pieces, rest)

/-- Reads the pieces of a word up to a character that ends it. Each round takes at least one
character, so the length of the text bounds their number. -/
def readPieces (ends : Char → Bool) : Nat → Chars → Except Malformed (Word × Chars)
  | 0, rest => .ok ([], rest)
  | fuel + 1, rest => do
    match rest with
    | [] => return ([], [])
    | '\\' :: '\n' :: rest => readPieces ends fuel rest
    | '\\' :: c :: rest =>
      let (pieces, rest) ← readPieces ends fuel rest
      return (.chars [c] true :: pieces, rest)
    | '\'' :: rest =>
      let inner := rest.takeWhile (· ≠ '\'')
      if inner.length = rest.length then .error .openQuote
      else
        let (pieces, rest) ← readPieces ends fuel (rest.drop (inner.length + 1))
        return (.chars inner true :: pieces, rest)
    | '"' :: rest =>
      let (inner, rest) ← readQuoted true (rest.length + 1) rest
      let (pieces, rest) ← readPieces ends fuel rest
      return ((if inner.isEmpty then [.chars [] true] else inner) ++ pieces, rest)
    | '$' :: rest =>
      let (piece, rest) ← readDollar false rest
      let (pieces, rest) ← readPieces ends fuel rest
      return (piece :: pieces, rest)
    | '\x60' :: rest =>
      let (piece, rest) ← readBackQuoted false rest
      let (pieces, rest) ← readPieces ends fuel rest
      return (piece :: pieces, rest)
    | c :: rest =>
      if ends c then return ([], c :: rest)
      else
        let (pieces, rest) ← readPieces ends fuel rest
        return (.chars [c] false :: pieces, rest)

/-- Reads a word of a command. -/
def readWord (rest : Chars) : Except Malformed (Word × Chars) :=
  readPieces isMeta (rest.length + 1) rest

/-- The word that an operand of an expansion spells. -/
def operandWord (quoted : Bool) (operand : Chars) : Except Malformed Word := do
  if quoted then return (← readQuoted false (operand.length + 1) operand).1
  else return (← readPieces (fun _ => false) (operand.length + 1) operand).1

/-- The characters of a word without quotes and expansions. -/
def plainChars? : Word → Option Chars
  | [] => some []
  | .chars cs false :: rest => (plainChars? rest).map (cs ++ ·)
  | _ => none

/-- The characters of a word without its quotes, with expansions as if they were quoted. -/
def unquotedChars (w : Word) : Chars :=
  w.flatMap fun
    | .chars cs _ => cs
    | .parameter name _ _ _ => '$' :: name
    | .output source _ => '$' :: '(' :: source ++ [')']
    | .formula source _ => '$' :: '(' :: '(' :: source ++ [')', ')']

/-- Whether a part of a word is quoted. -/
def hasQuotes (w : Word) : Bool :=
  w.any fun
    | .chars _ quoted => quoted
    | _ => false

end CompilerTest.Shell

import CompilerTest.Shell.Word

/-!
# Reading scripts

A script is read line by line: what a line says is run before the next one is read, so that a
mistake further on does not keep the lines before it from running. Commands may be nested; a reader
for the commands inside is handed to the readers of everything that holds commands.
-/

namespace CompilerTest.Shell

/-- What is left of a script, and the line that it begins on. -/
structure Source where
  /-- The characters that are left. -/
  rest : Chars
  /-- The number of the line. -/
  line : Nat := 1
  deriving Inhabited

/-- Reading a script. -/
abbrev Reading := StateT Source (Except Malformed)

namespace Source

/-- What is left after reading up to `rest`. -/
def movedTo (s : Source) (rest : Chars) : Source :=
  let taken := s.rest.take (s.rest.length - rest.length)
  ⟨rest, s.line + (taken.filter (· == '\n')).length⟩

/-- Drops blanks and a comment. Each round drops at least one character, so the length of the text
bounds their number. -/
def withoutBlanks : Nat → Chars → Chars
  | 0, rest => rest
  | fuel + 1, rest =>
    match rest with
    | '\\' :: '\n' :: rest => withoutBlanks fuel rest
    | '#' :: rest => rest.dropWhile (· ≠ '\n')
    | c :: tail => if isBlank c then withoutBlanks fuel tail else c :: tail
    | [] => []

/-- Drops blanks, comments and line ends. -/
def withoutLines : Nat → Chars → Chars
  | 0, rest => rest
  | fuel + 1, rest =>
    match withoutBlanks (rest.length + 1) rest with
    | '\n' :: rest => withoutLines fuel rest
    | rest => rest

end Source

/-! ## Tokens -/

/-- What is left. -/
def remaining : Reading Chars := return (← get).rest

/-- Goes on with another rest. -/
def goOn (rest : Chars) : Reading Unit := modify (·.movedTo rest)

/-- Skips blanks. -/
def skipBlanks : Reading Unit := do
  let rest ← remaining
  goOn (Source.withoutBlanks (rest.length + 1) rest)

/-- Skips blanks and line ends. -/
def skipLines : Reading Unit := do
  let rest ← remaining
  goOn (Source.withoutLines (rest.length + 1) rest)

/-- Skips an operator, if it comes next. -/
def accept (operator : String) : Reading Bool := do
  let rest ← remaining
  if operator.toList.isPrefixOf rest then
    goOn (rest.drop operator.length)
    return true
  else return false

/-- The words that have a meaning of their own where a command may begin. -/
def reservedWords : List String :=
  ["if", "then", "elif", "else", "fi", "while", "until", "for", "in", "do", "done", "case", "esac",
    "\x7b", "\x7d", "!"]

/-- The words that end a list of commands. -/
def closingWords : List String := ["then", "elif", "else", "fi", "do", "done", "esac", "\x7d"]

/-- The reserved word that comes next, if one does. -/
def reserved? : Reading (Option String) := do
  let rest ← remaining
  let run := rest.takeWhile fun c => !isMeta c && !isActive c
  let continued := (rest[run.length]?.map isActive).getD false
  let word := String.ofList run
  return if !continued && reservedWords.contains word then some word else none

/-- Skips a reserved word, if it comes next. -/
def acceptWord (word : String) : Reading Bool := do
  if (← reserved?) = some word then
    let rest ← remaining
    goOn (rest.drop word.length)
    return true
  else return false

/-- What comes next, in words. -/
def nextInWords : Reading String := do
  let rest ← remaining
  match ← reserved? with
  | some word => return "\"" ++ word ++ "\""
  | none =>
    match rest with
    | [] => return "end of file"
    | '\n' :: _ => return "newline"
    | a :: b :: _ =>
      if !isMeta a then return "word"
      else if a = b && a ≠ '(' && a ≠ ')' then return "\"" ++ String.ofList [a, b] ++ "\""
      else return "\"" ++ String.ofList [a] ++ "\""
    | [a] => if isMeta a then return "\"" ++ String.ofList [a] ++ "\"" else return "word"

/-- Refuses what comes next. -/
def refuseNext {α : Type} (expected : Option String) : Reading α := do
  throw (.unexpected (← nextInWords) expected)

/-- Skips a reserved word that has to come next. -/
def expectWord (word : String) : Reading Unit := do
  if !(← acceptWord word) then refuseNext (some word)

/-- A word. -/
def takeWord : Reading Word := do
  match readWord (← remaining) with
  | .ok (word, rest) =>
    goOn rest
    return word
  | .error e => throw e

/-- Whether a word comes next. -/
def atWord : Reading Bool := return ((← remaining).head?.map (!isMeta ·)).getD false

/-! ## Redirections -/

/-- The lines of a text that stands inside a script, up to its delimiter, and what comes after
them. -/
def hereLines (delimiter : Chars) (dropTabs : Bool) : Nat → Chars → Chars × Chars
  | 0, rest => ([], rest)
  | fuel + 1, rest =>
    if rest.isEmpty then ([], [])
    else
      let line := rest.takeWhile (· ≠ '\n')
      let after := rest.drop (line.length + 1)
      let line := if dropTabs then line.dropWhile (· == '\t') else line
      if line = delimiter then ([], after)
      else
        let (lines, after) := hereLines delimiter dropTabs fuel after
        (line ++ '\n' :: lines, after)

/-- The text that begins on the next line, taken out of what is left. -/
def takeHere (dropTabs : Bool) : Reading Word := do
  skipBlanks
  let word ← takeWord
  let rest ← remaining
  let line := rest.takeWhile (· ≠ '\n')
  let below := rest.drop (line.length + 1)
  let (text, after) := hereLines (unquotedChars word) dropTabs (below.length + 1) below
  modify fun s => { s with rest := line ++ '\n' :: after }
  if hasQuotes word then return [.chars text true]
  else match readQuoted false (text.length + 1) text with
    | .ok (word, _) => return .chars [] true :: word
    | .error e => throw e

/-- The operators of redirections, the longest first. -/
def openings : List (String × Nat × Opening) :=
  [(">>", 1, .append), (">&", 1, .duplicate), (">|", 1, .write), ("<&", 0, .duplicate),
    (">", 1, .write), ("<", 0, .read)]

/-- A redirection, if one comes next. -/
def redirection? : Reading (Option Redirection) := do
  let start ← remaining
  let digits := start.takeWhile Char.isDigit
  let after := start.drop digits.length
  let given := (String.ofList digits).toNat?
  if "<<".toList.isPrefixOf after then
    let dropTabs := "<<-".toList.isPrefixOf after
    goOn (after.drop (if dropTabs then 3 else 2))
    return some ⟨given.getD 0, .here, ← takeHere dropTabs⟩
  else
    match openings.find? fun (operator, _) => operator.toList.isPrefixOf after with
    | none => return none
    | some (operator, usual, opening) =>
      goOn (after.drop operator.length)
      skipBlanks
      if !(← atWord) then refuseNext none
      return some ⟨given.getD usual, opening, ← takeWord⟩

/-- The redirections that come next. -/
def readRedirections : Nat → Reading (List Redirection)
  | 0 => return []
  | fuel + 1 => do
    skipBlanks
    match ← redirection? with
    | some r => return r :: (← readRedirections fuel)
    | none => return []

/-! ## Simple commands -/

/-- The parts of a simple command. -/
structure Parts where
  /-- The assignments in front. -/
  assignments : List (Chars × Word) := []
  /-- The words. -/
  words : List Word := []
  /-- The redirections. -/
  redirections : List Redirection := []

/-- The name and the value of an assignment. -/
def assignment? (text : Chars) : Option (Chars × Chars) :=
  let name := text.takeWhile (· ≠ '=')
  if isName name && name.length < text.length then some (name, text.drop (name.length + 1))
  else none

/-- The parts of a simple command. -/
def readParts : Nat → Parts → Reading Parts
  | 0, p => return p
  | fuel + 1, p => do
    skipBlanks
    match ← redirection? with
    | some r => readParts fuel { p with redirections := p.redirections ++ [r] }
    | none =>
      if ← atWord then
        let start ← remaining
        match if p.words.isEmpty then assignment? start else none with
        | some (name, value) =>
          goOn value
          let word ← if ← atWord then takeWord else pure []
          readParts fuel { p with assignments := p.assignments ++ [(name, word)] }
        | none => readParts fuel { p with words := p.words ++ [← takeWord] }
      else return p

/-- The name of a function whose definition begins with these parts. -/
def definedName? (p : Parts) : Option Chars :=
  match p.words, p.assignments, p.redirections with
  | [word], [], [] => (plainChars? word).filter isName
  | _, _, _ => none

/-- A simple command, or the definition of a function. -/
def readSimple (command : Reading Script) : Reading Script := do
  let line := (← get).line
  let p ← readParts ((← remaining).length + 1) {}
  match definedName? p with
  | some name =>
    if ← accept "(" then
      skipBlanks
      if !(← accept ")") then refuseNext (some ")")
      skipLines
      return .define name (← command)
    else return .simple line p.assignments p.words p.redirections
  | none =>
    if p.assignments.isEmpty && p.words.isEmpty && p.redirections.isEmpty then refuseNext none
    else return .simple line p.assignments p.words p.redirections

/-! ## Lists of commands -/

/-- Commands that read each other's output. -/
def readPipeline (command : Reading Script) : Nat → Reading Script
  | 0 => command
  | fuel + 1 => do
    let first ← command
    skipBlanks
    let rest ← remaining
    if rest.head? = some '|' && rest[1]? ≠ some '|' then
      goOn (rest.drop 1)
      skipLines
      return .pipe first (← readPipeline command fuel)
    else return first

/-- A pipeline whose success may count as failure. -/
def readNegatable (command : Reading Script) : Reading Script := do
  let fuel := (← remaining).length + 1
  if ← acceptWord "!" then
    skipBlanks
    return .negated (← readPipeline command fuel)
  else readPipeline command fuel

/-- What follows pipelines that depend on the success of those before. -/
def readDependent (command : Reading Script) : Nat → Script → Reading Script
  | 0, first => return first
  | fuel + 1, first => do
    skipBlanks
    if ← accept "&&" then
      skipLines
      readDependent command fuel (.both first (← readNegatable command))
    else if ← accept "||" then
      skipLines
      readDependent command fuel (.either first (← readNegatable command))
    else return first

/-- Pipelines that depend on each other's success. -/
def readAndOr (command : Reading Script) : Reading Script := do
  let fuel := (← remaining).length + 1
  readDependent command fuel (← readNegatable command)

/-- Whether a list of commands ends here. -/
def atEnd : Reading Bool := do
  let rest ← remaining
  if rest.isEmpty || rest.head? = some ')' || ";;".toList.isPrefixOf rest then return true
  else match ← reserved? with
    | some word => return closingWords.contains word
    | none => return false

/-- Skips what separates two commands, if it comes next; a line end counts if `lines` is set. -/
def acceptSeparator (lines : Bool) : Reading Bool := do
  skipBlanks
  let rest ← remaining
  match rest with
  | ';' :: ';' :: _ => return false
  | c :: rest =>
    if c = ';' || c = '&' || (c = '\n' && lines) then
      goOn rest
      return true
    else return false
  | [] => return false

/-- Two commands, one after the other, unless one of them is none. -/
def Script.andThen (first second : Script) : Script :=
  match second with
  | .nothing => first
  | second => .sequence first second

/-- A list of commands up to what ends it. -/
def readList (command : Reading Script) : Nat → Reading Script
  | 0 => return .nothing
  | fuel + 1 => do
    skipLines
    if ← atEnd then return .nothing
    else
      let first ← readAndOr command
      if ← acceptSeparator true then return first.andThen (← readList command fuel)
      else return first

/-- The commands of a line. -/
def readLine (command : Reading Script) : Nat → Reading Script
  | 0 => return .nothing
  | fuel + 1 => do
    let first ← readAndOr command
    if ← acceptSeparator false then
      skipBlanks
      let rest ← remaining
      if rest.isEmpty || rest.head? = some '\n' then return first
      else return first.andThen (← readLine command fuel)
    else
      let rest ← remaining
      if rest.isEmpty || rest.head? = some '\n' then return first else refuseNext none

/-! ## Commands that hold commands -/

/-- A list of commands. -/
def readBody (command : Reading Script) : Reading Script := do
  readList command ((← remaining).length + 1)

/-- The rest of a choice, after its first word. -/
def readChoice (command : Reading Script) : Nat → Reading Script
  | 0 => return .nothing
  | fuel + 1 => do
    let condition ← readBody command
    expectWord "then"
    let whenTrue ← readBody command
    if ← acceptWord "elif" then return .choice condition whenTrue (← readChoice command fuel)
    else if ← acceptWord "else" then
      let whenFalse ← readBody command
      expectWord "fi"
      return .choice condition whenTrue whenFalse
    else
      expectWord "fi"
      return .choice condition whenTrue .nothing

/-- The body of a loop. -/
def readLoopBody (command : Reading Script) : Reading Script := do
  expectWord "do"
  let body ← readBody command
  expectWord "done"
  return body

/-- The words up to the end of a line. -/
def readWords : Nat → Reading (List Word)
  | 0 => return []
  | fuel + 1 => do
    skipBlanks
    if ← atWord then
      let word ← takeWord
      return word :: (← readWords fuel)
    else return []

/-- The rest of a loop over words, after its first word. -/
def readEach (command : Reading Script) : Reading Script := do
  skipBlanks
  let name := (plainChars? (← takeWord)).getD []
  skipLines
  let words ← if ← acceptWord "in" then do
      pure (some (← readWords ((← remaining).length + 1)))
    else pure none
  let _ ← acceptSeparator true
  skipLines
  return .each name words (← readLoopBody command)

/-- The patterns of a branch. -/
def readPatterns : Nat → Reading (List Word)
  | 0 => return []
  | fuel + 1 => do
    skipBlanks
    if !(← atWord) then refuseNext none
    let word ← takeWord
    skipBlanks
    if ← accept "|" then return word :: (← readPatterns fuel) else return [word]

/-- The branches that a word is matched against. -/
def readBranches (command : Reading Script) : Nat → Reading (List (List Word × Script))
  | 0 => return []
  | fuel + 1 => do
    skipLines
    if ← acceptWord "esac" then return []
    else
      let _ ← accept "("
      let patterns ← readPatterns ((← remaining).length + 1)
      if !(← accept ")") then refuseNext (some ")")
      let body ← readBody command
      skipLines
      if ← accept ";;" then return (patterns, body) :: (← readBranches command fuel)
      else
        expectWord "esac"
        return [(patterns, body)]

/-- The rest of a command that chooses by patterns, after its first word. -/
def readCases (command : Reading Script) : Reading Script := do
  skipBlanks
  let word ← takeWord
  skipLines
  expectWord "in"
  return .branches word (← readBranches command ((← remaining).length + 1))

/-- A command that holds commands, with its redirections; nothing if none comes next. -/
def compound? (command : Reading Script) : Reading (Option Script) := do
  let fuel := (← remaining).length + 1
  if ← accept "(" then
    let body ← readBody command
    if ← accept ")" then return some (.copied body) else refuseNext (some ")")
  else if ← acceptWord "\x7b" then
    let body ← readBody command
    expectWord "\x7d"
    return some body
  else if ← acceptWord "if" then return some (← readChoice command fuel)
  else if ← acceptWord "while" then
    let condition ← readBody command
    return some (.loop true condition (← readLoopBody command))
  else if ← acceptWord "until" then
    let condition ← readBody command
    return some (.loop false condition (← readLoopBody command))
  else if ← acceptWord "for" then return some (← readEach command)
  else if ← acceptWord "case" then return some (← readCases command)
  else return none

/-- A command, with commands nested at most `depth` deep. -/
def readCommand : Nat → Reading Script
  | 0 => refuseNext none
  | depth + 1 => do
    skipBlanks
    let line := (← get).line
    match ← compound? (readCommand depth) with
    | some body =>
      let redirections ← readRedirections ((← remaining).length + 1)
      return if redirections.isEmpty then body else .redirected line body redirections
    | none =>
      if ← atEnd then refuseNext none
      else readSimple (readCommand depth)

/-- The commands of the next line that has some; nothing at the end of the script. -/
def nextLine : Reading (Option Script) := do
  skipLines
  let rest ← remaining
  if rest.isEmpty then return none
  else return some (← readLine (readCommand (rest.length + 1)) (rest.length + 1))

end CompilerTest.Shell

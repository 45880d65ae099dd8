import CompilerTest.Session

/-!
# Options

What the arguments of the program ask for. Options may be abbreviated as long as it is clear which
one is meant, and their values may follow an equals sign; after two dashes every argument is a file.
Ambiguous options are refused first, then options and files are taken one after the other.
-/

namespace CompilerTest.Cli

/-- An option. -/
inductive OptionName where
  | help
  | config
  | annotations
  | revision
  | auxDir
  | bless
  | check
  | ignoreOutput
  | logLevel
  deriving DecidableEq, Repr

/-- The ways in which options are written. -/
def spellings : List (String × OptionName) :=
  [("-h", .help), ("--help", .help), ("--config", .config), ("--annotations", .annotations),
    ("--revision", .revision), ("--aux-dir", .auxDir), ("--bless", .bless), ("--check", .check),
    ("--ignore-output", .ignoreOutput), ("--log-level", .logLevel)]

namespace OptionName

/-- An option as messages show it: all of its spellings. -/
def label (o : OptionName) : String :=
  String.intercalate "/" ((spellings.filter (·.2 = o)).map Prod.fst)

/-- Whether an option has a value. -/
def takesValue : OptionName → Bool
  | config => true
  | annotations => true
  | revision => true
  | auxDir => true
  | logLevel => true
  | _ => false

end OptionName

/-! ## Refusals -/

/-- Why arguments are refused. -/
inductive UsageError where
  /-- An abbreviation could mean several options. -/
  | ambiguous (written : String) (candidates : List String)
  /-- Something is missing that has to be given. -/
  | missing (names : List String)
  /-- An option lacks its value. -/
  | valueExpected (option : OptionName)
  /-- An option has a value that it must not have. -/
  | valueIgnored (option : OptionName) (value : String)
  /-- A text is no level of the log. -/
  | badLevel (value : String)
  /-- An option excludes another one. -/
  | excluded (option other : OptionName)
  /-- Arguments are left over. -/
  | leftOver (arguments : List String)
  deriving DecidableEq, Repr

/-- The names of the levels of the log. -/
def levelNames : List String := ["DEBUG", "INFO", "WARNING", "ERROR"]

/-- A complaint about an option. -/
def aboutOption (option : OptionName) (text : String) : String :=
  s!"argument {option.label}: " ++ text

/-- The wording of a refusal. -/
def UsageError.message : UsageError → String
  | ambiguous written candidates =>
    s!"ambiguous option: {written} could match " ++ String.intercalate ", " candidates
  | missing names =>
    "the following arguments are required: " ++ String.intercalate ", " names
  | valueExpected option => aboutOption option "expected one argument"
  | valueIgnored option value =>
    aboutOption option ("ignored explicit argument " ++ Text.quote value)
  | badLevel value =>
    aboutOption .logLevel ("invalid choice: " ++ Text.quote value ++ " (choose from " ++
      Text.quoteList levelNames ++ ")")
  | excluded option other => aboutOption option ("not allowed with argument " ++ other.label)
  | leftOver arguments => "unrecognized arguments: " ++ String.intercalate " " arguments

/-! ## Tokens -/

/-- What an argument counts as. -/
inductive Token where
  /-- A file or a value. -/
  | operand (text : String)
  /-- Two dashes. -/
  | dashes
  /-- An option, with a value in the same argument. -/
  | option (name : OptionName) (value : Option String)
  /-- The letter for help after a single dash, with further letters. -/
  | letters (rest : List Char)
  /-- An option that there is not. -/
  | unknown (text : String)
  deriving DecidableEq, Repr

/-- Cuts an argument at its first equals sign. -/
def cutValue (text : List Char) : List Char × Option String :=
  let name := text.takeWhile (· ≠ '=')
  (name, if name.length < text.length then some (String.ofList (text.drop (name.length + 1)))
    else none)

/-- The options that an abbreviation may stand for, with its value. -/
def abbreviated (text : List Char) : List (String × Token) :=
  match text with
  | '-' :: '-' :: _ =>
    let (name, value) := cutValue text
    spellings.filterMap fun (spelling, o) =>
      if name.isPrefixOf spelling.toList then some (spelling, .option o value) else none
  | '-' :: c :: rest =>
    spellings.filterMap fun (spelling, o) =>
      if spelling.toList = ['-', c] && o = .help then
        some (spelling, .letters rest)
      else none
  | _ => []

/-- Whether characters are digits, at least one. -/
def areDigits (cs : List Char) : Bool :=
  !cs.isEmpty && cs.all fun c => (Unicode.digitValue? c.toNat).isSome

/-- Whether an argument is a negative number. -/
def isNegativeNumber (text : List Char) : Bool :=
  match text with
  | '-' :: cs =>
    let cs := if cs.getLast? = some '\n' then cs.dropLast else cs
    let fraction := (cs.dropWhile (· ≠ '.')).drop 1
    let whole := cs.takeWhile (· ≠ '.')
    areDigits cs || ((whole.isEmpty || areDigits whole) && areDigits fraction)
  | _ => false

/-- What an argument counts as. -/
def classify (text : String) : Except UsageError Token :=
  let cs := text.toList
  let (name, value) := cutValue cs
  if cs.head? ≠ some '-' then .ok (.operand text)
  else if let some o := spellings.lookup text then .ok (.option o none)
  else if cs.length = 1 then .ok (.operand text)
  else if let (some o, some value) := (spellings.lookup (String.ofList name), value) then
    .ok (.option o (some value))
  else match abbreviated cs with
    | [(_, token)] => .ok token
    | [] =>
      if isNegativeNumber cs || cs.contains ' ' then .ok (.operand text) else .ok (.unknown text)
    | candidates => .error (.ambiguous text (candidates.map Prod.fst))

/-- What arguments count as; after two dashes they are operands. -/
def tokensOf : List String → Except UsageError (List Token)
  | [] => .ok []
  | "--" :: rest => .ok (.dashes :: rest.map .operand)
  | text :: rest => do
    let token ← classify text
    return token :: (← tokensOf rest)

/-! ## Reading tokens -/

/-- Why the program does not go on to its work. -/
inductive Refusal where
  /-- Help was asked for. -/
  | help
  /-- The arguments are wrong. -/
  | usage (error : UsageError)
  deriving DecidableEq, Repr

/-- What the tokens so far ask for. -/
structure Reading where
  /-- The test file. -/
  file : Option Path := none
  /-- The configuration document. -/
  config : Option Path := none
  /-- The document of directives. -/
  annotations : Option Path := none
  /-- The revisions to run. -/
  revisions : List String := []
  /-- The directory of files that tests need. -/
  auxDir : Option Path := none
  /-- The option that says what happens to expected output that differs. -/
  handling : Option OptionName := none
  /-- The least severity of the log. -/
  severity : Severity := .warning
  /-- The arguments that are left over. -/
  extras : List String := []

namespace Reading

/-- Takes an option without a value. -/
def setOption (r : Reading) (o : OptionName) : Except Refusal Reading :=
  if o = .help then .error .help
  else match r.handling with
    | some other =>
      if other = o then .ok r else .error (.usage (.excluded o other))
    | none => .ok { r with handling := some o }

/-- Takes an option with its value. -/
def setValue (r : Reading) (o : OptionName) (value : String) : Except Refusal Reading :=
  match o with
  | .config => .ok { r with config := some (.ofText value) }
  | .annotations => .ok { r with annotations := some (.ofText value) }
  | .revision => .ok { r with revisions := r.revisions ++ [value] }
  | .auxDir => .ok { r with auxDir := some (.ofText value) }
  | .logLevel =>
    match Severity.ofName? value with
    | some severity => .ok { r with severity }
    | none => .error (.usage (.badLevel value))
  | o => .error (.usage (.valueIgnored o value))

/-- Why the letter for help, followed by further characters, ends the reading. It asks for help,
unless a value or a dash comes after it or after further letters of its kind. -/
def refusalOfLetters : List Char → Refusal
  | '-' :: rest => .usage (.valueIgnored .help (String.ofList ('-' :: rest)))
  | 'h' :: '=' :: value => .usage (.valueIgnored .help (String.ofList value))
  | 'h' :: rest => refusalOfLetters rest
  | _ => .help

/-- Adds an argument that is left over. -/
def addExtra (r : Reading) (text : String) : Reading := { r with extras := r.extras ++ [text] }

/-- Takes tokens one after the other. -/
def read (r : Reading) : List Token → Except Refusal Reading
  | [] => .ok r
  | .letters others :: _ => .error (refusalOfLetters others)
  | .option o (some value) :: rest => do
    if o.takesValue then read (← r.setValue o value) rest
    else .error (.usage (.valueIgnored o value))
  | .option o none :: rest => do
    if o.takesValue then
      match rest with
      | .operand value :: rest => read (← r.setValue o value) rest
      | _ => .error (.usage (.valueExpected o))
    else read (← r.setOption o) rest
  | .unknown text :: rest => read (r.addExtra text) rest
  | .dashes :: .operand value :: rest =>
    if r.file.isNone then read { r with file := some (.ofText value) } rest
    else read ((r.addExtra "--").addExtra value) rest
  | .dashes :: rest => read (r.addExtra "--") rest
  | .operand value :: .dashes :: rest =>
    if r.file.isNone then read { r with file := some (.ofText value) } rest
    else read ((r.addExtra value).addExtra "--") rest
  | .operand value :: rest =>
    if r.file.isNone then read { r with file := some (.ofText value) } rest
    else read (r.addExtra value) rest

end Reading

/-- What the program is asked to do. -/
structure Options where
  /-- The test file. -/
  file : Path
  /-- The configuration document. -/
  config : Path
  /-- The document of directives. -/
  annotations : Path
  /-- The revisions to run. -/
  revisions : List String
  /-- The directory of files that tests need. -/
  auxDir : Option Path
  /-- What happens to expected output that differs, if the configuration does not decide it. -/
  handling : Option ConflictHandling
  /-- The least severity of the log. -/
  severity : Severity

/-- What happens to expected output that differs, as an option says it. -/
def handlingOf : OptionName → Option ConflictHandling
  | .bless => some .bless
  | .check => some .error
  | .ignoreOutput => some .ignore
  | _ => none

/-- The names of what is missing. -/
def missingNames (r : Reading) : List String :=
  (if r.file.isNone then ["file"] else []) ++
    (if r.config.isNone then [OptionName.config.label] else []) ++
    (if r.annotations.isNone then [OptionName.annotations.label] else [])

/-- What all tokens together ask for. -/
def settle (r : Reading) : Except Refusal Options :=
  match r.file, r.config, r.annotations with
  | some file, some config, some annotations =>
    if r.extras.isEmpty then
      .ok { file, config, annotations, revisions := r.revisions, auxDir := r.auxDir
            handling := r.handling.bind handlingOf, severity := r.severity }
    else .error (.usage (.leftOver r.extras))
  | _, _, _ => .error (.usage (.missing (missingNames r)))

/-- What arguments ask for. -/
def Options.ofArguments (arguments : List String) : Except Refusal Options := do
  let tokens ← (tokensOf arguments).mapError .usage
  settle (← Reading.read {} tokens)

end CompilerTest.Cli

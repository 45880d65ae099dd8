import CompilerTest.Fault

/-!
# Decoding diagnostics

A compiler writes its diagnostics as JSON objects, one per line, among lines of other output. Other
lines are kept as they are; a diagnostic is replaced by its rendered text, and its message and those
of its children, at any depth, are sorted into buckets. A diagnostic stands on the line of its first
primary span in the tested file, or else where its parent stands.
-/

namespace CompilerTest

/-- The line of a span as a compiler gives it. A truth value counts as zero or one. -/
inductive LineMark where
  /-- A number. -/
  | number (value : Int)
  /-- A truth value. -/
  | truth (value : Bool)
  deriving DecidableEq, Repr

/-- The number that a line counts as. -/
def LineMark.value : LineMark → Int
  | number n => n
  | truth b => if b then 1 else 0

namespace Diagnostics

/-- The files and the tested file that diagnostics are about. -/
structure Subject where
  /-- The files. -/
  tree : FileTree
  /-- The tested file. -/
  file : Path

/-! ## Spans -/

/-- Whether a path names the tested file: by its text or by its real path. -/
def Subject.isTested (s : Subject) (candidate : Path) : Except Fault Bool :=
  if candidate = s.file then .ok true
  else do
    let real (p : Path) : Except Fault (Option Path) :=
      match s.tree.realPath false p with
      | .ok real => .ok (some real)
      | .error (.file error) =>
        if error.problem = .hasNull then .error (.file error) else .ok none
      | .error (.loop shown) => .error (.linkLoop shown)
    match ← real candidate with
    | none => return false
    | some a =>
      match ← real s.file with
      | none => return false
      | some b => return a = b

/-- A surrogate that stands for a single byte of a file name. -/
def isByteMark (c : Nat) : Bool := 0xdc80 ≤ c && c ≤ 0xdcff

/-- The text that stands in for a file name with single bytes. Such a byte is written so long that
the part of the name around it leads to no file, just as a name that is no text does. -/
def bytewiseName (codes : List Nat) : String :=
  String.ofList (codes.flatMap fun c =>
    if isByteMark c then List.replicate (FileTree.nameLimit + 1) '\ufffd' else [Char.ofNat c])

/-- Whether a file name in a diagnostic names the tested file. A name with a lone surrogate is no
file name, except for the surrogates that stand for single bytes. -/
def Subject.names (s : Subject) : Json → Except Fault Bool
  | .text name => s.isTested (.ofText name)
  | .broken codes =>
    if codes.any fun c => 0xd800 ≤ c && c < 0xe000 && !isByteMark c then .error .unencodable
    else s.isTested (.ofText (bytewiseName codes))
  | _ => .ok false

/-- The line that a value stands for. -/
def lineOf? : Json → Option LineMark
  | .number (.int n) => some (.number n)
  | .bool b => some (.truth b)
  | _ => none

/-- The line of a span, if the span is primary and in the tested file. -/
def spanLine? (s : Subject) (span : Json) : Except Fault (Option LineMark) :=
  if ((span.get? "is_primary").getD .null).truthy then
    match span.get? "file_name", (span.get? "line_start").bind lineOf? with
    | some name, some line => do return if ← s.names name then some line else none
    | _, _ => .ok none
  else .ok none

/-- The line of the first span of a list that is primary and in the tested file. -/
def firstLine? (s : Subject) : List Json → Except Fault (Option LineMark)
  | [] => .ok none
  | span :: rest => do
    match ← spanLine? s span with
    | some line => return some line
    | none => firstLine? s rest

/-- The line of the first primary span in the tested file, among spans of any shape. -/
def primaryLine (s : Subject) : Json → Except Fault (Option LineMark)
  | .array spans => firstLine? s spans
  | _ => .ok none

/-! ## Diagnostics -/

/-- The code of a diagnostic: a text that is not empty, or such a text in an object. -/
def codeOf (payload : Json) : Option String :=
  let code := (payload.get? "code").getD .null
  let code := match code with
    | .object ms => (Json.object ms |>.get? "code").getD .null
    | code => code
  code.text?.filter (· ≠ "")

/-- What decoding has found so far. -/
structure Decoding where
  /-- The messages. -/
  diagnostics : Diagnostics := {}
  /-- The warnings, in order. -/
  warnings : List String := []
  deriving DecidableEq, Repr, Inhabited

/-- Adds the message of a diagnostic on a line; one of an unknown level gives a warning. -/
def addOwn (line : Option Int) (payload : Json) (d : Decoding) : Decoding :=
  let level := (payload.get? "level").getD (.text "")
  match Level.ofText? level.asText with
  | none =>
    let warning := "skipping diagnostic with unknown level " ++ level.display
    { d with warnings := d.warnings ++ [warning] }
  | some level =>
    let m : Message :=
      { level, text := ((payload.get? "message").getD (.text "")).asText, code := codeOf payload }
    { d with diagnostics := d.diagnostics.push line m }

mutual

/-- Adds the messages of a diagnostic and of its children; anything but an object has none. -/
def insertTree (s : Subject) (parent : Option Int) : Json → Decoding → Except Fault Decoding
  | .object ms, d => do
    let payload := Json.object ms
    let own ← primaryLine s ((payload.get? "spans").getD .null)
    let line := (own.map LineMark.value).or parent
    insertMembers s line ms (addOwn line payload d)
  | _, d => .ok d

/-- Adds the messages of the children among the members of a diagnostic. -/
def insertMembers (s : Subject) (line : Option Int) :
    List (String × Json) → Decoding → Except Fault Decoding
  | [], d => .ok d
  | (name, value) :: rest, d =>
    if name = "children" then insertChildren s line value d else insertMembers s line rest d

/-- Adds the messages of children. A value that cannot be taken apart is a fault, unless it stands
for nothing. -/
def insertChildren (s : Subject) (line : Option Int) : Json → Decoding → Except Fault Decoding
  | .array items, d => insertItems s line items d
  | .number n, d => if n.isZero then .ok d else .error (.childrenOfKind (.number n))
  | .bool b, d => if b then .error (.childrenOfKind (.bool b)) else .ok d
  | _, d => .ok d

/-- Adds the messages of several diagnostics. -/
def insertItems (s : Subject) (line : Option Int) : List Json → Decoding → Except Fault Decoding
  | [], d => .ok d
  | v :: rest, d => do insertItems s line rest (← insertTree s line v d)

end

/-! ## Output -/

/-- The code points of a line. A zero byte after the opening brace tells that the line is written in
units of two bytes or, if two more follow, of four. -/
def decodeLine (line : Bytes) : Option (List Nat) :=
  match line with
  | [_, 0] => line.units16?.map Bytes.fromUnits16
  | _ :: 0 :: 0 :: 0 :: _ => Bytes.fromUnits32? line
  | _ :: 0 :: _ :: _ :: _ => line.units16?.map Bytes.fromUnits16
  | _ => line.codes?

/-- Adds a part of the output as a user would see it. -/
def addRendered (bytes : Bytes) (d : Decoding) : Decoding :=
  { d with diagnostics := { d.diagnostics with rendered := d.diagnostics.rendered ++ bytes } }

/-- Adds a line that looks like a diagnostic but cannot be read. -/
def addUnreadable (line stripped : Bytes) (d : Decoding) : Decoding :=
  let warning := "unparseable diagnostic line: " ++ Text.quoteBytes (stripped.take 80)
  addRendered line { d with warnings := d.warnings ++ [warning] }

/-- Adds a diagnostic, given with the line that it was read from. -/
def addDiagnostic (s : Subject) (line : Bytes) (payload : Json) (d : Decoding) :
    Except Fault Decoding :=
  if payload.has "message" && payload.has "level" then
    match payload.get? "rendered" with
    | some (.text shown) => insertTree s none payload (addRendered (Bytes.ofText shown) d)
    | some (.broken _) => .error .unencodable
    | _ => insertTree s none payload d
  else .ok (addRendered line d)

/-- Adds a line of output. -/
def addLine (s : Subject) (d : Decoding) (line : Bytes) : Except Fault Decoding :=
  let stripped := line.strip
  if stripped.head? ≠ some 0x7b then .ok (addRendered line d)
  else match decodeLine stripped with
    | none => .ok (addUnreadable line stripped d)
    | some text =>
      match Json.parseCodes text with
      | .ok payload => addDiagnostic s line payload d
      | .error (.malformed ..) => .ok (addUnreadable line stripped d)
      | .error (.tooLong digits) => .error (.longNumber digits)
      | .error .tooDeep => .error .deepDocument

/-- Decodes the output of a compiler. -/
def decode (s : Subject) (output : Bytes) : Except Fault Decoding :=
  output.lines.foldlM (addLine s) {}

end Diagnostics

end CompilerTest

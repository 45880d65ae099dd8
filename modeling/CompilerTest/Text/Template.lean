import CompilerTest.Text.Quoted

/-!
# Templates

A template is a text with fields in braces; a brace that is meant as such is written twice. A field
names a value, may pick a single character of it, may ask for it between quotes, and may lay it out
in a width. A layout may itself hold fields.
-/

namespace CompilerTest.Text

/-- What is wrong with a template. -/
inductive TemplateDefect where
  | singleClosing
  | singleOpening
  | openingInName
  | unclosedField
  | unclosedLayout
  | missingConversion
  | textAfterConversion
  | unknownConversion (c : Char)
  | tooDeep
  | missingBracket
  | textAfterBracket
  | emptyPart
  | tooManyDigits
  | bothSeparators
  | missingPrecision
  | invalidLayout (layout : String)
  | badSeparator (separator type : Char)
  | unknownType (type : Char)
  | sign
  | spaceSign
  | negativeZero
  | alternateForm
  | numericAlignment
  deriving DecidableEq, Repr

/-- A character in a message: itself if it is a visible ASCII character, its number otherwise. -/
def shownChar (limit : Nat) (c : Char) : String :=
  if 32 < c.toNat && c.toNat < limit then c.toString
  else "\\x" ++ String.ofList (Nat.toDigits 16 c.toNat)

/-- The wording of a defect. -/
def TemplateDefect.message : TemplateDefect → String
  | singleClosing => "Single '\x7d' encountered in format string"
  | singleOpening => "Single '\x7b' encountered in format string"
  | openingInName => "unexpected '\x7b' in field name"
  | unclosedField => "expected '\x7d' before end of string"
  | unclosedLayout => "unmatched '\x7b' in format spec"
  | missingConversion => "end of string while looking for conversion specifier"
  | textAfterConversion => "expected ':' after conversion specifier"
  | unknownConversion c => "Unknown conversion specifier " ++ shownChar 127 c
  | tooDeep => "Max string recursion exceeded"
  | missingBracket => "Missing ']' in format string"
  | textAfterBracket => "Only '.' or '[' may follow ']' in format field specifier"
  | emptyPart => "Empty attribute in format string"
  | tooManyDigits => "Too many decimal digits in format string"
  | bothSeparators => "Cannot specify both ',' and '_'."
  | missingPrecision => "Format specifier missing precision"
  | invalidLayout layout => s!"Invalid format specifier '{layout}' for object of type 'str'"
  | badSeparator separator type =>
    s!"Cannot specify '{separator}' with '" ++ shownChar 128 type ++ "'."
  | unknownType type =>
    "Unknown format code '" ++ shownChar 128 type ++ "' for object of type 'str'"
  | sign => "Sign not allowed in string format specifier"
  | spaceSign => "Space not allowed in string format specifier"
  | negativeZero => "Negative zero coercion (z) not allowed in string format specifier"
  | alternateForm => "Alternate form (#) not allowed in string format specifier"
  | numericAlignment => "'=' alignment not allowed in string format specifier"

/-- Why a template cannot be filled in. -/
inductive TemplateError where
  /-- It is malformed. -/
  | malformed (defect : TemplateDefect)
  /-- It names a value that there is not. -/
  | unknownName (name : String)
  /-- It asks for a value by position, or for a character that a value does not have. -/
  | badIndex
  /-- It asks for a character of a value by something that is no number. -/
  | badKey
  /-- It asks for an attribute of a value. -/
  | noAttribute (name : String)
  /-- It asks for a text that is too long to be built. -/
  | tooWide
  deriving DecidableEq, Repr

/-- The wording of a template error. -/
def TemplateError.message : TemplateError → String
  | malformed defect => defect.message
  | unknownName name => "unknown name " ++ quote name
  | badIndex => "there is no value or character at this position"
  | badKey => "the position of a character is no number"
  | noAttribute name => "a text has no attribute " ++ quote name
  | tooWide => "the text is too long"

/-- Refuses a template. -/
def refuse {α : Type} (defect : TemplateDefect) : Except TemplateError α :=
  .error (.malformed defect)

/-! ## Layout -/

/-- How a text is laid out. -/
structure TextLayout where
  /-- The character that fills the width. -/
  fill : Char := ' '
  /-- Whether the fill character was given. -/
  filled : Bool := false
  /-- Where the text stands in the width. -/
  align : Char := '<'
  /-- The sign that was asked for. -/
  sign : Option Char := none
  /-- Whether zeros were asked to lose their sign. -/
  negativeZero : Bool := false
  /-- Whether the alternate form was asked for. -/
  alternate : Bool := false
  /-- The width, if one was given. -/
  width : Option Nat := none
  /-- The separator that was asked for. -/
  separator : Option Char := none
  /-- The greatest number of characters, if one was given. -/
  precision : Option Nat := none
  /-- The type that was asked for. -/
  type : Char := 's'

/-- Whether a character says where a text stands in the width. -/
def isAlignment (c : Char) : Bool := c == '<' || c == '>' || c == '=' || c == '^'

/-- A number at the front, of any script. -/
def scanNumber (cs : List Char) : Except TemplateError (Option Nat × List Char) :=
  let ds := cs.takeWhile fun c => (Unicode.digitValue? c.toNat).isSome
  let n := ds.foldl (fun n c => 10 * n + (Unicode.digitValue? c.toNat).getD 0) 0
  if ds.isEmpty then .ok (none, cs)
  else if n ≥ Nat.pow 2 63 then refuse .tooManyDigits
  else .ok (some n, cs.drop ds.length)

/-- The alignment at the front, with the fill character before it. -/
def scanAlignment (l : TextLayout) : List Char → TextLayout × List Char
  | f :: a :: rest =>
    if isAlignment a then ({ l with fill := f, filled := true, align := a }, rest)
    else if isAlignment f then ({ l with align := f }, a :: rest)
    else (l, f :: a :: rest)
  | [a] => if isAlignment a then ({ l with align := a }, []) else (l, [a])
  | [] => (l, [])

/-- The sign and the flags at the front. -/
def scanFlags (l : TextLayout) (cs : List Char) : TextLayout × List Char :=
  let (l, cs) : TextLayout × List Char := match cs with
    | c :: rest =>
      if c == ' ' || c == '+' || c == '-' then ({ l with sign := some c }, rest) else (l, cs)
    | [] => (l, cs)
  let (l, cs) : TextLayout × List Char := match cs with
    | 'z' :: rest => ({ l with negativeZero := true }, rest)
    | _ => (l, cs)
  let (l, cs) : TextLayout × List Char := match cs with
    | '#' :: rest => ({ l with alternate := true }, rest)
    | _ => (l, cs)
  match cs with
  | '0' :: rest => if l.filled then (l, cs) else ({ l with fill := '0' }, rest)
  | _ => (l, cs)

/-- The separator at the front. -/
def scanSeparator (l : TextLayout) (cs : List Char) :
    Except TemplateError (TextLayout × List Char) :=
  match cs with
  | ',' :: '_' :: _ => refuse .bothSeparators
  | '_' :: ',' :: _ => refuse .bothSeparators
  | ',' :: rest => .ok ({ l with separator := some ',' }, rest)
  | '_' :: rest => .ok ({ l with separator := some '_' }, rest)
  | _ => .ok (l, cs)

/-- The precision at the front. -/
def scanPrecision (l : TextLayout) (cs : List Char) :
    Except TemplateError (TextLayout × List Char) :=
  match cs with
  | '.' :: rest => do
    match ← scanNumber rest with
    | (none, _) => refuse .missingPrecision
    | (some n, rest) => return ({ l with precision := some n }, rest)
  | _ => .ok (l, cs)

/-- Refuses a separator for a type that takes none. -/
def checkSeparator (l : TextLayout) : Except TemplateError Unit :=
  match l.separator with
  | none => .ok ()
  | some s =>
    if "defgEG%F".toList.contains l.type || (s == '_' && "boxX".toList.contains l.type) then .ok ()
    else refuse (.badSeparator s l.type)

/-- Reads a layout. -/
def readLayout (spec : List Char) : Except TemplateError TextLayout := do
  let (l, cs) := scanAlignment { } spec
  let (l, cs) := scanFlags l cs
  let (width, cs) ← scanNumber cs
  let (l, cs) ← scanSeparator { l with width } cs
  let (l, cs) ← scanPrecision l cs
  let l ← match cs with
    | [] => pure l
    | [type] => pure { l with type }
    | _ => refuse (.invalidLayout (String.ofList spec))
  checkSeparator l
  return l

/-- Refuses what makes no sense for a text. -/
def checkLayout (l : TextLayout) : Except TemplateError Unit :=
  if l.type ≠ 's' then refuse (.unknownType l.type)
  else if l.sign = some ' ' then refuse .spaceSign
  else if l.sign.isSome then refuse .sign
  else if l.negativeZero then refuse .negativeZero
  else if l.alternate then refuse .alternateForm
  else if l.align = '=' then refuse .numericAlignment
  else .ok ()

/-- The greatest width that is built. -/
def widthLimit : Nat := Nat.pow 2 32

/-- A text in a layout. -/
def layOut (l : TextLayout) (text : List Char) : Except TemplateError (List Char) :=
  let text := match l.precision with
    | some n => text.take n
    | none => text
  let room := (l.width.getD 0) - text.length
  if room > widthLimit then .error .tooWide
  else
    let before := if l.align = '>' then room else if l.align = '^' then room / 2 else 0
    .ok (List.replicate before l.fill ++ text ++ List.replicate (room - before) l.fill)

/-- A value in the layout that a field asks for. -/
def renderValue (spec : List Char) (value : List Char) : Except TemplateError (List Char) := do
  if spec.isEmpty then return value
  let l ← readLayout spec
  checkLayout l
  layOut l value

/-! ## Fields -/

/-- A field of a template. -/
structure Field where
  /-- The name of the value, with what is picked from it. -/
  name : List Char
  /-- The letter of the conversion, if there is one. -/
  conversion : Option Char
  /-- The layout. -/
  layout : List Char

/-- The name of a field and what follows it, with the character that ends it. What stands in
brackets belongs to the name. `acc` holds the name so far in reverse. -/
def scanName (inBrackets : Bool) (acc : List Char) :
    List Char → Except TemplateError (List Char × Char × List Char)
  | [] => refuse .unclosedField
  | c :: rest =>
    if inBrackets then scanName (c ≠ ']') (c :: acc) rest
    else if c = '\x7b' then refuse .openingInName
    else if c = '\x7d' || c = ':' || c = '!' then .ok (acc.reverse, c, rest)
    else scanName (c = '[') (c :: acc) rest

/-- The layout of a field and what follows its closing brace; `opened` counts the braces that are
open inside it. -/
def scanLayout (opened : Nat) (acc : List Char) :
    List Char → Except TemplateError (List Char × List Char)
  | [] => refuse .unclosedLayout
  | c :: rest =>
    if c = '\x7b' then scanLayout (opened + 1) (c :: acc) rest
    else if c = '\x7d' then
      match opened with
      | 0 => .ok (acc.reverse, rest)
      | opened + 1 => scanLayout opened (c :: acc) rest
    else scanLayout opened (c :: acc) rest

/-- Reads a field whose opening brace has been taken. -/
def scanField (cs : List Char) : Except TemplateError (Field × List Char) := do
  let (name, terminator, rest) ← scanName false [] cs
  if terminator = '\x7d' then return (⟨name, none, []⟩, rest)
  else if terminator = ':' then
    let (layout, rest) ← scanLayout 0 [] rest
    return (⟨name, none, layout⟩, rest)
  else
    match rest with
    | [] => refuse .missingConversion
    | c :: '\x7d' :: rest => return (⟨name, some c, []⟩, rest)
    | c :: ':' :: rest =>
      let (layout, rest) ← scanLayout 0 [] rest
      return (⟨name, some c, layout⟩, rest)
    | [_] => refuse .unclosedLayout
    | _ => refuse .textAfterConversion

/-- The part of a name that ends before the next point or bracket. -/
def isPlain (c : Char) : Bool := c ≠ '.' && c ≠ '['

/-- Picks from a value what the rest of a name asks for. `fuel` bounds the number of parts. What a
text offers under a name behind a point is left out: every such name is refused as unknown. -/
def pick : Nat → List Char → List Char → Except TemplateError (List Char)
  | 0, value, _ => .ok value
  | _ + 1, value, [] => .ok value
  | fuel + 1, value, c :: rest =>
    if c = '.' then
      let name := rest.takeWhile isPlain
      if name.isEmpty then refuse .emptyPart
      else .error (.noAttribute (String.ofList name))
    else if c = '[' then do
      let key := rest.takeWhile (· ≠ ']')
      if key.length = rest.length then refuse .missingBracket
      else if key.isEmpty then refuse .emptyPart
      else
        match ← scanNumber key with
        | (some n, []) =>
          match value[n]? with
          | some c => pick fuel [c] (rest.drop (key.length + 1))
          | none => .error .badIndex
        | _ => .error .badKey
    else refuse .textAfterBracket

/-- The value that a field names. -/
def lookUp (values : List (String × String)) (name : List Char) :
    Except TemplateError (List Char) := do
  let first := name.takeWhile isPlain
  let rest := name.drop first.length
  match ← scanNumber first with
  | (some _, []) => .error .badIndex
  | _ =>
    if first.isEmpty then .error .badIndex
    else match values.lookup (String.ofList first) with
      | none => .error (.unknownName (String.ofList first))
      | some value => pick (rest.length + 1) value.toList rest

/-- A value as a conversion asks for it. -/
def convert (conversion : Option Char) (value : List Char) : Except TemplateError (List Char) :=
  match conversion with
  | none => .ok value
  | some 's' => .ok value
  | some 'r' => .ok (quote (String.ofList value)).toList
  | some 'a' => .ok (quoteAscii (String.ofList value)).toList
  | some c => refuse (.unknownConversion c)

/-- Fills in a template, where `nested` fills in a layout. `fuel` bounds the number of
characters. -/
def fillWith (values : List (String × String))
    (nested : List Char → Except TemplateError (List Char)) :
    Nat → List Char → Except TemplateError (List Char)
  | 0, _ => .ok []
  | _ + 1, [] => .ok []
  | fuel + 1, c :: rest =>
    if c = '\x7d' then
      match rest with
      | '\x7d' :: rest => return c :: (← fillWith values nested fuel rest)
      | _ => refuse .singleClosing
    else if c = '\x7b' then
      match rest with
      | [] => refuse .singleOpening
      | '\x7b' :: rest => return c :: (← fillWith values nested fuel rest)
      | rest => do
        let (field, rest) ← scanField rest
        let value ← convert field.conversion (← lookUp values field.name)
        let layout ←
          if field.layout.contains '\x7b' then nested field.layout else pure field.layout
        let shown ← renderValue layout value
        return shown ++ (← fillWith values nested fuel rest)
    else return c :: (← fillWith values nested fuel rest)

/-- Fills in a template with named values. -/
def fill (values : List (String × String)) (template : String) : Except TemplateError String := do
  let deepest (_ : List Char) : Except TemplateError (List Char) := refuse .tooDeep
  let inner (cs : List Char) : Except TemplateError (List Char) :=
    fillWith values deepest (cs.length + 1) cs
  let cs := template.toList
  return String.ofList (← fillWith values inner (cs.length + 1) cs)

end CompilerTest.Text

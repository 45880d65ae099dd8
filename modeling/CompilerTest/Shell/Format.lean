import CompilerTest.Shell.Arithmetic
import CompilerTest.Shell.Condition

/-!
# Formatted output

The texts that the echo and printf commands write: escapes, and formats that are filled in with the
arguments as often as it takes to use them up.
-/

namespace CompilerTest.Shell

/-! ## Escapes -/

/-- Whether a character is an octal digit. -/
def isOctal (c : Char) : Bool := '0' ≤ c && c ≤ '7'

/-- The character with the number that octal digits spell. -/
def octalChar (digits : Chars) : Char :=
  Char.ofNat ((digits.foldl (fun n d => 8 * n + (d.toNat - '0'.toNat)) 0) % 256)

/-- The control character that a letter stands for after a backslash. -/
def controlOf? (c : Char) : Option Char :=
  [('\\', '\\'), ('a', '\x07'), ('b', '\x08'), ('f', '\x0c'), ('n', '\n'), ('r', '\r'),
    ('t', '\t'), ('v', '\x0b')].lookup c

/-- The character that an escape stands for and what follows it, given what follows the backslash.
The backslash of an unknown escape stands for itself. -/
def escapeIn (rest : Chars) : Char × Chars :=
  match rest with
  | [] => ('\\', [])
  | c :: after =>
    if isOctal c then
      let digits := (rest.take 3).takeWhile isOctal
      (octalChar digits, rest.drop digits.length)
    else match controlOf? c with
      | some control => (control, after)
      | none => ('\\', rest)

/-- A text with its escapes replaced, and whether an escape has ended it early. Each round takes at
least one character, so the length of the text bounds their number. -/
def unescaped : Nat → Chars → Chars × Bool
  | 0, _ => ([], false)
  | _, [] => ([], false)
  | _, '\\' :: 'c' :: _ => ([], true)
  | fuel + 1, '\\' :: rest =>
    let digits := match rest with
      | '0' :: d :: rest => if isOctal d then d :: rest else '0' :: d :: rest
      | rest => rest
    let (c, rest) := escapeIn digits
    let (cs, ended) := unescaped fuel rest
    (c :: cs, ended)
  | fuel + 1, c :: rest =>
    let (cs, ended) := unescaped fuel rest
    (c :: cs, ended)

/-- What the echo command writes. -/
def echoed (args : List Chars) : Chars :=
  let (bare, args) := match args with
    | ['-', 'n'] :: args => (true, args)
    | args => (false, args)
  let text := List.intercalate [' '] args
  let (cs, ended) := unescaped (text.length + 1) text
  if bare || ended then cs else cs ++ ['\n']

/-! ## Formats -/

/-- A place in a format that an argument fills. -/
structure Slot where
  /-- Whether the text stands at the left of its width. -/
  left : Bool := false
  /-- Whether a number is filled up with zeros. -/
  zeros : Bool := false
  /-- What a number that is not negative has in place of a sign. -/
  plus : Chars := []
  /-- Whether a number shows its base. -/
  based : Bool := false
  /-- The width. -/
  width : Nat := 0
  /-- The greatest number of characters. -/
  precision : Option Nat := none

/-- A text in its width. -/
def Slot.padded (s : Slot) (cs : Chars) : Chars :=
  let blanks := List.replicate (s.width - cs.length) ' '
  if s.left then cs ++ blanks else blanks ++ cs

/-- A number in its width, given what stands in front of it and its digits. -/
def Slot.numeral (s : Slot) (sign digits : Chars) : Chars :=
  let digits := List.replicate (s.precision.getD 1 - digits.length) '0' ++ digits
  if s.zeros && !s.left && s.precision.isNone then
    sign ++ List.replicate (s.width - sign.length - digits.length) '0' ++ digits
  else s.padded (sign ++ digits)

/-- The slot that flags, width and precision describe, and what follows them. -/
def slotOf (rest : Chars) : Slot × Chars :=
  let flags := rest.takeWhile ("-+0 #".toList.contains ·)
  let rest := rest.drop flags.length
  let width := rest.takeWhile Char.isDigit
  let rest := rest.drop width.length
  let (precision, rest) := match rest with
    | '.' :: rest =>
      let digits := rest.takeWhile Char.isDigit
      (some ((String.ofList digits).toNat?.getD 0), rest.drop digits.length)
    | rest => (none, rest)
  let slot : Slot :=
    { left := flags.contains '-', zeros := flags.contains '0', based := flags.contains '#'
      plus := if flags.contains '+' then ['+'] else if flags.contains ' ' then [' '] else []
      width := (String.ofList width).toNat?.getD 0, precision }
  (slot, rest)

/-! ## Arguments -/

/-- The digits of a number in a base. -/
def digitsIn (base : Nat) (upper : Bool) (n : Nat) : Chars :=
  let digits := Nat.toDigits base n
  if upper then digits.map Char.toUpper else digits

/-- The number that an argument stands for: that of a character after a quote, zero for none, or
else the numeral at its front, with a complaint if there is more or less than that. -/
def numberArgument (arg : Chars) : Int × Option String :=
  match arg with
  | [] => (0, none)
  | '\'' :: c :: _ => (c.toNat, none)
  | '"' :: c :: _ => (c.toNat, none)
  | _ =>
    let cs := arg.dropWhile fun c => c == ' ' || ('\t' ≤ c && c ≤ '\r')
    let (negative, digits) : Bool × Chars := match cs with
      | '-' :: rest => (true, rest)
      | '+' :: rest => (false, rest)
      | rest => (false, rest)
    let (n, rest) := numeralOf digits
    let exact : Int := if negative then -n else n
    let word := (nearestWord exact).toInt
    let about (text : String) : Option String := some (String.ofList arg ++ ": " ++ text)
    if rest.length = digits.length then (0, about "expected numeric value")
    else if !rest.isEmpty then (word, about "not completely converted")
    else if word ≠ exact then (word, about "Numerical result out of range")
    else (word, none)

/-- What filling in a format once gives. -/
structure Filled where
  /-- The text. -/
  text : Chars := []
  /-- The arguments that are left. -/
  args : List Chars
  /-- Whether the text was ended early. -/
  ended : Bool := false
  /-- The complaints about arguments. -/
  complaints : List String := []
  /-- The complaint about the format, if it is no format. -/
  refused : Option String := none

/-- Adds characters. -/
def Filled.put (f : Filled) (cs : Chars) : Filled := { f with text := f.text ++ cs }

/-- What stands in front of a number in a base that is to be shown. -/
def basePrefix (conversion : Char) (n : Nat) : Chars :=
  if n = 0 then []
  else if conversion = 'x' then ['0', 'x']
  else if conversion = 'X' then ['0', 'X']
  else if conversion = 'o' then ['0']
  else []

/-- Adds a number with a sign. -/
def Filled.putSigned (f : Filled) (slot : Slot) (arg : Chars) : Filled :=
  let (n, complaint) := numberArgument arg
  let sign : Chars := if n < 0 then ['-'] else slot.plus
  { f.put (slot.numeral sign (digitsIn 10 false n.natAbs)) with
    complaints := f.complaints ++ complaint.toList }

/-- Adds a number without a sign, in a base. -/
def Filled.putUnsigned (f : Filled) (slot : Slot) (base : Nat) (conversion : Char) (arg : Chars) :
    Filled :=
  let (n, complaint) := numberArgument arg
  let n := if n < 0 then Nat.pow 2 64 - n.natAbs else n.toNat
  let front := if slot.based then basePrefix conversion n else []
  { f.put (slot.numeral front (digitsIn base (conversion = 'X') n)) with
    complaints := f.complaints ++ complaint.toList }

/-- The text of an argument as a conversion asks for it; nothing if there is no such conversion. -/
def converted (slot : Slot) (conversion : Char) (arg : Chars) : Option (Filled → Filled) :=
  match conversion with
  | 's' => some fun f => f.put (slot.padded (arg.take (slot.precision.getD arg.length)))
  | 'c' => some fun f => f.put (slot.padded (if arg.isEmpty then ['\x00'] else arg.take 1))
  | 'b' =>
    let (cs, ended) := unescaped (arg.length + 1) arg
    some fun f => { f.put (slot.padded cs) with ended }
  | 'd' => some fun f => f.putSigned slot arg
  | 'i' => some fun f => f.putSigned slot arg
  | 'u' => some fun f => f.putUnsigned slot 10 'u' arg
  | 'o' => some fun f => f.putUnsigned slot 8 'o' arg
  | 'x' => some fun f => f.putUnsigned slot 16 'x' arg
  | 'X' => some fun f => f.putUnsigned slot 16 'X' arg
  | _ => none

/-! ## Filling in -/

/-- Fills in a format once. Each round takes at least one character, so the length of the format
bounds their number. -/
def fillOnce : Nat → Chars → Filled → Filled
  | 0, _, f => f
  | _, [], f => f
  | fuel + 1, '\\' :: rest, f =>
    let (c, rest) := escapeIn rest
    fillOnce fuel rest (f.put [c])
  | fuel + 1, '%' :: '%' :: rest, f => fillOnce fuel rest (f.put ['%'])
  | fuel + 1, '%' :: rest, f =>
    let (slot, after) := slotOf rest
    match after with
    | [] => { f with ended := true, refused := some "missing format character" }
    | conversion :: after =>
      match converted slot conversion (f.args.headD []) with
      | none =>
        let written := '%' :: rest.take (rest.length - after.length)
        { f with ended := true, refused := some (String.ofList written ++ ": invalid directive") }
      | some change =>
        let f := change { f with args := f.args.drop 1 }
        if f.ended then f else fillOnce fuel after f
  | fuel + 1, c :: rest, f => fillOnce fuel rest (f.put [c])

/-- Fills in a format until the arguments are used up. Each further round takes at least one of
them, so their number bounds the number of rounds. -/
def fillAll (format : Chars) : Nat → Filled → Filled
  | 0, f => f
  | rounds + 1, f =>
    let next := fillOnce (format.length + 1) format f
    if next.ended || next.args.isEmpty || next.args.length = f.args.length then next
    else fillAll format rounds next

/-- What the printf command writes, with its complaints. -/
def formatted (format : Chars) (args : List Chars) : Filled :=
  fillAll format (args.length + 1) { args }

end CompilerTest.Shell

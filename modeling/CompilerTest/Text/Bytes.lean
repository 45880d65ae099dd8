import CompilerTest.Unicode.Properties

/-!
# Byte strings

Captured output, baselines and file contents are byte strings. This module cuts them into lines,
strips them, and converts between them and text. Decoding works in steps: each step takes one
character off the front, or the longest beginning of a character that cannot be completed.
-/

namespace CompilerTest

/-- A byte string. -/
abbrev Bytes := List UInt8

namespace Bytes

/-! ## UTF-8 -/

/-- The UTF-8 encoding of a text. -/
def ofText (text : String) : Bytes := text.toList.flatMap String.utf8EncodeChar

/-- Whether `b` continues a character. -/
def isContinuation (b : UInt8) : Bool := 0x80 ≤ b && b ≤ 0xbf

/-- The number of continuation bytes that the first byte `b` of a character asks for, with the
bounds of the first of them; nothing if no character begins with `b`. The bounds rule out overlong
forms, surrogates and values past the last code point. -/
def lead? (b : UInt8) : Option (Nat × UInt8 × UInt8) :=
  if b < 0x80 then some (0, 0x80, 0xbf)
  else if 0xc2 ≤ b && b ≤ 0xdf then some (1, 0x80, 0xbf)
  else if b == 0xe0 then some (2, 0xa0, 0xbf)
  else if b == 0xed then some (2, 0x80, 0x9f)
  else if 0xe1 ≤ b && b ≤ 0xef then some (2, 0x80, 0xbf)
  else if b == 0xf0 then some (3, 0x90, 0xbf)
  else if 0xf1 ≤ b && b ≤ 0xf3 then some (3, 0x80, 0xbf)
  else if b == 0xf4 then some (3, 0x80, 0x8f)
  else none

/-- The payload bits of the first byte of a character with `n` continuation bytes. -/
def leadBits (b : UInt8) : Nat → Nat
  | 0 => b.toNat
  | 1 => b.toNat % 32
  | 2 => b.toNat % 16
  | _ => b.toNat % 8

/-- Reads `n` more continuation bytes, the next one between `lo` and `hi`, onto the value `acc`. -/
def continued (acc : Nat) : Nat → UInt8 → UInt8 → Bytes → Option Nat × Bytes
  | 0, _, _, rest => (some acc, rest)
  | _ + 1, _, _, [] => (none, [])
  | n + 1, lo, hi, b :: rest =>
    if lo ≤ b && b ≤ hi then continued (acc * 64 + b.toNat % 64) n 0x80 0xbf rest
    else (none, b :: rest)

/-- Takes one character off a byte string that begins with `b`, or, if there is none, the longest
beginning of one. -/
def step (b : UInt8) (rest : Bytes) : Option Char × Bytes :=
  match lead? b with
  | none => (none, rest)
  | some (n, lo, hi) =>
    let (value, rest) := continued (leadBits b n) n lo hi rest
    (value.map Char.ofNat, rest)

/-- The characters of a byte string, with nothing in place of each malformed part. Every step takes
at least one byte, so the length of the byte string is fuel enough. -/
def characters : Nat → Bytes → List (Option Char)
  | _, [] => []
  | 0, _ :: _ => []
  | fuel + 1, b :: rest =>
    let (c, rest) := step b rest
    c :: characters fuel rest

/-- The text that a byte string encodes, if it is well-formed UTF-8. -/
def text? (bytes : Bytes) : Option String :=
  ((characters bytes.length bytes).mapM id).map String.ofList

/-- The text that a byte string encodes, with the replacement character for each malformed part. -/
def textLossy (bytes : Bytes) : String :=
  String.ofList ((characters bytes.length bytes).map (·.getD '\ufffd'))

/-! ## Code points, with lone surrogates -/

/-- Takes a surrogate off a byte string that is written like any other code point of its size. -/
def surrogate? : Bytes → Option (Nat × Bytes)
  | a :: b :: c :: rest =>
    if a == 0xed && 0xa0 ≤ b && b ≤ 0xbf && isContinuation c then
      some (0xd000 + b.toNat % 64 * 64 + c.toNat % 64, rest)
    else none
  | _ => none

/-- The code points of a byte string, if it is UTF-8 apart from surrogates that are written like
other code points. Every step takes at least one byte, so the length is fuel enough. -/
def codesFrom? : Nat → Bytes → Option (List Nat)
  | _, [] => some []
  | 0, _ :: _ => none
  | fuel + 1, b :: rest =>
    match surrogate? (b :: rest) with
    | some (c, rest) => (codesFrom? fuel rest).map (c :: ·)
    | none =>
      match step b rest with
      | (some c, rest) => (codesFrom? fuel rest).map (c.toNat :: ·)
      | (none, _) => none

/-- The code points of a byte string in UTF-8, where surrogates may stand alone. -/
def codes? (bytes : Bytes) : Option (List Nat) := codesFrom? bytes.length bytes

/-- The 16-bit units of a byte string, little end first; nothing if a byte is left over. -/
def units16? : Bytes → Option (List Nat)
  | [] => some []
  | [_] => none
  | a :: b :: rest => (units16? rest).map ((a.toNat + 256 * b.toNat) :: ·)

/-- The code points of 16-bit units; a surrogate without a partner stands for itself. -/
def fromUnits16 : List Nat → List Nat
  | [] => []
  | [u] => [u]
  | u :: v :: rest =>
    if 0xd800 ≤ u && u < 0xdc00 && 0xdc00 ≤ v && v < 0xe000 then
      (0x10000 + (u - 0xd800) * 1024 + (v - 0xdc00)) :: fromUnits16 rest
    else u :: fromUnits16 (v :: rest)

/-- The code points of a byte string in units of 32 bits, little end first; nothing if a unit is no
code point. -/
def fromUnits32? : Bytes → Option (List Nat)
  | [] => some []
  | a :: b :: c :: d :: rest =>
    let u := a.toNat + 256 * (b.toNat + 256 * (c.toNat + 256 * d.toNat))
    if u < 0x110000 then (fromUnits32? rest).map (u :: ·) else none
  | _ => none

/-! ## Lines and blanks -/

/-- Whether `b` is ASCII white space. -/
def isSpace (b : UInt8) : Bool := Unicode.isAsciiSpace b.toNat

/-- The byte string without the ASCII white space at both ends. -/
def strip (bytes : Bytes) : Bytes :=
  ((bytes.dropWhile isSpace).reverse.dropWhile isSpace).reverse

/-- Cuts a byte string into lines, each with its own terminator: a line feed, a carriage return, or
one followed by the other. `line` holds the current line in reverse. -/
def linesFrom (line : Bytes) : Bytes → List Bytes
  | [] => if line.isEmpty then [] else [line.reverse]
  | 0x0d :: 0x0a :: rest => (0x0a :: 0x0d :: line).reverse :: linesFrom [] rest
  | b :: rest =>
    if b == 0x0a || b == 0x0d then (b :: line).reverse :: linesFrom [] rest
    else linesFrom (b :: line) rest

/-- The lines of a byte string, each with its own terminator. -/
def lines (bytes : Bytes) : List Bytes := linesFrom [] bytes

/-! ## Hexadecimal digits -/

/-- A lower-case hexadecimal digit. -/
def hexDigit (n : Nat) : Char := if n < 10 then Char.ofNat (0x30 + n) else Char.ofNat (0x57 + n)

/-- The value `n` in at least `width` lower-case hexadecimal digits. -/
def hexDigits (width n : Nat) : List Char :=
  (List.range width).reverse.map fun i => hexDigit (n / Nat.pow 16 i % 16)

/-- A byte string as lower-case hexadecimal digits. -/
def toHex (bytes : Bytes) : String := String.ofList (bytes.flatMap fun b => hexDigits 2 b.toNat)

/-- The byte string that pairs of hexadecimal digits spell. -/
def ofHex? : List Char → Option Bytes
  | [] => some []
  | a :: b :: rest => do
    let hi ← Unicode.hexValue? a.toNat
    let lo ← Unicode.hexValue? b.toNat
    let rest ← ofHex? rest
    return UInt8.ofNat (16 * hi + lo) :: rest
  | _ => none

end Bytes

end CompilerTest

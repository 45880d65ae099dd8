import CompilerTest.Json.Basic
import CompilerTest.Text.Integer

/-!
# Reading JSON

A reader of JSON documents that says where a malformed one goes wrong. It also takes the names of
the values that are no finite numbers, refuses whole numbers of too many digits, and follows lists
and objects only to a fixed depth.

The reader walks the list of code points, where a surrogate may stand without its partner. A problem
is reported with the number of code points that are left; line and column follow from it at the end.

The marks of the format appear by their numbers: the quote is `0x22`, the backslash `0x5c`, the
comma `0x2c`, the colon `0x3a`, brackets are `0x5b` and `0x5d`, and braces are `0x7b` and `0x7d`.
-/

namespace CompilerTest

namespace Json

/-- What can be wrong with a document. -/
inductive Problem where
  | expectingValue
  | expectingName
  | expectingColon
  | expectingComma
  | extraData
  | unterminated
  | controlCharacter
  | badEscape
  | badCodePoint
  | byteOrderMark
  deriving DecidableEq, Repr

/-- The wording of a problem. -/
def Problem.message : Problem → String
  | expectingValue => "Expecting value"
  | expectingName => "Expecting property name enclosed in double quotes"
  | expectingColon => "Expecting ':' delimiter"
  | expectingComma => "Expecting ',' delimiter"
  | extraData => "Extra data"
  | unterminated => "Unterminated string starting at"
  | controlCharacter => "Invalid control character at"
  | badEscape => "Invalid \\escape"
  | badCodePoint => "Invalid \\uXXXX escape"
  | byteOrderMark => "Unexpected UTF-8 BOM (decode using utf-8-sig)"

/-- Why a document is not read. -/
inductive ReadError where
  /-- The document is malformed at this place. -/
  | malformed (problem : Problem) (line column : Nat)
  /-- A whole number has too many digits. -/
  | tooLong (digits : Nat)
  /-- Lists and objects are nested too deep. -/
  | tooDeep
  deriving DecidableEq, Repr

/-- Why the reader stops: as `ReadError`, but with the number of code points that are left. -/
inductive Stop where
  | malformed (problem : Problem) (left : Nat)
  | tooLong (digits : Nat)
  | tooDeep

/-- Stops with a problem in front of `rest`. -/
def stop {α : Type} (problem : Problem) (rest : List Nat) : Except Stop α :=
  .error (.malformed problem rest.length)

/-- The code points after blanks. -/
def skipBlanks (cs : List Nat) : List Nat :=
  cs.dropWhile fun c => c == 0x20 || c == 0x9 || c == 0xa || c == 0xd

/-! ## Texts -/

/-- The value of four hexadecimal digits and what follows them. -/
def fourHexDigits? : List Nat → Option (Nat × List Nat)
  | a :: b :: c :: d :: rest => do
    let a ← Unicode.hexValue? a
    let b ← Unicode.hexValue? b
    let c ← Unicode.hexValue? c
    let d ← Unicode.hexValue? d
    return (((a * 16 + b) * 16 + c) * 16 + d, rest)
  | _ => none

/-- The code point that a backslash and `c` stand for. -/
def shortEscape? (c : Nat) : Option Nat :=
  ([('"', 0x22), ('\\', 0x5c), ('/', 0x2f), ('b', 0x8), ('f', 0xc), ('n', 0xa), ('r', 0xd),
    ('t', 0x9)].find? fun (letter, _) => letter.toNat = c).map Prod.snd

/-- Reads the numeric escape whose letter stands in front of `rest`. Two escapes that are the halves
of a surrogate pair are one code point. A digit has to be followed by another code point. -/
def numericEscape (rest : List Nat) : Except Stop (Nat × List Nat) :=
  let fault : Except Stop (Nat × List Nat) := stop .badCodePoint (0x75 :: rest)
  if (rest.take 5).length < 5 then fault
  else match fourHexDigits? rest with
    | none => fault
    | some (high, rest) =>
      match rest with
      | 0x5c :: 0x75 :: more =>
        if 0xd800 ≤ high && high < 0xdc00 && (more.take 5).length = 5 then
          match fourHexDigits? more with
          | none => stop .badCodePoint (0x75 :: more)
          | some (low, after) =>
            if 0xdc00 ≤ low && low < 0xe000 then
              .ok (0x10000 + (high - 0xd800) * 1024 + (low - 0xdc00), after)
            else .ok (high, rest)
        else .ok (high, rest)
      | _ => .ok (high, rest)

/-- Reads the rest of a text up to its closing quote; `acc` holds the code points so far in reverse.
Every round takes a code point off, so their number is fuel enough. -/
def textCodes? : Nat → List Nat → List Nat → Except Stop (Option (List Nat × List Nat))
  | 0, _, _ => .ok none
  | _ + 1, _, [] => .ok none
  | fuel + 1, acc, c :: rest =>
    if c = 0x22 then .ok (some (acc.reverse, rest))
    else if c = 0x5c then
      match rest with
      | [] => .ok none
      | 0x75 :: rest => do
        let (code, rest) ← numericEscape rest
        textCodes? fuel (code :: acc) rest
      | e :: after =>
        match shortEscape? e with
        | none => stop .badEscape (c :: rest)
        | some plain => textCodes? fuel (plain :: acc) after
    else if c ≤ 0x1f then stop .controlCharacter (c :: rest)
    else textCodes? fuel (c :: acc) rest

/-- The value of a text with these code points. -/
def ofCodes (codes : List Nat) : Json :=
  if codes.any fun c => 0xd800 ≤ c && c < 0xe000 then .broken codes
  else .text (String.ofList (codes.map Char.ofNat))

/-- Reads a text whose opening quote stands in front of `rest`. -/
def readText (size : Nat) (rest : List Nat) : Except Stop (Json × List Nat) := do
  match ← textCodes? size [] rest with
  | some (codes, after) => return (ofCodes codes, after)
  | none => stop .unterminated (0x22 :: rest)

/-! ## Numbers -/

/-- The decimal digits at the front. -/
def digits (cs : List Nat) : List Nat × List Nat := cs.span fun c => 0x30 ≤ c && c ≤ 0x39

/-- The values of decimal digits. -/
def digitValues (ds : List Nat) : List Nat := ds.map (· - 0x30)

/-- The fraction at the front: a point and at least one digit. -/
def fraction : List Nat → Option (List Nat) × List Nat
  | 0x2e :: rest =>
    let (ds, after) := digits rest
    if ds.isEmpty then (none, 0x2e :: rest) else (some ds, after)
  | cs => (none, cs)

/-- The exponent at the front: the letter, a sign or none, and at least one digit. -/
def exponent (cs : List Nat) : Option Int × List Nat :=
  match cs with
  | e :: rest =>
    if e = 0x65 || e = 0x45 then
      let (negative, signed) := match rest with
        | 0x2d :: r => (true, r)
        | 0x2b :: r => (false, r)
        | r => (false, r)
      let (ds, after) := digits signed
      if ds.isEmpty then (none, cs)
      else
        let n : Int := Text.ofDigits (digitValues ds)
        (some (if negative then -n else n), after)
    else (none, cs)
  | [] => (none, [])

/-- Reads a number. -/
def readNumber (cs : List Nat) : Except Stop (Json × List Nat) :=
  let (negative, body) := match cs with
    | 0x2d :: rest => (true, rest)
    | rest => (false, rest)
  let (whole, rest) := match body with
    | 0x30 :: rest => ([0x30], rest)
    | rest => digits rest
  if whole.isEmpty then stop .expectingValue cs
  else
    let (frac, rest) := fraction rest
    let (exp, rest) := exponent rest
    match frac, exp with
    | none, none =>
      if whole.length > Text.digitLimit then .error (.tooLong whole.length)
      else
        let n : Int := Text.ofDigits (digitValues whole)
        .ok (.int (if negative then -n else n), rest)
    | _, _ =>
      let frac := frac.getD []
      let significand := Text.ofDigits (digitValues (whole ++ frac))
      let x := Double.ofDecimal negative significand (exp.getD 0 - frac.length)
      .ok (.number (.real x), rest)

/-! ## Values -/

/-- The words that stand for values. -/
def words : List (String × Json) :=
  [("null", .null), ("true", .bool true), ("false", .bool false), ("NaN", .number (.real .nan)),
    ("Infinity", .number (.real (.infinite false))),
    ("-Infinity", .number (.real (.infinite true)))]

/-- Reads a word or a number. -/
def readScalar (cs : List Nat) : Except Stop (Json × List Nat) :=
  match words.find? fun (w, _) => (Text.codes w).isPrefixOf cs with
  | some (w, v) => .ok (v, cs.drop w.length)
  | none => readNumber cs

/-- A reader of values: it takes one off the front. -/
abbrev Reader := List Nat → Except Stop (Json × List Nat)

/-- Reads the items of a list from the front of the next one to the closing bracket. -/
def readItems (value : Reader) : Nat → List Nat → Except Stop (List Json × List Nat)
  | 0, cs => stop .expectingValue cs
  | fuel + 1, cs => do
    let (v, rest) ← value cs
    match skipBlanks rest with
    | 0x5d :: rest => return ([v], rest)
    | 0x2c :: rest =>
      let (vs, rest) ← readItems value fuel (skipBlanks rest)
      return (v :: vs, rest)
    | rest => stop .expectingComma rest

/-- Reads the name of a member and the colon after it. -/
def readName (size : Nat) : List Nat → Except Stop (String × List Nat)
  | 0x22 :: rest => do
    let (name, rest) ← readText size rest
    match skipBlanks rest with
    | 0x3a :: rest => return (name.asText, skipBlanks rest)
    | rest => stop .expectingColon rest
  | cs => stop .expectingName cs

/-- Reads the members of an object from the front of the next one to the closing brace. -/
def readMembers (size : Nat) (value : Reader) :
    Nat → List Nat → Except Stop (List (String × Json) × List Nat)
  | 0, cs => stop .expectingName cs
  | fuel + 1, cs => do
    let (name, rest) ← readName size cs
    let (v, rest) ← value rest
    match skipBlanks rest with
    | 0x7d :: rest => return ([(name, v)], rest)
    | 0x2c :: rest =>
      let (more, rest) ← readMembers size value fuel (skipBlanks rest)
      return ((name, v) :: more, rest)
    | rest => stop .expectingComma rest

/-- Reads a value in which lists and objects are nested to a bounded depth. `size` is the number of
code points of the document, which bounds every loop. -/
def readValue (size : Nat) : Nat → Reader
  | 0, cs =>
    match cs with
    | 0x22 :: rest => readText size rest
    | 0x5b :: _ => .error .tooDeep
    | 0x7b :: _ => .error .tooDeep
    | cs => readScalar cs
  | depth + 1, cs =>
    match cs with
    | 0x22 :: rest => readText size rest
    | 0x5b :: rest =>
      match skipBlanks rest with
      | 0x5d :: rest => .ok (.array [], rest)
      | inner => do
        let (items, rest) ← readItems (readValue size depth) size inner
        return (.array items, rest)
    | 0x7b :: rest =>
      match skipBlanks rest with
      | 0x7d :: rest => .ok (.object [], rest)
      | inner => do
        let (ms, rest) ← readMembers size (readValue size depth) size inner
        return (.ofMembers ms, rest)
    | cs => readScalar cs

/-- How deep lists and objects may be nested. Where reading really ends depends on how much of the
stack is in use when it begins, which is left out: this is the number for a reader that is called
directly. -/
def depthLimit : Nat := 990

/-- Reads a whole document. -/
def readDocument (cs : List Nat) : Except Stop Json :=
  match cs with
  | 0xfeff :: _ => .error (.malformed .byteOrderMark cs.length)
  | _ => do
    let (v, rest) ← readValue (cs.length + 1) depthLimit (skipBlanks cs)
    match skipBlanks rest with
    | [] => return v
    | rest => .error (.malformed .extraData rest.length)

/-- The line and the column of the code point that comes after the first `n`, both counted from
one. -/
def place (cs : List Nat) (n : Nat) : Nat × Nat :=
  let before := cs.take n
  ((before.filter (· == 0xa)).length + 1, (before.reverse.takeWhile (· != 0xa)).length + 1)

/-- The value of a document with these code points. -/
def parseCodes (cs : List Nat) : Except ReadError Json :=
  match readDocument cs with
  | .ok v => .ok v
  | .error (.malformed problem left) =>
    let (line, column) := place cs (cs.length - left)
    .error (.malformed problem line column)
  | .error (.tooLong n) => .error (.tooLong n)
  | .error .tooDeep => .error .tooDeep

/-- The value of a document with these characters. -/
def parse (cs : List Char) : Except ReadError Json := parseCodes (cs.map Char.toNat)

end Json

end CompilerTest

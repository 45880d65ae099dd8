import CompilerTest.Json.Basic

/-!
# Writing JSON

The JSON text of a value, on one line and in ASCII: members stand in their order, and characters
outside printable ASCII are written as escapes of one or two units of sixteen bits.
-/

namespace CompilerTest

namespace Json

/-! ## Texts -/

/-- The escape of a unit of sixteen bits. -/
def unitEscape (n : Nat) : List Char := '\\' :: 'u' :: Bytes.hexDigits 4 n

/-- A code point between the quotes of a JSON text. -/
def escaped (n : Nat) : List Char :=
  if n = 0x22 then ['\\', '"']
  else if n = 0x5c then ['\\', '\\']
  else if n = 0xa then ['\\', 'n']
  else if n = 0xd then ['\\', 'r']
  else if n = 0x9 then ['\\', 't']
  else if n = 0xc then ['\\', 'f']
  else if n = 0x8 then ['\\', 'b']
  else if 0x20 ≤ n && n < 0x7f then [Char.ofNat n]
  else if n < 0x10000 then unitEscape n
  else unitEscape (0xd800 + (n - 0x10000) / 1024) ++ unitEscape (0xdc00 + (n - 0x10000) % 1024)

/-- Code points as a JSON text. -/
def quoted (codes : List Nat) : String := String.ofList ('"' :: codes.flatMap escaped ++ ['"'])

/-! ## Values -/

/-- A number as JSON, with names for the values that are no finite numbers. -/
def numeral : Number → String
  | .int n => toString n
  | .real .nan => "NaN"
  | .real (.infinite negative) => if negative then "-Infinity" else "Infinity"
  | .real x => x.text

mutual

/-- The JSON text of a value. -/
def compact : Json → String
  | null => "null"
  | bool b => if b then "true" else "false"
  | number n => numeral n
  | text s => quoted (Text.codes s)
  | broken codes => quoted codes
  | array items => "[" ++ String.intercalate ", " (compactItems items) ++ "]"
  | object ms => "\x7b" ++ String.intercalate ", " (compactMembers ms) ++ "\x7d"

/-- The JSON texts of the items of a list. -/
def compactItems : List Json → List String
  | [] => []
  | v :: rest => v.compact :: compactItems rest

/-- The JSON texts of the members of an object. -/
def compactMembers : List (String × Json) → List String
  | [] => []
  | (k, v) :: rest => (quoted (Text.codes k) ++ ": " ++ v.compact) :: compactMembers rest

end

end Json

end CompilerTest

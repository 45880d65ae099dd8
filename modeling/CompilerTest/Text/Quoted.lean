import CompilerTest.Unicode.Tables
import CompilerTest.Text.Bytes

/-!
# Quoted texts

Messages show a text between quotes, with escapes for everything that would not be visible. The
quote is the apostrophe, or the double quote if the text holds an apostrophe and no double quote.
Byte strings are shown the same way after a `b`, with an escape for every byte outside printable
ASCII.
-/

namespace CompilerTest.Text

/-- The quote that surrounds a text with these code points. -/
def quoteFor (codes : List Nat) : Char :=
  if codes.contains 0x27 && !codes.contains 0x22 then '"' else '\''

/-- The escape of a code point by its number: two, four or eight hexadecimal digits. -/
def numericEscape (c : Nat) : List Char :=
  if c < 0x100 then '\\' :: 'x' :: Bytes.hexDigits 2 c
  else if c < 0x10000 then '\\' :: 'u' :: Bytes.hexDigits 4 c
  else '\\' :: 'U' :: Bytes.hexDigits 8 c

/-- One code point between quotes `q`, where `plain` tells which ones are shown as themselves. -/
def escaped (q : Char) (plain : Nat → Bool) (c : Nat) : List Char :=
  if c = q.toNat then ['\\', q]
  else if c = 0x5c then ['\\', '\\']
  else if c = 0x9 then ['\\', 't']
  else if c = 0xa then ['\\', 'n']
  else if c = 0xd then ['\\', 'r']
  else if plain c then [Char.ofNat c]
  else numericEscape c

/-- Code points between quotes, where `plain` tells which ones are shown as themselves. -/
def quoteWith (plain : Nat → Bool) (codes : List Nat) : List Char :=
  let q := quoteFor codes
  q :: codes.flatMap (escaped q plain) ++ [q]

/-- The code points of a text. -/
def codes (text : String) : List Nat := text.toList.map Char.toNat

/-- A text between quotes, with printable characters as themselves. -/
def quote (text : String) : String :=
  String.ofList (quoteWith Unicode.printable.contains (codes text))

/-- A text between quotes, with escapes for everything outside printable ASCII. -/
def quoteAscii (text : String) : String :=
  String.ofList (quoteWith (fun c => 0x20 ≤ c && c < 0x7f) (codes text))

/-- A byte string between quotes, after a `b`. -/
def quoteBytes (bytes : Bytes) : String :=
  String.ofList ('b' :: quoteWith (fun c => 0x20 ≤ c && c < 0x7f) (bytes.map UInt8.toNat))

/-- Quoted texts with commas between them. -/
def quoteList (texts : List String) : String := String.intercalate ", " (texts.map quote)

end CompilerTest.Text

import CompilerTest.Unicode.Tables

/-!
# Classes of characters

The character classes that the library's texts, names and patterns refer to, each as a predicate on
code points. The ASCII classes are given apart: byte strings and patterns in ASCII mode use those.
-/

namespace CompilerTest.Unicode

/-- White space: the blank, the tab and line controls, the information separators, and the space
and line separators of the standard. -/
def isSpace (c : Nat) : Bool :=
  (0x9 ≤ c && c ≤ 0xd) || (0x1c ≤ c && c ≤ 0x20) || c == 0x85 || c == 0xa0 || c == 0x1680 ||
    (0x2000 ≤ c && c ≤ 0x200a) || c == 0x2028 || c == 0x2029 || c == 0x202f || c == 0x205f ||
    c == 0x3000

/-- The value of a decimal digit of any script. -/
def digitValue? (c : Nat) : Option Nat :=
  let k := Ranges.bisect zeros c (zeros.size + 1) 0 zeros.size
  if k = 0 then none
  else
    let start := zeros.getD (k - 1) 0
    if c < start + 10 then some (c - start) else none

/-- Whether `c` is a decimal digit of any script. -/
def isDigit (c : Nat) : Bool := (digitValue? c).isSome

/-- Whether `c` counts as part of a word: a letter, a numeric character or the underscore. -/
def isWord (c : Nat) : Bool := c == 0x5f || alphanumeric.contains c

/-- Whether `text` is an identifier: a start character followed by continuing ones. -/
def isIdentifier : List Nat → Bool
  | [] => false
  | c :: rest => identifierStart.contains c && rest.all identifierContinue.contains

/-! ## ASCII classes -/

/-- An ASCII digit. -/
def isAsciiDigit (c : Nat) : Bool := 0x30 ≤ c && c ≤ 0x39

/-- An ASCII octal digit. -/
def isOctalDigit (c : Nat) : Bool := 0x30 ≤ c && c ≤ 0x37

/-- An ASCII letter. -/
def isAsciiLetter (c : Nat) : Bool := (0x41 ≤ c && c ≤ 0x5a) || (0x61 ≤ c && c ≤ 0x7a)

/-- ASCII white space: the blank and the controls from tab to carriage return. -/
def isAsciiSpace (c : Nat) : Bool := (0x9 ≤ c && c ≤ 0xd) || c == 0x20

/-- An ASCII letter, an ASCII digit or the underscore. -/
def isAsciiWord (c : Nat) : Bool := isAsciiLetter c || isAsciiDigit c || c == 0x5f

/-- The value of an ASCII hexadecimal digit of either case. -/
def hexValue? (c : Nat) : Option Nat :=
  if isAsciiDigit c then some (c - 0x30)
  else if 0x41 ≤ c && c ≤ 0x46 then some (c - 0x37)
  else if 0x61 ≤ c && c ≤ 0x66 then some (c - 0x57)
  else none

/-- Lower case of an ASCII letter; every other code point is kept. -/
def asciiLower (c : Nat) : Nat := if 0x41 ≤ c && c ≤ 0x5a then c + 0x20 else c

/-- Upper case of an ASCII letter; every other code point is kept. -/
def asciiUpper (c : Nat) : Nat := if 0x61 ≤ c && c ≤ 0x7a then c - 0x20 else c

end CompilerTest.Unicode

import CompilerTest.Text.Integer

/-!
# What is wrong with a pattern

A malformed pattern or replacement is reported with the wording below and, where there is one, the
position at which reading stopped. A pattern of several lines also gets the line and the column.
-/

namespace CompilerTest

namespace Regex

/-- What can be wrong with a pattern or a replacement. -/
inductive Defect where
  | danglingEscape
  | badEscape (written : String)
  | incompleteEscape (written : String)
  | octalTooLarge (written : String)
  | missing (what : String)
  | unterminatedName (terminator : Char)
  | unknownCharacterName (name : String)
  | openGroup
  | groupOfSameLookbehind
  | badReference (number : Nat)
  | unterminatedSet
  | badRange (first second : String)
  | repeatBounds
  | nothingToRepeat
  | multipleRepeat
  | endOfPattern
  | unknownExtension (written : String)
  | unterminatedComment
  | unterminatedGroup
  | badGroupName (name : String)
  | unknownGroupName (name : String)
  | groupRedefined (name : String) (new old : Nat)
  | badGroupNumber
  | threeBranches
  | lateSwitches
  | environmentSwitchOnText
  | unicodeSwitchOnBytes
  | conflictingSwitches
  | unknownSwitch
  | globalSwitchOn
  | globalSwitchOff
  | classSwitchOff
  | switchOnAndOff
  | unbalanced
  | variableLookbehind
  | wideLookbehind
  | repeatRefused (operator : String)
  deriving DecidableEq, Repr

/-- The wording of a defect. -/
def Defect.message : Defect → String
  | danglingEscape => "bad escape (end of pattern)"
  | badEscape written => s!"bad escape {written}"
  | incompleteEscape written => s!"incomplete escape {written}"
  | octalTooLarge written => s!"octal escape value {written} outside of range 0-0o377"
  | missing what => s!"missing {what}"
  | unterminatedName terminator => s!"missing {terminator}, unterminated name"
  | unknownCharacterName name => "undefined character name " ++ Text.quote name
  | openGroup => "cannot refer to an open group"
  | groupOfSameLookbehind =>
    "cannot refer to group defined in the same lookbehind subpattern"
  | badReference number => s!"invalid group reference {number}"
  | unterminatedSet => "unterminated character set"
  | badRange first second => s!"bad character range {first}-{second}"
  | repeatBounds => "min repeat greater than max repeat"
  | nothingToRepeat => "nothing to repeat"
  | multipleRepeat => "multiple repeat"
  | endOfPattern => "unexpected end of pattern"
  | unknownExtension written => s!"unknown extension {written}"
  | unterminatedComment => "missing ), unterminated comment"
  | unterminatedGroup => "missing ), unterminated subpattern"
  | badGroupName name => "bad character in group name " ++ Text.quote name
  | unknownGroupName name => "unknown group name " ++ Text.quote name
  | groupRedefined name new old =>
    "redefinition of group name " ++ Text.quote name ++ s!" as group {new}; was group {old}"
  | badGroupNumber => "bad group number"
  | threeBranches => "conditional backref with more than two branches"
  | lateSwitches => "global flags not at the start of the expression"
  | environmentSwitchOnText => "bad inline flags: cannot use 'L' flag with a str pattern"
  | unicodeSwitchOnBytes => "bad inline flags: cannot use 'u' flag with a bytes pattern"
  | conflictingSwitches => "bad inline flags: flags 'a', 'u' and 'L' are incompatible"
  | unknownSwitch => "unknown flag"
  | globalSwitchOn => "bad inline flags: cannot turn on global flag"
  | globalSwitchOff => "bad inline flags: cannot turn off global flag"
  | classSwitchOff => "bad inline flags: cannot turn off flags 'a', 'u' and 'L'"
  | switchOnAndOff => "bad inline flags: flag turned on and off"
  | unbalanced => "unbalanced parenthesis"
  | variableLookbehind => "look-behind requires fixed-width pattern"
  | wideLookbehind => "looks too much behind"
  | repeatRefused operator => s!"internal: unsupported template operator {operator}"

/-- A place in a pattern. -/
structure Place where
  /-- The number of characters before it. -/
  position : Nat
  /-- Its line and column, if the pattern has several lines. -/
  lineAndColumn : Option (Nat × Nat)
  deriving DecidableEq, Repr

/-- The place after the first `position` characters of a pattern. -/
def Place.of (pattern : List Nat) (position : Nat) : Place where
  position := position
  lineAndColumn :=
    if pattern.contains 0xa then
      let before := pattern.take position
      some ((before.filter (· == 0xa)).length + 1,
        (before.reverse.takeWhile (· != 0xa)).length + 1)
    else none

/-- Why a pattern or a replacement is refused. -/
inductive Error where
  /-- It is malformed. -/
  | malformed (defect : Defect) (place : Option Place) (overText : Bool)
  /-- A bound of a repetition is too large. -/
  | hugeRepeat
  /-- The number of a character does not fit into a word with a sign. -/
  | hugeCharacter
  /-- A number has too many digits. -/
  | tooLong (digits : Nat)
  /-- The named switches exclude each other. -/
  | excludingSwitches (first second : String)
  /-- A replacement names a group that the pattern does not have. -/
  | unknownName (name : String)
  /-- Groups are nested too deep. -/
  | tooDeep
  deriving DecidableEq, Repr

/-- A message about a pattern over bytes, with an escape for everything outside ASCII. -/
def asciiOnly (message : String) : String :=
  String.ofList (message.toList.flatMap fun c =>
    if c.toNat < 0x80 then [c] else Text.numericEscape c.toNat)

/-- The message of a malformed pattern. -/
def malformedMessage (defect : Defect) (place : Option Place) (overText : Bool) : String :=
  let text := if overText then defect.message else asciiOnly defect.message
  match place with
  | none => text
  | some ⟨position, none⟩ => s!"{text} at position {position}"
  | some ⟨position, some (line, column)⟩ =>
    s!"{text} at position {position} (line {line}, column {column})"

/-- The message of an error. -/
def Error.message : Error → String
  | malformed defect place overText => malformedMessage defect place overText
  | hugeRepeat => "the repetition number is too large"
  | hugeCharacter => "the number of a character is too large"
  | tooLong digits => (Text.IntegerError.tooLong digits).message
  | excludingSwitches first second => s!"{first} and {second} flags are incompatible"
  | unknownName name => "unknown group name " ++ Text.quote name
  | tooDeep => "the pattern is nested too deep"

end Regex

end CompilerTest

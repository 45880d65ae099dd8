import CompilerTest.Regex.Parser
import CompilerTest.Regex.Matcher

/-!
# Replacements

What every match of a pattern over byte strings is replaced by: literal bytes, and the text of
groups. A replacement without a backslash is literal; any other is read as a template, which has to
fit the pattern's groups.
-/

namespace CompilerTest

namespace Regex

/-- A part of a replacement. -/
inductive Piece where
  /-- A literal byte. -/
  | literal (c : Nat)
  /-- The text of a group; the whole match is group zero. -/
  | group (number : Nat)
  deriving DecidableEq, Repr

/-- The text of a group, if the pattern has one of this number. -/
def groupPiece (r : Regex) (number back : Nat) : Reading Piece := do
  if number > r.groups then fail (.badReference number) back else return .group number

/-- The group that a text in angle brackets names, or whose number it is. -/
def pieceOfName (r : Regex) (name : List Nat) : Reading Piece :=
  let text := textOf name
  let back := name.length + 1
  if Unicode.isIdentifier name then
    match r.names.lookup text with
    | some number => groupPiece r number back
    | none => throw (.unknownName text)
  else
    match Text.integer? text with
    | .error _ => fail (.badGroupName text) back
    | .ok n =>
      if n < 0 then fail (.badGroupName text) back
      else if n.toNat ≥ 1073741823 then fail (.badReference n.toNat) back
      else groupPiece r n.toNat back

/-- Reads the name or the number of a group in angle brackets. -/
def namedPiece (r : Regex) : Reading Piece := do
  if !(← accept '<') then fail (.missing "<") 0
  pieceOfName r (← takeName '>' "group name")

/-- Reads an escape that begins with the digit `c`, which is not zero: three octal digits are a
byte, and everything else is a group. -/
def digitPiece (r : Regex) (c : Nat) : Reading Piece := do
  let more ← takeWhile 1 Unicode.isAsciiDigit
  let octal := Unicode.isOctalDigit c && !more.isEmpty && more.all Unicode.isOctalDigit
  let third ← if octal then takeWhile 1 Unicode.isOctalDigit else pure []
  if third.isEmpty then groupPiece r (valueOf 10 (c :: more)) (more.length + 1)
  else return .literal (← octalValue (c :: more ++ third))

/-- Reads an escape, after its backslash and the character `c`. An escape that means nothing is kept
as it is written, unless it is a letter. -/
def escapedPieces (r : Regex) (c : Nat) : Reading (List Piece) := do
  if c = 'g'.toNat then return [← namedPiece r]
  else if c = '0'.toNat then
    let ds ← takeWhile 2 Unicode.isOctalDigit
    return [.literal (valueOf 8 ds % 256)]
  else if Unicode.isAsciiDigit c then return [← digitPiece r c]
  else match controlEscape? c with
    | some code => return [.literal code]
    | none =>
      if Unicode.isAsciiLetter c then fail (.badEscape (textOf [0x5c, c])) 2
      else return [.literal 0x5c, .literal c]

/-- Reads the parts of a template. -/
def readPieces (r : Regex) (fuel : Nat) : Reading (List Piece) :=
  match fuel with
  | 0 => return []
  | fuel + 1 => do
    match ← next with
    | none => return []
    | some (.plain c) => return .literal c :: (← readPieces r fuel)
    | some (.escape c) =>
      let pieces ← escapedPieces r c
      return pieces ++ (← readPieces r fuel)

/-- The parts of a replacement for matches of a pattern. -/
def template (r : Regex) (replacement : Bytes) : Except Error (List Piece) := do
  let pattern := replacement.map UInt8.toNat
  if !pattern.contains 0x5c then return pattern.map .literal
  let c : Cursor :=
    { overText := false, pattern, position := 0, rest := pattern, switches := [], names := []
      widths := [], lookbehind := none, conditions := [] }
  let (pieces, _) ← (readPieces r (pattern.length + 1)).run (← c.checked)
  return pieces

/-- The characters between two places. -/
def between (s : Subject) (i j : Nat) : List Nat := (s.extract i j).toList

/-- What a part of a replacement stands for at a match. A group that has captured nothing stands for
nothing. -/
def Piece.expand (s : Subject) (m : Match) : Piece → List Nat
  | literal c => [c]
  | group 0 => between s m.start m.stop
  | group n =>
    match captured? m.captures n with
    | some (i, j) => between s i j
    | none => []

/-- The text from place `i` on with the matches replaced. -/
def replaceMatches (s : Subject) (pieces : List Piece) (i : Nat) : List Match → List Nat
  | [] => between s i s.size
  | m :: rest =>
    between s i m.start ++ pieces.flatMap (·.expand s m) ++ replaceMatches s pieces m.stop rest

/-- Replaces every match of a pattern in a byte string. -/
def replaceAll (r : Regex) (replacement text : Bytes) : Except Error Bytes := do
  let pieces ← template r replacement
  let s : Subject := (text.map UInt8.toNat).toArray
  return (replaceMatches s pieces 0 (r.allMatches s)).map UInt8.ofNat

end Regex

end CompilerTest

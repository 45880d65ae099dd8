import CompilerTest.FileTree.Basic
import CompilerTest.Shell.Basic

/-!
# Patterns of scripts

A pattern of a script stands for many texts: a star for any characters, a question mark for any one
character, and brackets for one of a set. Characters that were quoted stand for themselves. A word
with such characters is replaced by the files whose names fit it, if there are any.
-/

namespace CompilerTest.Shell

/-- A character with whether it was quoted. -/
abbrev Marked := Char × Bool

/-- A part of a pattern. -/
inductive GlobPart where
  /-- This character. -/
  | exactly (c : Char)
  /-- Any character. -/
  | one
  /-- Any characters. -/
  | many
  /-- One of the characters in some ranges, or none of them. -/
  | set (negated : Bool) (ranges : List (Char × Char))
  deriving DecidableEq, Repr

/-- The ranges of a set and what follows its closing bracket. A closing bracket that comes first
belongs to the set, and so does a dash that comes last. -/
def setRanges (first : Bool) : List Marked → Option (List (Char × Char) × List Marked)
  | [] => none
  | (c, q) :: ('-', false) :: (d, r) :: rest =>
    if c = ']' && !q && !first then some ([], ('-', false) :: (d, r) :: rest)
    else if d = ']' && !r then some ([(c, c), ('-', '-')], rest)
    else (setRanges false rest).map fun (ranges, rest) => ((c, d) :: ranges, rest)
  | (c, q) :: rest =>
    if c = ']' && !q && !first then some ([], rest)
    else (setRanges false rest).map fun (ranges, rest) => ((c, c) :: ranges, rest)

/-- The parts of a pattern. Each round takes at least one character, so the length of the pattern
bounds their number. -/
def globParts : Nat → List Marked → List GlobPart
  | 0, _ => []
  | _, [] => []
  | fuel + 1, (c, true) :: rest => .exactly c :: globParts fuel rest
  | fuel + 1, (c, false) :: rest =>
    if c = '*' then .many :: globParts fuel rest
    else if c = '?' then .one :: globParts fuel rest
    else if c = '[' then
      let (negated, inner) := match rest with
        | ('!', false) :: inner => (true, inner)
        | inner => (false, inner)
      match setRanges true inner with
      | some (ranges, rest) => .set negated ranges :: globParts fuel rest
      | none => .exactly c :: globParts fuel rest
    else .exactly c :: globParts fuel rest

/-- The pattern that marked characters spell. -/
def globOf (marked : List Marked) : List GlobPart := globParts (marked.length + 1) marked

/-- The ends of a text, the longest first. -/
def endings : Chars → List Chars
  | [] => [[]]
  | c :: rest => (c :: rest) :: endings rest

/-- Whether a part of a pattern stands for a character. -/
def GlobPart.holds (c : Char) : GlobPart → Bool
  | exactly d => c = d
  | one => true
  | many => false
  | set negated ranges => ranges.any (fun (lo, hi) => lo ≤ c && c ≤ hi) != negated

/-- Whether a text fits a pattern. -/
def fitsGlob : List GlobPart → Chars → Bool
  | [], cs => cs.isEmpty
  | .many :: parts, cs => (endings cs).any (fitsGlob parts)
  | part :: parts, cs =>
    match cs with
    | [] => false
    | c :: rest => part.holds c && fitsGlob parts rest

/-- A text without its shortest or longest beginning that fits a pattern. -/
def withoutFront (parts : List GlobPart) (longest : Bool) (cs : Chars) : Chars :=
  let ends := if longest then (endings cs).reverse else endings cs
  (ends.find? fun rest => fitsGlob parts (cs.take (cs.length - rest.length))).getD cs

/-- A text without its shortest or longest end that fits a pattern. -/
def withoutBack (parts : List GlobPart) (longest : Bool) (cs : Chars) : Chars :=
  let ends := if longest then endings cs else (endings cs).reverse
  match ends.find? (fitsGlob parts) with
  | some last => cs.take (cs.length - last.length)
  | none => cs

/-! ## Files -/

/-- The bytes of a text, one character for each. -/
def charsOf (text : String) : Chars := (Bytes.ofText text).map fun b => Char.ofNat b.toNat

/-- The bytes that characters stand for. -/
def bytesOf (cs : Chars) : Bytes := cs.map fun c => UInt8.ofNat c.toNat

/-- The text that characters stand for. -/
def textOf (cs : Chars) : String := Bytes.textLossy (bytesOf cs)

/-- The names in a directory. -/
def namesIn (t : FileTree) (place : Place) : List Chars :=
  t.entries.filterMap fun (q, _) =>
    if q.dropLast = place && !q.isEmpty then q.getLast?.map charsOf else none

/-- Whether a word is a pattern. -/
def isGlob (marked : List Marked) : Bool :=
  marked.any fun (c, quoted) => !quoted && (c = '*' || c = '?' || c = '[')

/-- Cuts marked characters at slashes; `part` holds the current part in reverse. -/
def markedParts (part : List Marked) : List Marked → List (List Marked)
  | [] => [part.reverse]
  | (c, q) :: rest =>
    if c = '/' then part.reverse :: markedParts [] rest else markedParts ((c, q) :: part) rest

/-- The names in a directory that fit a part of a pattern; a name that begins with a dot has to be
asked for. -/
def fittingNames (t : FileTree) (directory : Chars) (part : List Marked) : List Chars :=
  match t.find true (textOf (if directory.isEmpty then ['.'] else directory)) with
  | .ok (place, .directory) =>
    let hidden := (part.head?.map (·.1 == '.')).getD false
    ((namesIn t place).filter fun name =>
      (hidden || name.head? ≠ some '.') && fitsGlob (globOf part) name).mergeSort
        fun a b => !(b < a)
  | _ => []

/-- The paths that fit the parts of a pattern below a path. -/
def fittingPaths (t : FileTree) : List (List Marked) → Chars → List Chars
  | [], path => [path]
  | part :: rest, path =>
    let slash : Chars := if rest.isEmpty then [] else ['/']
    if isGlob part then
      (fittingNames t path part).flatMap fun name => fittingPaths t rest (path ++ name ++ slash)
    else fittingPaths t rest (path ++ part.map Prod.fst ++ slash)

/-- The paths that a word stands for: those that fit it, or the word itself if there are none. -/
def expandPaths (t : FileTree) (marked : List Marked) : List Chars :=
  let found := if isGlob marked then
      (fittingPaths t (markedParts [] marked) []).filter fun path =>
        (t.find true (textOf path)).toOption.isSome
    else []
  if found.isEmpty then [marked.map Prod.fst] else found

end CompilerTest.Shell

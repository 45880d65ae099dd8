import CompilerTest.Unicode.Case

/-!
# Regular expressions

The syntax of patterns, once read. Patterns and the texts they are matched against are lists of
code points; a pattern over byte strings is the same thing over code points below 256.

A part of a pattern is matched under a set of switches. A group may turn switches on and off for
what it encloses, so the tree keeps them where they are written and a part has a meaning of its own
under the switches around it.
-/

namespace CompilerTest

namespace Regex

/-! ## Switches -/

/-- What a pattern can turn on by a letter. -/
inductive Switch where
  /-- The letter `i`: the case of letters does not matter. -/
  | ignoreCase
  /-- The letter `L`: classes of bytes follow the environment, which knows ASCII only. -/
  | environmentClasses
  /-- The letter `m`: the ends of lines count as ends of the text. -/
  | multiline
  /-- The letter `s`: the dot matches a line feed too. -/
  | dotAll
  /-- The letter `x`: blanks and comments in the pattern are skipped. -/
  | verbose
  /-- The letter `a`: classes hold ASCII characters only. -/
  | asciiClasses
  /-- The letter `t`: repetitions are refused. -/
  | noRepeats
  /-- The letter `u`: classes follow the Unicode standard. -/
  | unicodeClasses
  deriving DecidableEq, Repr

namespace Switch

/-- The switch of a letter. -/
def ofLetter? (c : Nat) : Option Switch :=
  if c = 'i'.toNat then some ignoreCase
  else if c = 'L'.toNat then some environmentClasses
  else if c = 'm'.toNat then some multiline
  else if c = 's'.toNat then some dotAll
  else if c = 'x'.toNat then some verbose
  else if c = 'a'.toNat then some asciiClasses
  else if c = 't'.toNat then some noRepeats
  else if c = 'u'.toNat then some unicodeClasses
  else none

/-- Whether the switch chooses what the classes hold; only one of these can be on. -/
def choosesClasses : Switch → Bool
  | asciiClasses => true
  | environmentClasses => true
  | unicodeClasses => true
  | _ => false

/-- Whether the switch holds for a whole pattern only. -/
def isGlobal : Switch → Bool
  | noRepeats => true
  | _ => false

/-- The switches inside a group that turns some on and some off. A switch that chooses classes takes
the place of the one before. -/
def within (outer on off : List Switch) : List Switch :=
  let kept := if on.any choosesClasses then outer.filter (!·.choosesClasses) else outer
  (kept ++ on).filter (!off.contains ·)

end Switch

/-! ## Tests of one character -/

/-- The classes of characters that a pattern can name. -/
inductive Category where
  | digit
  | space
  | word
  deriving DecidableEq, Repr

/-- A part of a set of characters. -/
inductive SetItem where
  /-- One character. -/
  | literal (c : Nat)
  /-- The characters between two, both included. -/
  | range (lo hi : Nat)
  /-- The characters of a class, or those outside it. -/
  | category (category : Category) (negated : Bool)
  deriving DecidableEq, Repr

/-- A test of a single character. -/
inductive CharTest where
  /-- The dot. -/
  | any
  /-- One character, or all others. -/
  | literal (c : Nat) (negated : Bool)
  /-- The characters of a set, or those outside it. -/
  | set (items : List SetItem) (negated : Bool)
  deriving DecidableEq, Repr

/-! ## Tests of a place -/

/-- A test of a place in the text. -/
inductive Anchor where
  /-- The caret. -/
  | beginning
  /-- The dollar sign. -/
  | ending
  /-- The beginning of the text, whatever the switches. -/
  | beginningOfText
  /-- The end of the text, whatever the switches. -/
  | endOfText
  /-- An end of a word. -/
  | boundary
  /-- No end of a word. -/
  | nonBoundary
  deriving DecidableEq, Repr

/-! ## Patterns -/

/-- Which number of rounds a repetition tries first, and whether it reconsiders. -/
inductive Greed where
  /-- As many rounds as possible, then fewer. -/
  | greedy
  /-- As few rounds as possible, then more. -/
  | lazy
  /-- As many rounds as possible, and no fewer. -/
  | possessive
  deriving DecidableEq, Repr

/-- A part of a pattern. -/
inductive Node where
  /-- Matches nothing, everywhere. -/
  | empty
  /-- One character. -/
  | char (test : CharTest)
  /-- A place. -/
  | anchor (anchor : Anchor)
  /-- One part after the other. -/
  | seq (first second : Node)
  /-- One part or, failing that, the other. -/
  | alt (first second : Node)
  /-- Between `least` and `most` rounds of a part; no upper bound if `most` is absent. -/
  | repeated (greed : Greed) (least : Nat) (most : Option Nat) (body : Node)
  /-- A part that is captured under a number, or only enclosed, with switches of its own. -/
  | group (number : Option Nat) (on off : List Switch) (body : Node)
  /-- The text that a group has captured. -/
  | reference (number : Nat)
  /-- One part if a group has captured something, the other if not. -/
  | conditional (number : Nat) (yes no : Node)
  /-- A part that is, or is not, ahead of this place or behind it. -/
  | look (behind negated : Bool) (body : Node)
  /-- A part that is not reconsidered once it has matched. -/
  | atomic (body : Node)
  deriving DecidableEq, Repr, Inhabited

namespace Node

/-- Parts one after the other. -/
def ofList : List Node → Node
  | [] => empty
  | [n] => n
  | n :: rest => seq n (ofList rest)

/-- One part or another, in order of preference. -/
def ofAlternatives : List Node → Node
  | [] => empty
  | [n] => n
  | n :: rest => alt n (ofAlternatives rest)

/-- Widths are counted up to this bound. -/
def widthLimit : Nat := Nat.pow 2 64

/-- The widths of one part after another. -/
def addWidths (a b : Nat × Nat) : Nat × Nat :=
  (min (a.1 + b.1) widthLimit, min (a.2 + b.2) widthLimit)

/-- The widths of one part or another. -/
def joinWidths (a b : Nat × Nat) : Nat × Nat := (min a.1 b.1, max a.2 b.2)

/-- The widths of several rounds of a part. -/
def repeatWidths (least : Nat) (most : Option Nat) (a : Nat × Nat) : Nat × Nat :=
  let top := match most with
    | some n => a.2 * n
    | none => if a.2 = 0 then 0 else widthLimit
  (min (a.1 * least) widthLimit, min top widthLimit)

/-- The least and the greatest number of characters that a part can match, where `groups` gives the
widths of the groups. -/
def width (groups : Nat → Nat × Nat) : Node → Nat × Nat
  | empty => (0, 0)
  | char _ => (1, 1)
  | anchor _ => (0, 0)
  | seq a b => addWidths (a.width groups) (b.width groups)
  | alt a b => joinWidths (a.width groups) (b.width groups)
  | repeated _ least most body => repeatWidths least most (body.width groups)
  | group _ _ _ body => body.width groups
  | reference n => groups n
  | conditional _ yes no => joinWidths (yes.width groups) (no.width groups)
  | look _ _ _ => (0, 0)
  | atomic body => body.width groups

end Node

end Regex

/-- A pattern that has been read. -/
structure Regex where
  /-- Whether it is a pattern over texts; otherwise it is one over byte strings. -/
  overText : Bool
  /-- The pattern itself. -/
  root : Regex.Node
  /-- The switches around the whole pattern. -/
  switches : List Regex.Switch
  /-- The least and the greatest width of each group, from the first on. -/
  widths : List (Nat × Nat)
  /-- The names of groups, with their numbers. -/
  names : List (String × Nat)
  deriving Inhabited

/-- The number of groups of a pattern. -/
def Regex.groups (r : Regex) : Nat := r.widths.length

end CompilerTest

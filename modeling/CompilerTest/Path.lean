import CompilerTest.Text.Quoted
import CompilerTest.Text.Lines

/-!
# Paths

A path is a root, if it is absolute, and the names below it. Blank parts and parts that name the
same directory are dropped when a path is read; parts that name the parent are kept, since what they
lead to depends on links. Nothing here looks at files. Names are texts: those of bytes that are no
text are left out.
-/

namespace CompilerTest

/-- Where a path begins. -/
inductive Root where
  /-- In the working directory. -/
  | relative
  /-- At the root. -/
  | single
  /-- At a root of its own, written with two slashes. -/
  | double
  deriving DecidableEq, Repr, Inhabited

/-- The text of a root. -/
def Root.text : Root → String
  | relative => ""
  | single => "/"
  | double => "//"

/-- A path. -/
structure Path where
  /-- Where it begins. -/
  root : Root
  /-- The names that lead on from there. -/
  names : List String
  deriving DecidableEq, Repr, Inhabited

namespace Path

/-- Cuts characters at slashes; `part` holds the current part in reverse. -/
def splitFrom (part : List Char) : List Char → List (List Char)
  | [] => [part.reverse]
  | c :: rest => if c = '/' then part.reverse :: splitFrom [] rest else splitFrom (c :: part) rest

/-- The parts of a text between its slashes. -/
def split (text : String) : List String := (splitFrom [] text.toList).map String.ofList

/-- The root that a text begins with: two slashes are a root of their own, three or more are one. -/
def rootOf : List Char → Root
  | '/' :: '/' :: '/' :: _ => .single
  | '/' :: '/' :: _ => .double
  | '/' :: _ => .single
  | _ => .relative

/-- Whether a part of a text counts as a name. -/
def isName (part : String) : Bool := part ≠ "" && part ≠ "."

/-- The path that a text spells. -/
def ofText (text : String) : Path := ⟨rootOf text.toList, (split text).filter isName⟩

/-- The text of a path; the empty one is a single dot. -/
def text (p : Path) : String :=
  if p.root = .relative && p.names.isEmpty then "."
  else p.root.text ++ String.intercalate "/" p.names

/-- Whether the path begins at a root. -/
def isAbsolute (p : Path) : Bool := p.root ≠ .relative

/-- The second path as seen from the first. -/
def join (p q : Path) : Path := if q.isAbsolute then q else ⟨p.root, p.names ++ q.names⟩

/-- A path with further names below it. -/
def below (p : Path) (names : List String) : Path := ⟨p.root, p.names ++ names⟩

/-- The path without its last name. -/
def parent (p : Path) : Path := ⟨p.root, p.names.dropLast⟩

/-- The last name, or nothing for a root and for the empty path. -/
def name (p : Path) : String := p.names.getLast?.getD ""

/-- The names that lead from the second path to the first, if it lies below it. -/
def relativeTo? (p base : Path) : Option (List String) :=
  if p.root = base.root && base.names.isPrefixOf p.names then some (p.names.drop base.names.length)
  else none

/-! ## Suffixes -/

/-- The number of characters of a name before its last dot, if the dot is neither the first nor the
last character. -/
def dotIndex? (name : List Char) : Option Nat :=
  let tail := name.reverse.takeWhile (· ≠ '.')
  let index := name.length - tail.length - 1
  if tail.length < name.length && 0 < index && !tail.isEmpty then some index else none

/-- A name without its suffix. -/
def stemOf (name : String) : String :=
  match dotIndex? name.toList with
  | some i => String.ofList (name.toList.take i)
  | none => name

/-- The last name without its suffix. -/
def stem (p : Path) : String := stemOf p.name

/-- Why a path gets no other suffix. -/
inductive SuffixError where
  /-- The suffix is no suffix. -/
  | invalid (suffix : String)
  /-- The path has no last name. -/
  | noName (path : Path)
  deriving DecidableEq, Repr

/-- A path as messages show it when they name its type. -/
def shown (p : Path) : String := "PosixPath(" ++ Text.quote p.text ++ ")"

/-- The message of a suffix error. -/
def SuffixError.message : SuffixError → String
  | invalid suffix => "Invalid suffix " ++ Text.quote suffix
  | noName path => path.shown ++ " has an empty name"

/-- The path with another suffix, which begins with a dot and holds more than it. -/
def withSuffix (p : Path) (suffix : String) : Except SuffixError Path :=
  if suffix.toList.contains '/' || suffix = "." then .error (.invalid suffix)
  else if p.name = "" then .error (.noName p)
  else .ok ⟨p.root, p.names.dropLast ++ [p.stem ++ suffix]⟩

end Path

end CompilerTest

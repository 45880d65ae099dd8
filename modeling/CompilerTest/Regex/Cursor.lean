import CompilerTest.Regex.Basic
import CompilerTest.Regex.Error

/-!
# Walking over a pattern

A pattern is read in tokens: a character, or a backslash together with the character after it. The
state of reading holds what is left of the pattern and what is known of its groups so far. A
backslash with nothing after it is refused as soon as it is the next token.
-/

namespace CompilerTest

namespace Regex

/-- The state of reading a pattern. -/
structure Cursor where
  /-- Whether the pattern is over texts. -/
  overText : Bool
  /-- The whole pattern. -/
  pattern : List Nat
  /-- The number of characters that have been read. -/
  position : Nat
  /-- The characters that are left. -/
  rest : List Nat
  /-- The switches for the whole pattern so far. -/
  switches : List Switch
  /-- The names of groups so far, with their numbers. -/
  names : List (String × Nat)
  /-- The widths of the groups so far; absent for an open group. -/
  widths : List (Option (Nat × Nat))
  /-- The number of the first group that the outermost enclosing look-behind may open. -/
  lookbehind : Option Nat
  /-- The group numbers that conditions name, with the places where they first do. -/
  conditions : List (Nat × Nat)

/-- Reading a pattern. -/
abbrev Reading := StateT Cursor (Except Error)

/-- A token: a character, or a backslash with the character after it. -/
inductive Token where
  | plain (c : Nat)
  | escape (c : Nat)
  deriving DecidableEq

namespace Token

/-- The text of a token. -/
def codes : Token → List Nat
  | plain c => [c]
  | escape c => [0x5c, c]

/-- The number of characters of a token. -/
def size (t : Token) : Nat := t.codes.length

/-- Whether the token is this character. -/
def is (t : Token) (c : Char) : Bool := t == plain c.toNat

/-- Whether the token is one of these characters. -/
def isIn (t : Token) (cs : String) : Bool := cs.toList.any (t.is ·)

end Token

/-- The text of code points. -/
def textOf (codes : List Nat) : String := String.ofList (codes.map Char.ofNat)

/-- The text of a token. -/
def Token.text (t : Token) : String := textOf t.codes

/-! ## Steps -/

/-- Refuses the pattern, `back` characters before the place that has been reached. -/
def fail {α : Type} (defect : Defect) (back : Nat) : Reading α := fun c =>
  .error (.malformed defect (some (Place.of c.pattern (c.position - back))) c.overText)

/-- Refuses a pattern of which only a backslash is left. -/
def Cursor.checked (c : Cursor) : Except Error Cursor :=
  if c.rest = [0x5c] then
    .error (.malformed .danglingEscape (some (Place.of c.pattern (c.pattern.length - 1))) true)
  else .ok c

/-- The state with another place in the pattern. -/
def Cursor.moved (c : Cursor) (position : Nat) (rest : List Nat) : Cursor :=
  { c with position, rest }

/-- The place at which the next token begins. -/
def here : Reading Nat := return (← get).position

/-- One more than the number of characters that are left: enough rounds for a loop that takes one in
each. -/
def rounds : Reading Nat := return (← get).rest.length + 1

/-- The next token, which is not taken. -/
def peek : Reading (Option Token) := do
  match (← get).rest with
  | [] => return none
  | 0x5c :: c :: _ => return some (.escape c)
  | c :: _ => return some (.plain c)

/-- Takes the next token. -/
def next : Reading (Option Token) := do
  match ← peek with
  | none => return none
  | some t =>
    let c ← get
    set (← (c.moved (c.position + t.size) (c.rest.drop t.size)).checked)
    return some t

/-- Goes back to a place that has been passed. -/
def seek (position : Nat) : Reading Unit := do
  let c ← get
  set (← (c.moved position (c.pattern.drop position)).checked)

/-- Whether the next token is this character. -/
def nextIs (c : Char) : Reading Bool := return (← peek) == some (.plain c.toNat)

/-- Takes the next token if it is this character. -/
def accept (c : Char) : Reading Bool := do
  if ← nextIs c then
    let _ ← next
    return true
  else return false

/-- Takes at most `n` tokens that are characters of a class. -/
def takeWhile (n : Nat) (p : Nat → Bool) : Reading (List Nat) :=
  match n with
  | 0 => return []
  | n + 1 => do
    match ← peek with
    | some (.plain c) =>
      if p c then
        let _ ← next
        return c :: (← takeWhile n p)
      else return []
    | _ => return []

/-- Takes the tokens up to a terminator and the terminator itself; `what` names what is missing if
there are none. `fuel` bounds the number of tokens. -/
def takeUntil (terminator : Char) (what : String) (fuel : Nat) (acc : List Nat) :
    Reading (List Nat) :=
  match fuel with
  | 0 => return acc
  | fuel + 1 => do
    match ← next with
    | none =>
      if acc.isEmpty then fail (.missing what) 0
      else fail (.unterminatedName terminator) acc.length
    | some t =>
      if t.is terminator then
        if acc.isEmpty then fail (.missing what) 1 else return acc
      else takeUntil terminator what fuel (acc ++ t.codes)

/-- The name up to a terminator. -/
def takeName (terminator : Char) (what : String) : Reading (List Nat) := do
  takeUntil terminator what (← rounds) []

/-! ## Groups -/

/-- The number of groups so far, the whole match included. -/
def Cursor.groupCount (c : Cursor) : Nat := c.widths.length + 1

/-- The widths of a group that is closed. -/
def Cursor.groupWidth? (c : Cursor) (number : Nat) : Option (Nat × Nat) :=
  if number = 0 then none else (c.widths[number - 1]?).join

/-- The widths of a group, or none at all if it is open. -/
def Cursor.groupWidth (c : Cursor) (number : Nat) : Nat × Nat :=
  (c.groupWidth? number).getD (0, 0)

/-- Refuses a reference, inside a look-behind, to a group that is open or belongs to it. -/
def checkLookbehind (number : Nat) : Reading Unit := do
  let c ← get
  match c.lookbehind with
  | none => return
  | some first =>
    if (c.groupWidth? number).isNone then fail .openGroup 0
    else if number ≥ first then fail .groupOfSameLookbehind 0
    else return

/-- Opens a group and gives its number. A name must be new; `back` is where a complaint about it
stands. -/
def openGroup (name : Option String) (back : Nat) : Reading Nat := do
  let c ← get
  let number := c.groupCount
  match name with
  | none =>
    set { c with widths := c.widths ++ [none] }
    return number
  | some name =>
    match c.names.lookup name with
    | some old => fail (.groupRedefined name number old) back
    | none =>
      set { c with widths := c.widths ++ [none], names := c.names ++ [(name, number)] }
      return number

/-- Closes a group with its content. -/
def closeGroup (number : Nat) (body : Node) : Reading Unit := do
  let c ← get
  set { c with widths := c.widths.set (number - 1) (some (body.width c.groupWidth)) }

end Regex

end CompilerTest

import CompilerTest.Decimal.Shortest
import CompilerTest.Text.Quoted

/-!
# JSON values

Configuration, annotations and diagnostics arrive as JSON documents. An object keeps its members in
the order in which their names first appear, because that order decides which complaint about a
document comes first, in which order flags are applied, and how a value is shown in a message.

Whole numbers and numbers with a fraction are kept apart: both may stand where a document asks for
an integer, but they are shown differently.

A text in which a surrogate stands alone is kept as its code points. Where it is read as a text, the
replacement character stands for every lone surrogate, as it does in the names of members: two texts
that differ in nothing else are one from there on, be it the name of a revision, a file or a
message.
-/

namespace CompilerTest

/-- A number of a document. -/
inductive Number where
  /-- A whole number of any size. -/
  | int (value : Int)
  /-- A number that was written with a fraction or an exponent. -/
  | real (value : Double)
  deriving DecidableEq, Inhabited, Repr

namespace Number

/-- The integer that the number is equal to, if there is one. -/
def whole? : Number → Option Int
  | int n => some n
  | real x => x.whole?

/-- Whether the number is below the integer `n`. -/
def below : Number → Int → Bool
  | int m, n => m < n
  | real x, n => x.below n

/-- Whether the number is zero. -/
def isZero : Number → Bool
  | int n => n == 0
  | real (.finite _ s _) => s == 0
  | real _ => false

/-- The number as messages show it. -/
def display : Number → String
  | int n => toString n
  | real x => x.text

end Number

/-- A JSON value. -/
inductive Json where
  /-- The absent value. -/
  | null
  /-- A truth value. -/
  | bool (value : Bool)
  /-- A number. -/
  | number (value : Number)
  /-- A text. -/
  | text (value : String)
  /-- A text in which a surrogate stands without its partner, as its code points. -/
  | broken (codes : List Nat)
  /-- A list of values. -/
  | array (items : List Json)
  /-- Named values, in order of first appearance. -/
  | object (members : List (String × Json))
  deriving Inhabited

namespace Json

/-- A whole number as a JSON value. -/
def int (n : Int) : Json := .number (.int n)

/-! ## Members -/

/-- Puts a member into an object: a name that is already there keeps its place and takes the new
value. -/
def insert (name : String) (value : Json) : List (String × Json) → List (String × Json)
  | [] => [(name, value)]
  | (k, v) :: rest => if k = name then (k, value) :: rest else (k, v) :: insert name value rest

/-- The object with these members, given in the order of the document. -/
def ofMembers (members : List (String × Json)) : Json :=
  .object (members.foldl (fun acc (k, v) => insert k v acc) [])

/-- The members of an object; a value that is no object has none. -/
def members : Json → List (String × Json)
  | object ms => ms
  | _ => []

/-- The member with this name, if the value is an object that has one. -/
def get? (value : Json) (name : String) : Option Json := value.members.lookup name

/-- Whether the value is an object with a member of this name. -/
def has (value : Json) (name : String) : Bool := (value.get? name).isSome

/-! ## Reading values -/

/-- The characters of code points, with the replacement character for a lone surrogate. -/
def repaired (codes : List Nat) : String :=
  String.ofList (codes.map fun c => if 0xd800 ≤ c && c < 0xe000 then '\ufffd' else Char.ofNat c)

/-- The text of a value that is one. Lone surrogates are replaced in it. -/
def text? : Json → Option String
  | text s => some s
  | broken codes => some (repaired codes)
  | _ => none

/-- The code points of a value that is a text. Unlike the text itself, they tell apart lone
surrogates. -/
def codes? : Json → Option (List Nat)
  | text s => some (Text.codes s)
  | broken codes => some codes
  | _ => none

/-- The items of a value that is a list. -/
def items? : Json → Option (List Json)
  | array items => some items
  | _ => none

/-- The number of a value that is one. -/
def number? : Json → Option Number
  | number n => some n
  | _ => none

/-- Whether a value counts as true where a truth value is asked for: everything does but the absent
value, the false one, zero, and empty texts, lists and objects. -/
def truthy : Json → Bool
  | null => false
  | bool b => b
  | number n => !n.isZero
  | text s => !s.isEmpty
  | broken codes => !codes.isEmpty
  | array items => !items.isEmpty
  | object ms => !ms.isEmpty

/-! ## Showing values -/

mutual

/-- A value as messages show it: texts between quotes, lists in brackets, objects in braces. -/
def display : Json → String
  | null => "None"
  | bool b => if b then "True" else "False"
  | number n => n.display
  | text s => Text.quote s
  | broken codes => String.ofList (Text.quoteWith Unicode.printable.contains codes)
  | array items => "[" ++ String.intercalate ", " (displayItems items) ++ "]"
  | object ms => "\x7b" ++ String.intercalate ", " (displayMembers ms) ++ "\x7d"

/-- The items of a list, as messages show them. -/
def displayItems : List Json → List String
  | [] => []
  | v :: rest => v.display :: displayItems rest

/-- The members of an object, as messages show them. -/
def displayMembers : List (String × Json) → List String
  | [] => []
  | (k, v) :: rest => (Text.quote k ++ ": " ++ v.display) :: displayMembers rest

end

/-- A value as text: a text is itself, with lone surrogates replaced, and every other value is as
messages show it. -/
def asText : Json → String
  | text s => s
  | broken codes => repaired codes
  | v => v.display

end Json

end CompilerTest

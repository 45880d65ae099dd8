import CompilerTest.Json.Basic

/-!
# Shapes of documents

A `Check` tells whether a value has a certain shape and, if not, gives the first complaint about it
together with the place of the offending part. Checks are built from the combinators below; a list
of checks is tried in order, so the order in which a shape is written down decides which complaint
is reported.

Checks for one kind of value pass on values of another kind: that a value is of the right kind is a
check of its own.
-/

namespace CompilerTest

namespace Json

/-- The kinds of values that a document may ask for. -/
inductive Kind where
  | string
  | integer
  | boolean
  | null
  | array
  | object
  deriving DecidableEq, Repr

/-- The name of a kind. -/
def Kind.name : Kind → String
  | string => "string"
  | integer => "integer"
  | boolean => "boolean"
  | null => "null"
  | array => "array"
  | object => "object"

/-- Whether a value is of a kind. A number without a fraction is an integer, however it is
written. -/
def isOf : Json → Kind → Bool
  | .text _, .string => true
  | .broken _, .string => true
  | .number n, .integer => n.whole?.isSome
  | .bool _, .boolean => true
  | .null, .null => true
  | .array _, .array => true
  | .object _, .object => true
  | _, _ => false

/-- Whether two simple values are equal; numbers are compared by value. -/
def agrees : Json → Json → Bool
  | .text s, .text t => s == t
  | .number m, .number n => m.whole? == n.whole? && m.whole?.isSome
  | .null, .null => true
  | .bool a, .bool b => a == b
  | _, _ => false

/-- What is wrong with a document, and where. -/
structure Complaint where
  /-- The names and positions that lead to the offending part. -/
  path : List String
  /-- What is wrong with it. -/
  message : String
  deriving DecidableEq, Repr

/-- The place of a complaint in one line. -/
def Complaint.location (c : Complaint) : String :=
  if c.path.isEmpty then "<root>" else String.intercalate "." c.path

/-- A complaint about the value itself. -/
def complaint (message : String) : Complaint := ⟨[], message⟩

/-- A test of the shape of values, with the first complaint if it fails. -/
abbrev Check := Json → Option Complaint

namespace Check

/-- Several checks, in order. -/
def all (checks : List Check) : Check := fun v => checks.findSome? (· v)

/-- A check of a part of the value, which `part` names. -/
def within (part : String) (check : Check) : Check := fun v =>
  (check v).map fun c => { c with path := part :: c.path }

/-- The value is of one of these kinds. -/
def kind (kinds : List Kind) : Check := fun v =>
  if kinds.any (v.isOf ·) then none
  else
    let names := String.intercalate ", " (kinds.map fun k => Text.quote k.name)
    some (complaint (v.display ++ " is not of type " ++ names))

/-- The value is one of these. -/
def oneOf (values : List Json) : Check := fun v =>
  if values.any (·.agrees v) then none
  else some (complaint (v.display ++ " is not one of " ++ (Json.array values).display))

/-- A text is not empty. -/
def nonEmpty : Check := fun v =>
  if v.text? = some "" then some (complaint (v.display ++ " should be non-empty")) else none

/-- A number is at least `n`. -/
def atLeast (n : Int) : Check := fun v =>
  match v.number? with
  | some m =>
    if m.below n then some (complaint (v.display ++ s!" is less than the minimum of {n}")) else none
  | none => none

/-! ## Lists -/

/-- Checks the items from position `i` on. -/
def eachFrom (check : Check) (i : Nat) : List Json → Option Complaint
  | [] => none
  | v :: rest => (within (toString i) check v).or (eachFrom check (i + 1) rest)

/-- Every item of a list passes the check. -/
def each (check : Check) : Check := fun v => eachFrom check 0 (v.items?.getD [])

/-- No text appears twice in a list. -/
def distinct : Check := fun v =>
  if ((v.items?.getD []).filterMap Json.codes?).Nodup then none
  else some (complaint (v.display ++ " has non-unique elements"))

/-! ## Objects -/

/-- An object has these members. -/
def required (names : List String) : Check := fun v =>
  if v.isOf .object then
    (names.find? fun n => !v.has n).map fun n =>
      complaint (Text.quote n ++ " is a required property")
  else none

/-- An object has no other members than these. -/
def closed (names : List String) : Check := fun v =>
  let extra := (v.members.map Prod.fst).filter (!names.contains ·)
  if extra.isEmpty then none
  else
    let sorted := extra.mergeSort fun a b => !(decide (b < a))
    let verb := if extra.length = 1 then "was" else "were"
    some (complaint ("Additional properties are not allowed (" ++ Text.quoteList sorted ++
      s!" {verb} unexpected)"))

/-- An object that has the one member has the other one too. -/
def needs (name other : String) : Check := fun v =>
  if v.has name && !v.has other then
    some (complaint (Text.quote other ++ " is a dependency of " ++ Text.quote name))
  else none

/-- The member with this name passes the check, if it is there. -/
def member (name : String) (check : Check) : Check := fun v =>
  (v.get? name).bind (within name check)

/-- Every member of an object passes the check. -/
def everyMember (check : Check) : Check := fun v =>
  v.members.findSome? fun (name, w) => within name check w

/-- The value passes one of the checks. -/
def either (checks : List Check) : Check := fun v =>
  if checks.any fun check => (check v).isNone then none
  else some (complaint (v.display ++ " is not valid under any of the given schemas"))

end Check

end Json

end CompilerTest

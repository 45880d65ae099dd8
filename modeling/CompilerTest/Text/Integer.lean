import CompilerTest.Text.Quoted
import CompilerTest.Text.Lines

/-!
# Integer numerals

A numeral may have blanks around it, a sign, and single underscores between its digits; the digits
may come from any script. Numerals of more than `digitLimit` digits are refused.
-/

namespace CompilerTest.Text

/-- The greatest number of digits that is converted. -/
def digitLimit : Nat := 4300

/-- Why a text is not converted to an integer. -/
inductive IntegerError where
  /-- The text is no numeral. -/
  | invalid (text : String)
  /-- The numeral has `digits` digits, more than the limit. -/
  | tooLong (digits : Nat)
  deriving DecidableEq

/-- The message of an integer error. -/
def IntegerError.message : IntegerError → String
  | .invalid text =>
    "invalid literal for int() with base 10: " ++ String.ofList ((quote text).toList.take 200)
  | .tooLong digits =>
    s!"Exceeds the limit ({digitLimit} digits) for integer string conversion: value has " ++
      s!"{digits} digits; use sys.set_int_max_str_digits() to increase the limit"

/-- The digits at the front of a numeral and what follows them; nothing if underscores are doubled
or stand at an end. `digits` holds the digits so far in reverse, `joined` tells that an underscore
was just read. -/
def scanDigits (digits : List Nat) (joined : Bool) : List Char → Option (List Nat × List Char)
  | [] => if joined then none else some (digits.reverse, [])
  | c :: rest =>
    if c = '_' then
      if joined || digits.isEmpty then none else scanDigits digits true rest
    else match Unicode.digitValue? c.toNat with
      | some d => scanDigits (d :: digits) false rest
      | none => if joined then none else some (digits.reverse, c :: rest)

/-- The value of decimal digits. -/
def ofDigits (digits : List Nat) : Nat := digits.foldl (fun n d => 10 * n + d) 0

/-- Whether a numeral has a minus sign, and what follows its sign. -/
def takeSign : List Char → Bool × List Char
  | '-' :: rest => (true, rest)
  | '+' :: rest => (false, rest)
  | body => (false, body)

/-- The integer that a text spells. -/
def integer? (text : String) : Except IntegerError Int :=
  let (negative, body) := takeSign (strip text).toList
  match scanDigits [] false body with
  | none => .error (.invalid text)
  | some (digits, rest) =>
    if digits.isEmpty then .error (.invalid text)
    else if digits.length > digitLimit then .error (.tooLong digits.length)
    else if !rest.isEmpty then .error (.invalid text)
    else
      let n : Int := ofDigits digits
      .ok (if negative then -n else n)

end CompilerTest.Text

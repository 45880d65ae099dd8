import CompilerTest.Json.Basic
import CompilerTest.Text.Integer

/-!
# Errors in custom flags

Why a document gives no custom flag.
-/

namespace CompilerTest

/-- Why a document gives no flag. -/
inductive FlagError where
  /-- The document is no object. -/
  | notAnObject
  /-- There are no flags of this kind. -/
  | unsupportedKind (kind : Json)
  /-- The kind is a list or an object. -/
  | unusableKind (kind : Json)
  /-- A text is no exit status. -/
  | badStatus (error : Text.IntegerError)
  /-- A value of another kind is no exit status. -/
  | statusOfKind (value : Json)
  /-- A number that is none is no exit status. -/
  | statusNotANumber
  /-- An infinite number is no exit status. -/
  | infiniteStatus
  /-- The arguments are neither a list nor anything that can be taken apart. -/
  | argsOfKind (value : Json)

/-- The name of the kind of a value, as messages use it. -/
def Json.kindName : Json → String
  | .null => "NoneType"
  | .bool _ => "bool"
  | .number (.int _) => "int"
  | .number (.real _) => "float"
  | .text _ => "str"
  | .broken _ => "str"
  | .array _ => "list"
  | .object _ => "dict"

/-- The wording of a flag error. -/
def FlagError.message : FlagError → String
  | notAnObject => "a custom flag must be an object"
  | unsupportedKind kind =>
    "unsupported custom flag kind " ++ kind.display ++ "; expected one of: args, run"
  | unusableKind kind => s!"unhashable type: '{kind.kindName}'"
  | badStatus error => error.message
  | statusOfKind value =>
    "int() argument must be a string, a bytes-like object or a real number, not " ++
      s!"'{value.kindName}'"
  | statusNotANumber => "cannot convert float NaN to integer"
  | infiniteStatus => "cannot convert float infinity to integer"
  | argsOfKind value => s!"'{value.kindName}' object is not iterable"

end CompilerTest

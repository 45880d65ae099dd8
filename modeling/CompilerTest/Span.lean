import CompilerTest.Json.Basic
import CompilerTest.Path

/-!
# Spans

Where something stands: a file, a line, both, or neither. Lines come from documents, so they may be
written with a fraction of zero; a span shows its line as it was written.
-/

namespace CompilerTest

/-- Where something stands. -/
structure Span where
  /-- The file, if it is known. -/
  file : Option Path := none
  /-- The line, if it is known. -/
  line : Option Number := none
  deriving DecidableEq, Repr, Inhabited

/-- The text of a span. -/
def Span.describe : Span → String
  | ⟨none, none⟩ => "<unknown location>"
  | ⟨some file, none⟩ => file.text
  | ⟨none, some line⟩ => "<unknown file>:" ++ line.display
  | ⟨some file, some line⟩ => file.text ++ ":" ++ line.display

/-- A value with the place where it was set. -/
structure Spanned (α : Type) where
  /-- The value. -/
  content : α
  /-- Where it was set. -/
  span : Span
  deriving DecidableEq, Repr, Inhabited

/-- The line where a value was set. -/
def Spanned.line {α : Type} (s : Spanned α) : Option Number := s.span.line

end CompilerTest

import CompilerTest.Regex.Replacement

/-!
# Normalization rules

Parts of the output that differ from run to run are replaced before the output is compared. A rule
replaces every match of a pattern over bytes.
-/

namespace CompilerTest

/-- A normalization rule. -/
structure Normalization where
  /-- The pattern as it was written. -/
  source : Bytes
  /-- The pattern. -/
  regex : Regex
  /-- What every match is replaced by. -/
  replacement : Bytes
  deriving Inhabited

namespace Normalization

/-- Applies a rule. -/
def apply (rule : Normalization) (text : Bytes) : Except Regex.Error Bytes :=
  rule.regex.replaceAll rule.replacement text

/-- Applies rules one after the other. -/
def applyAll (rules : List Normalization) (text : Bytes) : Except Regex.Error Bytes :=
  rules.foldlM (fun text rule => rule.apply text) text

end Normalization

end CompilerTest

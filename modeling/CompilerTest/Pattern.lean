import CompilerTest.Regex.Parser
import CompilerTest.Regex.Matcher

/-!
# Patterns for messages

What a test expects of the text of a message: that a text stands in it, or that a regular expression
matches somewhere in it.
-/

namespace CompilerTest

/-- A pattern for the text of a message. -/
structure Pattern where
  /-- The text or the regular expression. -/
  text : String
  /-- Whether it is a regular expression. -/
  regex : Bool := false
  deriving DecidableEq, Repr, Inhabited

namespace Pattern

/-- Whether the text of a message fits the pattern. -/
def fits (p : Pattern) (message : String) : Except Regex.Error Bool :=
  if p.regex then do
    let r ← Regex.ofText p.text
    return r.occursIn (Text.codes message).toArray
  else .ok (Text.occursIn p.text.toList message.toList)

/-- The pattern as messages show it. -/
def shown (p : Pattern) : String := if p.regex then "/" ++ p.text ++ "/" else Text.quote p.text

end Pattern

end CompilerTest

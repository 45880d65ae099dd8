import CompilerTest.Shell.Arithmetic
import CompilerTest.Shell.Parser
import CompilerTest.Shell.State

/-!
# Expanding words

The pieces of a word are expanded to characters that remember whether they were quoted and whether
they come from an expansion. Unquoted expansions are taken apart at separators, which gives fields;
fields that are patterns are replaced by the files that fit them.
-/

namespace CompilerTest.Shell

/-- An expanded part of a word. -/
inductive Item where
  /-- A character. It may be a separator only if it `splits`. -/
  | char (c : Char) (quoted splits : Bool)
  /-- A mark for quotes, which make a field even if nothing stands between them. -/
  | quotes
  /-- The end of a field. -/
  | gap
  deriving DecidableEq, Repr

/-- The items of a value that was expanded. -/
def itemsOf (quoted : Bool) (value : Chars) : List Item :=
  let chars := value.map fun c => Item.char c quoted !quoted
  if quoted then .quotes :: chars else chars

/-- The characters of items, with a blank for the end of a field. -/
def plainItems (items : List Item) : Chars :=
  items.filterMap fun
    | .char c _ _ => some c
    | .quotes => none
    | .gap => some ' '

/-- The items of a pattern as marked characters. -/
def markedItems (items : List Item) : List Marked :=
  items.filterMap fun
    | .char c quoted _ => some (c, quoted)
    | .quotes => none
    | .gap => some (' ', true)

/-! ## Parameters -/

/-- The decimal digits of a number. -/
def digitsOf (n : Nat) : Chars := (toString n).toList

/-- The value of a parameter, if it has one. -/
def parameterValue (p : Process) (name : Chars) : Option Chars :=
  match name with
  | ['#'] => some (digitsOf p.params.length)
  | ['?'] => some (digitsOf p.status)
  | ['$'] => some (digitsOf p.number)
  | ['-'] => some ((if p.endsOnFailure then ['e'] else []) ++ if p.endsOnUnset then ['u'] else [])
  | ['!'] => none
  | ['@'] => if p.params.isEmpty then none else some (List.intercalate [' '] p.params)
  | ['*'] => if p.params.isEmpty then none else some (List.intercalate [' '] p.params)
  | _ =>
    match (String.ofList name).toNat? with
    | some 0 => some p.name
    | some (n + 1) => p.params[n]?
    | none => p.valueOf? name

/-- The characters that separate fields. -/
def separators (p : Process) : Chars := (p.valueOf? "IFS".toList).getD [' ', '\t', '\n']

/-- The items of all parameters at once. -/
def allParameters (p : Process) (name : Chars) (quoted : Bool) : List Item :=
  if name = ['*'] && quoted then
    itemsOf true (List.intercalate ((separators p).take 1) p.params)
  else (p.params.map (itemsOf quoted)).intersperse [.gap] |>.flatten

/-- How the words of a script are expanded: by the output of commands, and by reading operands. -/
structure Expander where
  /-- The output of commands. -/
  capture : Chars → Act Chars
  /-- The line of the command. -/
  line : Nat

/-- The items of an operand. -/
def operandItems (x : Expander) (inner : Word → Act (List Item)) (quoted : Bool)
    (operand : Chars) : Act (List Item) :=
  match operandWord quoted operand with
  | .ok word => return (if quoted then [.quotes] else []) ++ (← inner word)
  | .error e => giveUp x.line e.message

/-- The items of a parameter after what is done to it. -/
def changedItems (x : Expander) (inner : Word → Act (List Item)) (name : Chars) (change : Change)
    (operand : Chars) (quoted : Bool) : Act (List Item) := do
  let p ← process
  let value := parameterValue p name
  let absent (orEmpty : Bool) : Bool := value.isNone || (orEmpty && value = some [])
  match change with
  | .plain =>
    if value.isNone && p.endsOnUnset then
      giveUp x.line (String.ofList name ++ ": parameter not set")
    else return itemsOf quoted (value.getD [])
  | .length => return itemsOf quoted (digitsOf (value.getD []).length)
  | .orElse orEmpty =>
    if absent orEmpty then operandItems x inner quoted operand
    else return itemsOf quoted (value.getD [])
  | .orAssign orEmpty =>
    if absent orEmpty then
      let items ← operandItems x inner quoted operand
      modifyProcess (·.assign name (plainItems items))
      return itemsOf quoted (plainItems items)
    else return itemsOf quoted (value.getD [])
  | .orFail orEmpty =>
    if absent orEmpty then
      let items ← operandItems x inner quoted operand
      let usual := if orEmpty then "parameter not set or null" else "parameter not set"
      let text := if operand.isEmpty then usual else textOf (plainItems items)
      giveUp x.line (String.ofList name ++ ": " ++ text)
    else return itemsOf quoted (value.getD [])
  | .ifPresent orEmpty =>
    if absent orEmpty then return itemsOf quoted []
    else operandItems x inner quoted operand
  | .withoutFront longest =>
    let items ← operandItems x inner false operand
    return itemsOf quoted (withoutFront (globOf (markedItems items)) longest (value.getD []))
  | .withoutBack longest =>
    let items ← operandItems x inner false operand
    return itemsOf quoted (withoutBack (globOf (markedItems items)) longest (value.getD []))

/-! ## Words -/

/-- The number that a formula stands for; the variables that it changes are set. -/
def formulaValue (x : Expander) (inner : Word → Act (List Item)) (source : Chars) : Act Chars := do
  let text := plainItems (← operandItems x inner true source)
  match evalText (← process).valueOf? text with
  | .ok (n, changes) =>
    changes.reverse.forM fun (name, value) => modifyProcess (·.assign name value)
    return (toString n.toInt).toList
  | .error e => giveUp x.line (e.message (textOf text))

/-- The items of a piece. -/
def pieceItems (x : Expander) (inner : Word → Act (List Item)) : Piece → Act (List Item)
  | .chars cs true => return .quotes :: cs.map fun c => .char c true false
  | .chars cs false => return cs.map fun c => .char c false false
  | .output source quoted => do
    let output ← x.capture source
    return itemsOf quoted (output.reverse.dropWhile (· == '\n')).reverse
  | .formula source quoted => return itemsOf quoted (← formulaValue x inner source)
  | .parameter name change operand quoted => do
    if (name = ['@'] || name = ['*']) && change = .plain then
      return allParameters (← process) name quoted
    else changedItems x inner name change operand quoted

/-- The items of a word, with operands nested at most `depth` deep. -/
def wordItems (x : Expander) : Nat → Word → Act (List Item)
  | 0, _ => throw .exhausted
  | depth + 1, word => do
    return (← word.mapM (pieceItems x (wordItems x depth))).flatten

/-- How deep operands may be nested. -/
def operandDepth : Nat := 100

/-- The characters of a word that is not taken apart. -/
def expandPlain (x : Expander) (word : Word) : Act Chars :=
  return plainItems (← wordItems x operandDepth word)

/-- The pattern that a word spells. -/
def expandPattern (x : Expander) (word : Word) : Act (List GlobPart) :=
  return globOf (markedItems (← wordItems x operandDepth word))

/-! ## Fields -/

/-- How far cutting into fields has come. -/
structure Cutting where
  /-- The fields, in reverse. -/
  fields : List (List Marked) := []
  /-- The current field in reverse, if one has begun. -/
  current : Option (List Marked) := none
  /-- Whether the last field was ended by a blank. -/
  blank : Bool := false

namespace Cutting

/-- Ends the current field, if one has begun. -/
def cut (c : Cutting) : Cutting :=
  match c.current with
  | some field => { c with fields := field.reverse :: c.fields, current := none }
  | none => c

/-- Adds an item. A separator that is no blank ends a field also if none has begun, unless blanks
have just ended one. -/
def add (separators : Chars) (c : Cutting) : Item → Cutting
  | .quotes => { c with current := some (c.current.getD []), blank := false }
  | .gap => { c.cut with blank := false }
  | .char ch quoted splits =>
    if splits && separators.contains ch then
      if ch = ' ' || ch = '\t' || ch = '\n' then
        { c.cut with blank := c.blank || c.current.isSome }
      else if c.blank then { c with blank := false }
      else { c with fields := (c.current.getD []).reverse :: c.fields, current := none }
    else { c with current := some ((ch, quoted) :: c.current.getD []), blank := false }

end Cutting

/-- The fields of items. -/
def fieldsOf (separators : Chars) (items : List Item) : List (List Marked) :=
  (items.foldl (Cutting.add separators) {}).cut.fields.reverse

/-- The fields of a word. -/
def expandWord (x : Expander) (word : Word) : Act (List Chars) := do
  let items ← wordItems x operandDepth word
  let fields := fieldsOf (separators (← process)) items
  let t ← tree
  return fields.flatMap (expandPaths t)

/-- The fields of words. -/
def expandWords (x : Expander) (words : List Word) : Act (List Chars) :=
  return (← words.mapM (expandWord x)).flatten

end CompilerTest.Shell

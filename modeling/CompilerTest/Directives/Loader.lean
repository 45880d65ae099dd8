import CompilerTest.Directives.Basic
import CompilerTest.Fault

/-!
# Reading directives

The shape of a document of directives and the directives that it stands for. The shape is checked as
a whole first; regular expressions, revisions and custom flags are checked set by set after that.
-/

namespace CompilerTest

namespace Directives

open Json

/-! ## The shape -/

/-- The names of levels in a document. -/
def levelNames : List Json :=
  [.text "error", .text "warn", .text "warning", .text "help", .text "note", .text "failure-note"]

/-- A line. -/
def lineShape : Check := .all [.kind [.integer], .atLeast 1]

/-- A text that is not empty. -/
def nonEmptyShape : Check := .all [.kind [.string], .nonEmpty]

/-- A list of texts. -/
def textListShape : Check := .all [.kind [.array], .each (.kind [.string])]

/-- A list of objects with required and allowed members, and with checks for the members. -/
def listOf (item : Check) : Check := .all [.kind [.array], .each item]

/-- An object with required members, a closed list of members, and checks for them in order. -/
def record (required : List String) (members : List (String × Check)) : Check :=
  .all ([.kind [.object], .required required, .closed (members.map Prod.fst)] ++
    members.map fun (name, check) => .member name check)

/-- The members of a pattern. -/
def patternMembers : List (String × Check) :=
  [("pattern", nonEmptyShape), ("regex", .kind [.boolean]), ("annotation_line", lineShape)]

/-- A message that is expected by its text. -/
def patternMatchShape : Check :=
  record ["line", "pattern", "level"]
    (patternMembers ++ [("line", lineShape), ("level", .oneOf levelNames)])

/-- A message that is expected by its code. -/
def codeMatchShape : Check :=
  record ["line", "code"]
    [("line", lineShape), ("code", nonEmptyShape), ("annotation_line", lineShape)]

/-- A normalization rule. -/
def normalizationShape : Check :=
  record ["pattern", "replacement"] [("pattern", nonEmptyShape), ("replacement", .kind [.string])]

/-- A build that the test needs. -/
def auxBuildShape : Check := record ["path"] [("path", nonEmptyShape), ("line", lineShape)]

/-- A custom flag, as far as its shape goes. -/
def customShape : Check :=
  .all [.kind [.object], .required ["kind"], .member "kind" (.kind [.string])]

/-- The members of a set of directives. -/
def setMembers : List (String × Check) :=
  [("revisions", listOf nonEmptyShape),
    ("line", lineShape),
    ("compile_flags", textListShape),
    ("env", .all [.kind [.object], .everyMember (.kind [.string])]),
    ("aux_builds", listOf auxBuildShape),
    ("error_matches", listOf (.either [patternMatchShape, codeMatchShape])),
    ("error_in_other_files", listOf (record ["pattern"] patternMembers)),
    ("normalize_stdout", listOf normalizationShape),
    ("normalize_stderr", listOf normalizationShape),
    ("diagnostic_code_prefix", .kind [.string]),
    ("require_annotations_for_level", .oneOf levelNames),
    ("stderr_per_bitwidth", .kind [.boolean]),
    ("mode", .oneOf (Mode.allNames.map Json.text)),
    ("require_patterns", .kind [.boolean]),
    ("custom", .all [.kind [.object], .everyMember customShape])]

/-- A set of directives. -/
def setShape : Check :=
  .all ([.kind [.object], .closed (setMembers.map Prod.fst), .needs "require_patterns" "mode"] ++
    setMembers.map fun (name, check) => .member name check)

/-- The shape of a document of directives. -/
def shape : Check :=
  .all [.kind [.object], .closed ["revisions", "directives"],
    .member "revisions" (.all [.kind [.array], .each nonEmptyShape, .distinct]),
    .member "directives" (listOf setShape)]

/-! ## Parts of a document -/

/-- The items of a member that is a list. -/
def itemsOf (v : Json) (name : String) : List Json := ((v.get? name).bind Json.items?).getD []

/-- The texts of a member that is a list. -/
def textsOf (v : Json) (name : String) : List String := (itemsOf v name).filterMap Json.text?

/-- The text of a member. -/
def textOf (v : Json) (name : String) : String := ((v.get? name).bind Json.text?).getD ""

/-- The number of a member. -/
def numberOf? (v : Json) (name : String) : Option Number := (v.get? name).bind Json.number?

/-- Whether a member is true; `default` if it is not there. -/
def flagOf (v : Json) (name : String) (default : Bool) : Bool :=
  match v.get? name with
  | some (.bool b) => b
  | _ => default

/-- A loop over the items of a list with their positions. -/
def forItems {α : Type} (read : Nat → Json → Except Fault α) (i : Nat) :
    List Json → Except Fault (List α)
  | [] => .ok []
  | v :: rest => do
    let a ← read i v
    return a :: (← forItems read (i + 1) rest)

/-- Checks a regular expression. A malformed one is an error in the directives; `reject` says
which. -/
def checked {α : Type} (reject : Regex.Error → DirectivesError) :
    Except Regex.Error α → Except Fault α
  | .ok a => .ok a
  | .error (.malformed defect place overText) =>
    .error (.directives (reject (.malformed defect place overText)))
  | .error error => .error (.regex error)

/-- The bytes of a text in a document. -/
def encoded (v : Json) : Except Fault Bytes :=
  match v with
  | .broken _ => .error .unencodable
  | v => .ok (Bytes.ofText (v.text?.getD ""))

/-- The pattern of an item of a list. -/
def readPattern (set : Nat) (list : String) (position : Nat) (span : Span) (v : Json) :
    Except Fault (Spanned Pattern) := do
  let pattern : Pattern := ⟨textOf v "pattern", flagOf v "regex" false⟩
  if pattern.regex then
    let _ ← checked (.badPattern set list position) (Regex.ofText pattern.text)
  return ⟨pattern, span⟩

/-- The level that a text of a document names. -/
def readLevel (text : String) : Except Fault Level :=
  match Level.ofText? text with
  | some level => .ok level
  | none => .error (.unknownLevel text)

/-- An expected message. -/
def readErrorMatch (file : Path) (set position : Nat) (v : Json) : Except Fault ErrorMatch := do
  let line := (numberOf? v "line").getD (.int 1)
  let span : Span := ⟨some file, some ((numberOf? v "annotation_line").getD line)⟩
  let kind ← if v.has "code" then pure (.code ⟨textOf v "code", span⟩)
    else do
      let pattern ← readPattern set "error_matches" position span v
      pure (Expectation.pattern pattern (← readLevel (textOf v "level")))
  match ErrorMatch.of? kind line with
  | some m => return m
  | none => .error (.badLine line)

/-- A normalization rule. -/
def readNormalization (set : Nat) (list : String) (position : Nat) (v : Json) :
    Except Fault Normalization := do
  let source ← encoded ((v.get? "pattern").getD .null)
  let regex ← checked (.badNormalization set list position) (Regex.ofBytes source)
  let replacement ← encoded ((v.get? "replacement").getD .null)
  return { source, regex, replacement }

/-- The mode of a set, if it has one. -/
def readMode (set : Nat) (v : Json) : Except Fault (Option Mode) :=
  if v.has "mode" then
    match Mode.ofName? (textOf v "mode") (flagOf v "require_patterns" true) with
    | some (.fail required) => .ok (some (.fail required))
    | some mode =>
      if v.has "require_patterns" then .error (.directives (.misplacedRequirement set mode))
      else .ok (some mode)
    | none => .ok none
  else .ok none

/-- A custom flag. -/
def readFlag (set : Nat) (span : Span) (name : String) (v : Json) :
    Except Fault (String × Spanned Flag) :=
  match Flag.ofJson v with
  | .ok flag => .ok (name, ⟨flag, span⟩)
  | .error .infiniteStatus => .error (.flag .infiniteStatus)
  | .error error => .error (.directives (.badFlag set name error))

/-- A set of directives for a file. -/
def readSet (file : Path) (set : Nat) (v : Json) : Except Fault DirectiveSet := do
  let line := numberOf? v "line"
  let span : Span := ⟨some file, line⟩
  let auxBuilds := (itemsOf v "aux_builds").map fun aux =>
    (⟨.ofText (textOf aux "path"), ⟨some file, (numberOf? aux "line").or line⟩⟩ : Spanned Path)
  let errorMatches ← forItems (readErrorMatch file set) 0 (itemsOf v "error_matches")
  let otherFiles ← forItems
    (fun i w =>
      readPattern set "error_in_other_files" i
        ⟨some file, (numberOf? w "annotation_line").or line⟩ w)
    0 (itemsOf v "error_in_other_files")
  let normalizeStdout ←
    forItems (readNormalization set "normalize_stdout") 0 (itemsOf v "normalize_stdout")
  let normalizeStderr ←
    forItems (readNormalization set "normalize_stderr") 0 (itemsOf v "normalize_stderr")
  let requiredLevel ← if v.has "require_annotations_for_level" then do
      let level ← readLevel (textOf v "require_annotations_for_level")
      pure (some (⟨level, span⟩ : Spanned Level))
    else pure none
  let mode ← readMode set v
  let custom ← ((v.get? "custom").map Json.members |>.getD []).mapM fun (name, w) =>
    readFlag set span name w
  return {
    revisions := textsOf v "revisions"
    span, auxBuilds, errorMatches, otherFiles, normalizeStdout, normalizeStderr, requiredLevel
    compileFlags := textsOf v "compile_flags"
    env := ((v.get? "env").map Json.members |>.getD []).filterMap fun (k, w) =>
      w.text?.map (k, ·)
    codePrefix :=
      if v.has "diagnostic_code_prefix" then some ⟨textOf v "diagnostic_code_prefix", span⟩
      else none
    perBitwidth := flagOf v "stderr_per_bitwidth" false
    mode := mode.map (⟨·, span⟩)
    custom }

/-- A set of directives for a file, whose revisions have to be declared. -/
def readDeclaredSet (file : Path) (declared : List String) (set : Nat) (v : Json) :
    Except Fault DirectiveSet :=
  let unknown := (textsOf v "revisions").filter (!declared.contains ·)
  if unknown.isEmpty then readSet file set v
  else .error (.directives (.undeclaredRevisions set unknown))

/-- The directives of a document for a file. -/
def ofJson (file : Path) (v : Json) : Except Fault Directives :=
  match shape v with
  | some complaint => .error (.directives (.invalid complaint))
  | none => do
    let revisions := textsOf v "revisions"
    let sets ← forItems (readDeclaredSet file revisions) 0 (itemsOf v "directives")
    return { revisions, sets }

/-- The directives in the document at a path, for a file. -/
def load (t : FileTree) (path file : Path) : Except Fault Directives := do
  let v ← (t.document path).mapError (Fault.ofDocument fun p => .directives (.document path p))
  ofJson file v

end Directives

end CompilerTest

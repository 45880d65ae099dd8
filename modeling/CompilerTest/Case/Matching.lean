import CompilerTest.Case.Basic

/-!
# Matching messages

The messages that a test expects are matched against those that the compiler has reported. Each
expectation takes the first message that satisfies it; what is left over at or above the required
level has not been expected. Expectations for other files come first, and those for lines follow in
the order of the directives.
-/

namespace CompilerTest

/-- The state of matching. -/
structure Matching where
  /-- The messages that are left on each line, from line zero on. -/
  lines : List (List Message)
  /-- The messages that are left without a line. -/
  unknown : List Message
  /-- What was wrong so far. -/
  errors : List Discrepancy := []
  deriving Inhabited

/-- A step of matching. It leaves its state behind also when it ends with a fault. -/
abbrev Matcher := ExceptT Fault (StateM Matching)

namespace Matching

/-- The state in which the messages of a compiler are matched. -/
def ofDiagnostics (d : Diagnostics) : Matching := { lines := d.lines, unknown := d.unknown }

/-- A list without its first item that satisfies a test, if there is one. -/
def takeFirst {ε : Type} (test : Message → Except ε Bool) :
    List Message → Except ε (Option (List Message))
  | [] => .ok none
  | m :: rest => do
    if ← test m then return some rest
    else return (← takeFirst test rest).map (m :: ·)

/-- Whether a message satisfies an expectation for a line, where `codePrefix` is what codes begin
with. -/
def satisfies (codePrefix : String) (kind : Expectation) (m : Message) :
    Except Regex.Error Bool :=
  match kind with
  | .pattern p level => if m.level = level then p.content.fits m.text else .ok false
  | .code c => .ok (m.level = .error && m.code = some (codePrefix ++ c.content))

/-- A code is the one that is expected iff it begins with the prefix and goes on as expected. -/
theorem satisfies_code_iff {codePrefix : String} {c : Spanned String} {m : Message} :
    satisfies codePrefix (.code c) m = .ok true ↔ m.level = .error ∧ ∃ code, m.code = some code ∧
      code.startsWith codePrefix = true ∧
        code.toList.drop codePrefix.toList.length = c.content.toList := by
  have happend (code : String) : code = codePrefix ++ c.content ↔
      code.startsWith codePrefix = true ∧
        code.toList.drop codePrefix.toList.length = c.content.toList := by
    rw [String.startsWith_string_iff, List.prefix_iff_eq_append, ← String.toList_inj,
      String.toList_append]
    constructor
    · intro h
      simp [h]
    · rintro ⟨h, hrest⟩
      rw [← h, hrest]
  rw [satisfies, Except.ok.injEq, Bool.and_eq_true, decide_eq_true_iff, decide_eq_true_iff]
  simp only [← happend, exists_eq_right]

/-- What is wrong when no message satisfies an expectation for a line. -/
def unsatisfied (codePrefix : String) (m : ErrorMatch) : Discrepancy :=
  match m.kind with
  | .pattern p _ => .patternNotFound p (some m.line)
  | .code c => .codeNotFound ⟨codePrefix ++ c.content, c.span⟩ (some m.line)

/-- Reports a discrepancy. -/
def report (d : Discrepancy) : Matcher Unit := modify fun s => { s with errors := s.errors ++ [d] }

/-- A value, or the error of a pattern that stands in its place. -/
def liftRegex {α : Type} : Except Regex.Error α → Matcher α
  | .ok a => return a
  | .error e => throw (.regex e)

/-- A value, or the failure that stands in its place. -/
def liftFailure {α : Type} : Except Failure α → Matcher α
  | .ok a => return a
  | .error f => throw (.failed f)

/-- Matches a pattern for a message elsewhere. -/
def matchOther (p : Spanned Pattern) : Matcher Unit := do
  match ← liftRegex (takeFirst (fun m => p.content.fits m.text) (← get).unknown) with
  | some rest => modify fun s => { s with unknown := rest }
  | none => report (.patternNotFound p none)

/-- The position of a line among `count` lines, if there is such a line. A line with a fraction of
zero is a line, but no position. -/
def position (count : Nat) (line : Number) : Except Fault (Option Nat) :=
  if line.below count then
    match line with
    | .int n => .ok (some n.toNat)
    | .real _ => .error .fractionalLine
  else .ok none

/-- Matches an expectation for a line. -/
def matchLine (codePrefix : String) (m : ErrorMatch) : Matcher Unit := do
  let lines := (← get).lines
  match position lines.length m.line with
  | .error f => throw f
  | .ok none => report (unsatisfied codePrefix m)
  | .ok (some n) =>
    match ← liftRegex (takeFirst (satisfies codePrefix m.kind) (lines.getD n [])) with
    | some rest => modify fun s => { s with lines := s.lines.set n rest }
    | none => report (unsatisfied codePrefix m)

/-! ## What is left over -/

/-- The lowest of the levels of expected messages; errors if none is expected by its text. -/
def lowestLevel (ms : List ErrorMatch) : Level :=
  ms.foldl
    (fun level m => match m.kind with
      | .pattern _ l => l.lower level
      | .code _ => level)
    .error

/-- The messages of a level or above. -/
def atLevel (level : Level) (ms : List Message) : List Message := ms.filter (·.level.atLeast level)

/-- What is wrong with the messages that are left on lines, from line `n` on. -/
def leftOnLines (file : Path) (level : Level) (n : Nat) : List (List Message) → List Discrepancy
  | [] => []
  | bucket :: rest =>
    let left := atLevel level bucket
    let others := leftOnLines file level (n + 1) rest
    if left.isEmpty then others
    else .unexpectedMessages left (some ⟨file, ⟨some file, some (.int n)⟩⟩) :: others

/-- What is wrong with the messages that are left. -/
def leftOver (file : Path) (level : Level) (s : Matching) : List Discrepancy :=
  let left := atLevel level s.unknown
  let others := leftOnLines file level 0 s.lines
  if left.isEmpty then others else .unexpectedMessages left none :: others

/-- What is wrong with expecting messages, or with expecting none, in a mode; `seen` is where the
last expectation was written down. -/
def modeConflict (mode : Spanned Mode) (seen : Option Span) : List Discrepancy :=
  match mode.content, seen with
  | .pass, some span => [.patternInPassingTest mode.span span]
  | .panic, some span => [.patternInPassingTest mode.span span]
  | .fail true, none => [.noPatterns]
  | _, _ => []

end Matching

namespace Case

/-- Where the last expectation of a test was written down. -/
def lastExpectation (c : Case) : Option Span :=
  (c.otherFiles.map Spanned.span ++ c.errorMatches.map ErrorMatch.span).getLast?

/-- What the codes of messages begin with. -/
def codePrefix (c : Case) : Except Failure String := do
  let setting ← c.findOne "diagnostic_code_prefix" DirectiveSet.codePrefix
  return (setting.map Spanned.content).getD ""

/-- The level from which on messages have to be expected: the one that is set or, failing that, the
lowest of the expected levels. -/
def requiredLevel (c : Case) : Except Failure Level := do
  let setting ← c.findOne "\x60require_annotations_for_level\x60 annotations"
    DirectiveSet.requiredLevel
  return (setting.map Spanned.content).getD (Matching.lowestLevel c.errorMatches)

/-- Matches what a test expects against the messages of the compiler. -/
def checkAnnotations (c : Case) : Matcher Unit := do
  c.otherFiles.forM Matching.matchOther
  let codePrefix ← Matching.liftFailure c.codePrefix
  c.errorMatches.forM (Matching.matchLine codePrefix)
  let level ← Matching.liftFailure c.requiredLevel
  let mode ← Matching.liftFailure c.mode
  if mode.content ≠ .yolo then
    modify fun s => { s with errors := s.errors ++ Matching.leftOver c.path level s }
  (Matching.modeConflict mode c.lastExpectation).forM Matching.report

end Case

end CompilerTest

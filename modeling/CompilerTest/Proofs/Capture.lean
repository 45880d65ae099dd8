import CompilerTest.Proofs.Matching.Faults
import CompilerTest.Proofs.Verification

/-!
# What a failed verification carries

A verification that finds something wrong fails with the command and with what was captured of its
output. On the way the settings of the test are looked up, and one that has several values for the
revision ends the verification with a failure of its own, which has neither the command nor the
output.

Main statement: the directives alone decide which of the two it is, and a verification without such
a conflict fails with all that was captured (`verify_captured`).
-/

namespace CompilerTest

namespace Case

/-! ## Conflicts -/

/-- The settings that a verification looks up. -/
inductive Setting where
  | mode
  | codePrefix
  | requiredLevel
  deriving DecidableEq, Repr

/-- What complaints call a setting. -/
def Setting.kind : Setting → String
  | mode => "mode changes"
  | codePrefix => "diagnostic_code_prefix"
  | requiredLevel => "\x60require_annotations_for_level\x60 annotations"

/-- Where the values of a setting stand in the sets that name the revision. -/
def settingLines (c : Case) : Setting → List (Option Number)
  | .mode => (c.directives.specific c.revision DirectiveSet.mode).map Spanned.line
  | .codePrefix => (c.directives.specific c.revision DirectiveSet.codePrefix).map Spanned.line
  | .requiredLevel =>
    (c.directives.specific c.revision DirectiveSet.requiredLevel).map Spanned.line

/-- The failure of a setting with several values for the revision, if it is one. It says where they
stand, apart from the first. -/
def conflict? (c : Case) (setting : Setting) : Option Failure :=
  match c.settingLines setting with
  | _ :: line :: lines => some (Directives.conflict c.revision setting.kind (line :: lines))
  | _ => none

section Settings

variable {α β : Type} {c : Case} {f : Failure}

theorem findOne_error_iff {kind : String} {get : DirectiveSet → Option (Spanned α)} :
    c.directives.findOne c.revision kind get = .error f ↔
      ∃ first line lines,
        (c.directives.specific c.revision get).map Spanned.line = first :: line :: lines ∧
          Directives.conflict c.revision kind (line :: lines) = f := by
  rw [Directives.findOne]
  rcases c.directives.specific c.revision get with _ | ⟨value, _ | ⟨other, others⟩⟩ <;> simp

theorem return_error_iff {x : Except Failure α} {g : α → β} :
    (do return g (← x)) = .error f ↔ x = .error f := by
  cases x <;> simp [bind, Except.bind, pure, Except.pure]

theorem conflict?_eq_some_iff {setting : Setting} : c.conflict? setting = some f ↔
    ∃ first line lines, c.settingLines setting = first :: line :: lines ∧
      Directives.conflict c.revision setting.kind (line :: lines) = f := by
  rw [conflict?]
  rcases c.settingLines setting with _ | ⟨first, _ | ⟨line, lines⟩⟩ <;> simp

theorem mode_error_iff : c.mode = .error f ↔ c.conflict? .mode = some f := by
  rw [conflict?_eq_some_iff]
  exact return_error_iff.trans findOne_error_iff

theorem codePrefix_error_iff : c.codePrefix = .error f ↔ c.conflict? .codePrefix = some f := by
  rw [conflict?_eq_some_iff]
  exact return_error_iff.trans findOne_error_iff

theorem requiredLevel_error_iff :
    c.requiredLevel = .error f ↔ c.conflict? .requiredLevel = some f := by
  rw [conflict?_eq_some_iff]
  exact return_error_iff.trans findOne_error_iff

/-- A setting that has been looked up has no conflict. -/
theorem conflict?_of_ok {x : Except Failure α} {a : α} {setting : Setting} (hx : x = .ok a)
    (h : ∀ f, x = .error f ↔ c.conflict? setting = some f) : c.conflict? setting = none := by
  rw [Option.eq_none_iff_forall_ne_some]
  intro f hf
  rw [hx] at h
  cases (h f).2 hf

end Settings

/-- The failure of the first setting with a conflict, in the order of looking them up. -/
def firstConflict? (c : Case) : Option Failure :=
  [Setting.mode, .codePrefix, .requiredLevel].findSome? c.conflict?

/-! ## Matching -/

section Matching

open Matching

variable {c : Case} {start final : Matching} {f : Failure}

theorem firstConflict?_of_mode {mode : Spanned Mode} (hmode : c.mode = .ok mode) :
    c.firstConflict? = [Setting.codePrefix, .requiredLevel].findSome? c.conflict? := by
  rw [firstConflict?, List.findSome?_cons, conflict?_of_ok hmode fun _ => mode_error_iff]

/-- Once it is settled what the mode is, matching fails only with the first conflict of the settings
that are left, and completes only if there is none. -/
theorem firstConflict?_of_checkAnnotations {mode : Spanned Mode} (hmode : c.mode = .ok mode)
    {result : Except Fault Unit} (h : outcome c.checkAnnotations start = (result, final))
    (hresult : Concludes result) :
    result = match c.firstConflict? with
      | some f => .error (.failed f)
      | none => .ok () := by
  rw [firstConflict?_of_mode hmode]
  cases hp : c.codePrefix with
  | error g =>
    rw [List.findSome?_cons, codePrefix_error_iff.1 hp]
    rw [checkAnnotations_eq_finish] at h
    obtain ⟨⟨⟩, s, -, h⟩ := c.faultsIn_otherFiles.completes h hresult
    rw [hp] at h
    cases h
    rfl
  | ok codePrefix =>
    obtain ⟨s, t, -, -, hfinish⟩ := handled_of_concludes hp h hresult
    rw [outcome_finish, hmode] at hfinish
    rw [List.findSome?_cons, conflict?_of_ok hp fun _ => codePrefix_error_iff]
    cases hl : c.requiredLevel with
    | error g =>
      rw [hl] at hfinish
      cases hfinish
      rw [List.findSome?_cons, requiredLevel_error_iff.1 hl]
    | ok level =>
      rw [hl] at hfinish
      cases hfinish
      rw [List.findSome?_cons, conflict?_of_ok hl fun _ => requiredLevel_error_iff]
      rfl

theorem firstConflict?_of_messageErrors {mode : Spanned Mode} (hmode : c.mode = .ok mode)
    {d : Diagnostics} {errors : List Discrepancy} {result : Except Fault (List Discrepancy)}
    (h : c.messageErrors d errors = result) (hresult : Concludes result) :
    (∃ f, c.firstConflict? = some f ∧ result = .error (.failed f)) ∨
      c.firstConflict? = none ∧ ∃ found, result = .ok found := by
  rw [messageErrors_eq] at h
  rcases hrun : outcome c.checkAnnotations (.ofDiagnostics d) with ⟨matched, final⟩
  rw [hrun] at h
  subst h
  have hmatched : Concludes matched := by
    cases matched with
    | ok u => exact .passed u
    | error e =>
      cases hresult with
      | failed f => exact .failed f
  rw [firstConflict?_of_checkAnnotations hmode hrun hmatched]
  cases c.firstConflict? with
  | some f => exact .inl ⟨f, rfl, rfl⟩
  | none => exact .inr ⟨rfl, _, rfl⟩

end Matching

/-! ## Verification -/

section Verification

variable {c : Case} {command : Command} {output : ProcessOutput} {s s' : Session}

/-- A verification that concludes does so with the first conflict if there is one, or else with all
that was found wrong and captured. -/
theorem conclusion_of_verify {result : Except Fault ProcessOutput}
    (h : outcome (c.verify command output) s = (result, s')) (hresult : Concludes result) :
    (∃ f, c.firstConflict? = some f ∧ result = .error (.failed f)) ∨
      c.firstConflict? = none ∧ ∃ decoding errors,
        Diagnostics.decode ⟨s.tree, c.path⟩ output.stderr = .ok decoding ∧
        result = if errors = [] then .ok output
          else .error (.failed {
            command
            errors
            stderr := decoding.diagnostics.rendered
            stdout := output.stdout }) := by
  cases hmode : c.mode with
  | error g =>
    rw [verify, hmode] at h
    cases h
    refine .inl ⟨g, ?_, rfl⟩
    rw [firstConflict?, List.findSome?_cons, mode_error_iff.1 hmode]
  | ok mode =>
    rw [verify, hmode, outcome_bind_of_ok (Run.outcome_liftFailure_ok _ s)] at h
    obtain ⟨d, u, hd, h⟩ := (c.neverFails_decodeDiagnostics output.stderr).completes h hresult
    obtain ⟨decoding, hdecode, rfl, -⟩ := decode_of_decodeDiagnostics hd
    obtain ⟨outputErrors, v, -, h⟩ := (c.neverFails_checkTestOutput _ _).completes h hresult
    generalize hmessages : c.messageErrors decoding.diagnostics _ = found at h
    have hfound : Concludes found := by
      cases found with
      | ok errors => exact .passed errors
      | error e =>
        cases h
        cases hresult with
        | failed f => exact .failed f
    rcases firstConflict?_of_messageErrors hmode hmessages hfound with
      ⟨f, hf, rfl⟩ | ⟨hnone, errors, rfl⟩
    · cases h
      exact .inl ⟨f, hf, rfl⟩
    · rw [outcome_bind_of_ok (Run.outcome_lift_ok errors v), outcome_failUnlessNil] at h
      cases h
      exact .inr ⟨hnone, decoding, errors, hdecode, rfl⟩

end Verification

/-- Whether a failure carries the command and what was captured of its output, the error output as
it was rendered. -/
structure Captured (c : Case) (t : FileTree) (command : Command) (output : ProcessOutput)
    (f : Failure) : Prop where
  command_eq : f.command = command
  stderr_eq : ∃ decoding, Diagnostics.decode ⟨t, c.path⟩ output.stderr = .ok decoding ∧
    f.stderr = decoding.diagnostics.rendered
  stdout_eq : f.stdout = output.stdout
  errors_ne_nil : f.errors ≠ []

/-- How a verification fails. -/
structure FailsCaptured (c : Case) (command : Command) (output : ProcessOutput) (s : Session) :
    Prop where
  /-- Without a conflict, a failure carries everything. -/
  captured {f : Failure} {s' : Session} (hnone : c.firstConflict? = none)
    (h : outcome (c.verify command output) s = (.error (.failed f), s')) :
    Captured c s.tree command output f
  /-- With a conflict, the failure is that of the conflict, and carries nothing. -/
  conflicting {f g : Failure} {s' : Session} (hsome : c.firstConflict? = some g)
    (h : outcome (c.verify command output) s = (.error (.failed f), s')) :
    f = g ∧ f.command = { program := s!"<finding flags for revision `{c.revision}`>" } ∧
      f.stderr = [] ∧ f.stdout = []
  /-- With a conflict, no output is handed on. -/
  refused {g : Failure} {o : ProcessOutput} {s' : Session} (hsome : c.firstConflict? = some g) :
    outcome (c.verify command output) s ≠ (.ok o, s')
  /-- The mode is looked up before anything else is done. -/
  atOnce {g : Failure} (hmode : c.conflict? .mode = some g) :
    outcome (c.verify command output) s = (.error (.failed g), s)

theorem bare_of_conflict? {c : Case} {setting : Setting} {f : Failure}
    (h : c.conflict? setting = some f) :
    f.command = { program := s!"<finding flags for revision `{c.revision}`>" } ∧
      f.stderr = [] ∧ f.stdout = [] := by
  obtain ⟨first, line, lines, -, rfl⟩ := conflict?_eq_some_iff.1 h
  exact ⟨rfl, rfl, rfl⟩

/-- **What a failed verification carries.** If no setting has several values for the revision, every
failure of a verification has the command, the rendered error output and the output; otherwise the
first such setting is the failure, without any of them. -/
theorem verify_captured (c : Case) (command : Command) (output : ProcessOutput) (s : Session) :
    FailsCaptured c command output s where
  captured := by
    intro f s' hnone h
    rcases conclusion_of_verify h (.failed f) with
      ⟨g, hsome, -⟩ | ⟨-, decoding, errors, hdecode, hf⟩
    · rw [hnone] at hsome
      cases hsome
    · split_ifs at hf with herrors
      cases hf
      exact ⟨rfl, ⟨decoding, hdecode, rfl⟩, rfl, herrors⟩
  conflicting := by
    intro f g s' hsome h
    rcases conclusion_of_verify h (.failed f) with ⟨g', hsome', hf⟩ | ⟨hnone, -⟩
    · rw [hsome] at hsome'
      cases hsome'
      cases hf
      obtain ⟨setting, -, hsetting⟩ := List.exists_of_findSome?_eq_some hsome
      exact ⟨rfl, bare_of_conflict? hsetting⟩
    · rw [hsome] at hnone
      cases hnone
  refused := by
    intro g o s' hsome h
    rcases conclusion_of_verify h (.passed o) with ⟨g', -, ho⟩ | ⟨hnone, -⟩
    · cases ho
    · rw [hsome] at hnone
      cases hnone
  atOnce := by
    intro g hmode
    rw [verify, mode_error_iff.2 hmode]
    rfl

/-! ## Two failures -/

/-- A command that has been run. -/
def checkedCommand : Command := { program := "rustc", args := ["t.rs"] }

/-- What it has left behind. -/
def checkedOutput : ProcessOutput where
  status := 1
  stdout := Bytes.ofText "out\n"
  stderr := Bytes.ofText "err\n"

/-- A test that has to pass, with these further directives. -/
def passingTest (sets : List DirectiveSet) : Case where
  config := { (default : Config) with handling := .ignore }
  revision := "a"
  directives := { revisions := ["a"], sets := { mode := some ⟨.pass, {}⟩ } :: sets }
  path := ⟨.relative, ["t.rs"]⟩
  auxDir := ⟨.relative, ["auxiliary"]⟩

theorem passingTest_captured :
    ∃ f s', outcome ((passingTest []).verify checkedCommand checkedOutput) default =
        (.error (.failed f), s') ∧
      f.errors = [.exitStatus "pass" 1 0] ∧
      Captured (passingTest []) default checkedCommand checkedOutput f := by
  refine ⟨_, _, rfl, rfl, ?_⟩
  exact (verify_captured (passingTest []) checkedCommand checkedOutput default).captured rfl rfl

/-- Sets that give a setting two values for the revision. -/
def prefixSets : List DirectiveSet :=
  [{ revisions := ["a"], codePrefix := some ⟨"x::", { line := some (.int 1) }⟩ },
    { revisions := ["a"], codePrefix := some ⟨"y::", { line := some (.int 2) }⟩ }]

/-- The failure has neither the command nor the output. -/
theorem prefixSets_not_captured :
    ∃ f s', outcome ((passingTest prefixSets).verify checkedCommand checkedOutput) default =
        (.error (.failed f), s') ∧
      f.errors = [.multipleValues "diagnostic_code_prefix" [some (.int 2)]] ∧
      f.command ≠ checkedCommand ∧ f.stderr ≠ checkedOutput.stderr ∧
      f.stdout ≠ checkedOutput.stdout := by
  refine ⟨_, _, rfl, rfl, ?_, ?_, ?_⟩
  · decide
  · decide
  · decide

end Case

end CompilerTest

import CompilerTest.Proofs.Unfailing
import CompilerTest.Proofs.Verification

/-!
# Prepared verifications

Before a verification looks at the files of expected output, it has worked out what it compares with
them. How it goes on from there is said once (`Prepared.outcome_verify`), also for tests whose
messages cannot be checked; and a verification that concludes has come so far
(`prepared_of_verify`). In particular, one that hands on its output has findings
(`findings_of_verify`).
-/

namespace CompilerTest

namespace Case

/-- What a verification works with when it comes to the files of expected output. -/
structure Prepared (c : Case) (t : FileTree) (output : ProcessOutput) where
  /-- The mode of the test. -/
  mode : Spanned Mode
  /-- What the error output of the compiler holds. -/
  decoding : Diagnostics.Decoding
  /-- The file of the expected error output. -/
  stderrPath : Path
  /-- The normalized error output. -/
  stderr : Bytes
  /-- The file of the expected output. -/
  stdoutPath : Path
  /-- The normalized output. -/
  stdout : Bytes
  mode_eq : c.mode = .ok mode
  decode_eq : Diagnostics.decode ⟨t, c.path⟩ output.stderr = .ok decoding
  stderrPath_eq : c.outputPath "stderr" = .ok stderrPath
  stderr_eq : c.normalize decoding.diagnostics.rendered "stderr" = .ok stderr
  stdoutPath_eq : c.outputPath "stdout" = .ok stdoutPath
  stdout_eq : c.normalize output.stdout "stdout" = .ok stdout

/-- How a verification ends that has found `found` wrong, or could not check the messages. -/
def conclude (command : Command) (output : ProcessOutput) (stderr : Bytes) :
    Except Fault (List Discrepancy) → Except Fault ProcessOutput
  | .ok [] => .ok output
  | .ok errors => .error (.failed { command, errors, stderr, stdout := output.stdout })
  | .error f => .error f

/-- How a verification of a prepared case ends, if `outputErrors` are wrong with its output. -/
def Prepared.result {c : Case} {t : FileTree} {output : ProcessOutput} (p : Prepared c t output)
    (command : Command) (outputErrors : List Discrepancy) : Except Fault ProcessOutput :=
  conclude command output p.decoding.diagnostics.rendered
    (c.messageErrors p.decoding.diagnostics
      (statusConflict p.mode.content output.status ++ outputErrors))

section Verification

variable {c : Case} {s s' : Session} {command : Command} {output : ProcessOutput}
  {result : Except Fault ProcessOutput}

theorem outcome_conclude (command : Command) (found : Except Fault (List Discrepancy))
    (stderr : Bytes) (s : Session) :
    outcome (do
      let errors ← Run.lift found
      if !errors.isEmpty then Run.fail { command, errors, stderr, stdout := output.stdout }
      return output : Run ProcessOutput) s = (conclude command output stderr found, s) := by
  rcases found with f | _ | ⟨d, errors⟩ <;> rfl

theorem outcome_verify_of_mode {f : Failure} (h : c.mode = .error f) (s : Session) :
    outcome (c.verify command output) s = (.error (.failed f), s) := by
  rw [verify, h]
  rfl

/-- A verification reconciles both outputs, one after the other, and then checks the messages. -/
theorem Prepared.outcome_verify (p : Prepared c s.tree output) (command : Command)
    {midway after : FileTree}
    (hstderr : Reconciled p.stderrPath p.stderr c.config.handling s.tree midway)
    (hstdout : Reconciled p.stdoutPath p.stdout c.config.handling midway after) :
    ∃ s', s'.tree = after ∧ outcome (c.verify command output) s =
      (p.result command (outputConflict c s.tree p.stderrPath p.stderr ++
        outputConflict c midway p.stdoutPath p.stdout), s') := by
  have hdecode := outcome_decodeDiagnostics p.decode_eq
  generalize hlog : ({ s with log := s.log ++ _ } : Session) = u at hdecode
  have htree : u.tree = s.tree := by rw [← hlog]
  have hstderr' : Reconciled p.stderrPath p.stderr c.config.handling u.tree midway := by
    rw [htree]
    exact hstderr
  obtain ⟨v, rfl, hfirst⟩ := outcome_checkOutput p.stderr_eq p.stderrPath_eq hstderr'
  obtain ⟨s', hs', hsecond⟩ := outcome_checkOutput p.stdout_eq p.stdoutPath_eq hstdout
  rw [htree] at hfirst
  have houtput : outcome (c.checkTestOutput output.stdout p.decoding.diagnostics.rendered) u =
      (.ok (outputConflict c s.tree p.stderrPath p.stderr ++
        outputConflict c v.tree p.stdoutPath p.stdout), s') := by
    rw [checkTestOutput, outcome_bind_of_ok hfirst, outcome_bind_of_ok hsecond, outcome_pure]
  refine ⟨s', hs', ?_⟩
  rw [verify, p.mode_eq, outcome_bind_of_ok (Run.outcome_liftFailure_ok _ s),
    outcome_bind_of_ok hdecode, outcome_bind_of_ok houtput]
  exact outcome_conclude _ _ _ s'

/-- A verification that concludes, and for which the mode is settled, was prepared, and it has
reconciled both outputs. -/
theorem prepared_of_verify {mode : Spanned Mode} (hmode : c.mode = .ok mode)
    (h : outcome (c.verify command output) s = (result, s')) (hresult : Concludes result) :
    ∃ (p : Prepared c s.tree output) (midway after : FileTree),
      Reconciled p.stderrPath p.stderr c.config.handling s.tree midway ∧
      Reconciled p.stdoutPath p.stdout c.config.handling midway after := by
  rw [verify, hmode, outcome_bind_of_ok (Run.outcome_liftFailure_ok mode s)] at h
  obtain ⟨_, u, hdiagnostics, h⟩ :=
    (c.neverFails_decodeDiagnostics output.stderr).completes h hresult
  obtain ⟨decoding, hdecode, rfl, hu⟩ := decode_of_decodeDiagnostics hdiagnostics
  obtain ⟨_, w, houtput, -⟩ := (c.neverFails_checkTestOutput _ _).completes h hresult
  rw [checkTestOutput] at houtput
  obtain ⟨_, v, hstderr, houtput⟩ := outcome_bind_ok_iff.1 houtput
  obtain ⟨_, w', hstdout, -⟩ := outcome_bind_ok_iff.1 houtput
  obtain ⟨stderrPath, stderr, hep, hen, her⟩ := reconciled_of_checkOutput hstderr
  obtain ⟨stdoutPath, stdout, hop, hon, hor⟩ := reconciled_of_checkOutput hstdout
  rw [hu] at her
  exact ⟨⟨mode, decoding, stderrPath, stderr, stdoutPath, stdout, hmode, hdecode, hep, hen, hop,
    hon⟩, _, _, her, hor⟩

/-- Messages can be checked with nothing reported before if they can be checked at all. -/
theorem checkAnnotations_of_messageErrors {d : Diagnostics} {es errors : List Discrepancy}
    (h : c.messageErrors d es = .ok errors) :
    ∃ final, outcome c.checkAnnotations (.ofDiagnostics d) = (.ok (), final) := by
  rw [messageErrors_eq] at h
  rcases hrun : outcome c.checkAnnotations (.ofDiagnostics d) with ⟨_ | _, final⟩
  · rw [hrun] at h
    cases h
  · exact ⟨final, rfl⟩

/-- **No verdict without findings.** Verification completes only if every part can be checked. -/
theorem findings_of_verify {handedOn : ProcessOutput}
    (h : outcome (c.verify command output) s = (.ok handedOn, s')) :
    ∃ f : Findings, f.Of c s.tree output := by
  rcases hmode : c.mode with f | mode
  · rw [outcome_verify_of_mode hmode s] at h
    cases h
  obtain ⟨p, midway, after, hstderr, hstdout⟩ := prepared_of_verify hmode h (.passed handedOn)
  obtain ⟨_, -, hrun⟩ := p.outcome_verify command hstderr hstdout
  rw [h, Prepared.result] at hrun
  rcases hfound : c.messageErrors p.decoding.diagnostics _ with e | errors
  · rw [hfound] at hrun
    cases hrun
  · obtain ⟨matched, hmatched⟩ := checkAnnotations_of_messageErrors hfound
    exact ⟨⟨p.mode, p.decoding, p.stderrPath, p.stderr, p.stdoutPath, p.stdout, midway, after,
      matched⟩, p.mode_eq, p.decode_eq, p.stderrPath_eq, p.stderr_eq, p.stdoutPath_eq, p.stdout_eq,
      hstderr, hstdout, hmatched⟩

end Verification

end Case

end CompilerTest

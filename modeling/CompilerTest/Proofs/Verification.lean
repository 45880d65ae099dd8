import CompilerTest.Case.Run
import CompilerTest.Proofs.Matching.Frame

/-!
# The verdict on a test

Verification compares status, output and messages of the compiler with what is expected. Each of
these parts gives a finding that depends on its own inputs alone, and the verdict is the list of
what all parts have found wrong (`verify_eq_verdict`).
-/

namespace CompilerTest

namespace Case

/-! ## Findings -/

/-- What is wrong with an exit status: a mode that expects a status expects no other. -/
def statusFinding (mode : Mode) (status : Int) : Option Discrepancy :=
  (mode.expectedStatus?.filter (· ≠ status)).map (.exitStatus mode.name status ·)

/-- The expected output in a file; an absent file stands for no output. -/
def baseline (t : FileTree) (path : Path) : Bytes :=
  match t.read path with
  | .ok bytes => bytes
  | .error _ => []

/-- What is wrong with output that is compared with the expected output in a file. -/
def outputConflict (c : Case) (t : FileTree) (path : Path) (output : Bytes) : List Discrepancy :=
  if c.config.handling = .error ∧ output ≠ baseline t path then
    [.outputDiffers path output (baseline t path) c.config.blessCommand]
  else []

/-- The system lets output be reconciled with the expected output in a file, and the files `t`
become `t'`. -/
inductive Reconciled (path : Path) (output : Bytes) :
    ConflictHandling → FileTree → FileTree → Prop where
  /-- The file is compared. -/
  | compared {t : FileTree} {bytes : Bytes} (h : t.read path = .ok bytes) :
    Reconciled path output .error t t
  /-- There is no file to compare with. -/
  | absent {t : FileTree} {shown : String} (h : t.read path = .error ⟨.notFound, shown⟩) :
    Reconciled path output .error t t
  /-- The file is replaced. -/
  | blessed {t t' : FileTree} (h : blessed t path output = .ok t') :
    Reconciled path output .bless t t'
  /-- The file does not matter. -/
  | ignored {t : FileTree} : Reconciled path output .ignore t t

/-- What the parts of a verification find, each on its own. -/
structure Findings where
  /-- The mode of the test. -/
  mode : Spanned Mode
  /-- What the error output of the compiler holds. -/
  decoding : Diagnostics.Decoding
  /-- The file of the expected error output. -/
  stderrPath : Path
  /-- The normalized error output. -/
  stderr : Bytes
  /-- The file of the expected output. -/
  stdoutPath : Path
  /-- The normalized output. -/
  stdout : Bytes
  /-- The files after the error output has been reconciled. -/
  midway : FileTree
  /-- The files after the output has been reconciled. -/
  after : FileTree
  /-- The state after messages have been matched, with nothing reported before. -/
  matched : Matching

/-- No setting has a conflict, nothing is refused, no pattern and no document is unusable, and the
parts of a verification find what `f` says. -/
structure Findings.Of (f : Findings) (c : Case) (t : FileTree) (output : ProcessOutput) : Prop where
  mode_eq : c.mode = .ok f.mode
  decode_eq : Diagnostics.decode ⟨t, c.path⟩ output.stderr = .ok f.decoding
  stderrPath_eq : c.outputPath "stderr" = .ok f.stderrPath
  stderr_eq : c.normalize f.decoding.diagnostics.rendered "stderr" = .ok f.stderr
  stdoutPath_eq : c.outputPath "stdout" = .ok f.stdoutPath
  stdout_eq : c.normalize output.stdout "stdout" = .ok f.stdout
  stderr_reconciled : Reconciled f.stderrPath f.stderr c.config.handling t f.midway
  stdout_reconciled : Reconciled f.stdoutPath f.stdout c.config.handling f.midway f.after
  matched_eq :
    outcome c.checkAnnotations (.ofDiagnostics f.decoding.diagnostics) = (.ok (), f.matched)

/-- All that the parts of a verification find wrong. -/
def Findings.verdict (f : Findings) (c : Case) (t : FileTree) (output : ProcessOutput) :
    List Discrepancy :=
  (statusFinding f.mode.content output.status).toList ++
    outputConflict c t f.stderrPath f.stderr ++ outputConflict c t f.stdoutPath f.stdout ++
    f.matched.errors

/-! ## The parts of a verification -/

section Parts

variable {c : Case} {s : Session} {t t' : FileTree} {path : Path} {output normalized : Bytes}
  {kind : String}

theorem statusConflict_eq (mode : Mode) (status : Int) :
    statusConflict mode status = (statusFinding mode status).toList := by
  unfold statusConflict statusFinding
  cases mode.expectedStatus? with
  | none => rfl
  | some expected =>
    by_cases h : status = expected
    · simp [h]
    · simp [h, Option.filter_some, Ne.symm h]

/-- Decoding changes nothing but the log. -/
theorem outcome_decodeDiagnostics {decoding : Diagnostics.Decoding}
    (h : Diagnostics.decode ⟨s.tree, c.path⟩ output = .ok decoding) :
    outcome (c.decodeDiagnostics output) s = (.ok decoding.diagnostics,
      { s with log := s.log ++ decoding.warnings.map (⟨.warning, "diagnostics", ·⟩) }) := by
  rw [decodeDiagnostics, outcome_bind_of_ok (Run.outcome_tree s), h,
    outcome_bind_of_ok (Run.outcome_lift_ok decoding s),
    outcome_bind_of_ok (Run.outcome_forM_log ..), outcome_pure]

theorem expectedOutput_of_read {bytes : Bytes} (h : t.read path = .ok bytes) :
    expectedOutput t path = .ok (baseline t path) := by
  simp [expectedOutput, baseline, h]

theorem expectedOutput_of_notFound {shown : String} (h : t.read path = .error ⟨.notFound, shown⟩) :
    expectedOutput t path = .ok (baseline t path) := by
  simp [expectedOutput, baseline, h]

/-- Blessing changes the files and the log. -/
theorem outcome_bless (h : blessed s.tree path output = .ok t') :
    ∃ s', s'.tree = t' ∧ outcome (bless path output) s = (.ok (), s') := by
  rw [bless, outcome_bind_of_ok (Run.outcome_tree s), h,
    outcome_bind_of_ok (Run.outcome_liftFile_ok t' s),
    outcome_bind_of_ok (Run.outcome_setTree t' s)]
  split
  · exact ⟨_, rfl, Run.outcome_log ..⟩
  · exact ⟨_, rfl, Run.outcome_log ..⟩

/-- Output is reconciled with the files as they are, and it is compared only if differences are
errors. -/
theorem outcome_checkOutput (hn : c.normalize output kind = .ok normalized)
    (hp : c.outputPath kind = .ok path)
    (hr : Reconciled path normalized c.config.handling s.tree t') :
    ∃ s', s'.tree = t' ∧ outcome (c.checkOutput output kind) s =
      (.ok (path, outputConflict c s.tree path normalized), s') := by
  have hprefix : ∀ (f : Bytes → Path → Run (Path × List Discrepancy)),
      outcome (do
        let output ← Run.lift (c.normalize output kind)
        let path ← Run.lift ((c.outputPath kind).mapError .suffix)
        f output path) s = outcome (f normalized path) s := by
    intro f
    rw [hn, outcome_bind_of_ok (Run.outcome_lift_ok _ s), hp]
    exact outcome_bind_of_ok (Run.outcome_lift_ok _ s)
  rw [checkOutput, hprefix]
  have hcompare : c.config.handling = .error →
      expectedOutput s.tree path = .ok (baseline s.tree path) →
      outcome (do
        let expected ← Run.liftFile (expectedOutput (← Run.tree) path)
        if normalized = expected then return (path, [])
        else return (path, [.outputDiffers path normalized expected c.config.blessCommand]) :
          Run (Path × List Discrepancy)) s =
      (.ok (path, outputConflict c s.tree path normalized), s) := by
    intro hh he
    rw [outcome_bind_of_ok (Run.outcome_tree s), he,
      outcome_bind_of_ok (Run.outcome_liftFile_ok _ s)]
    by_cases hd : normalized = baseline s.tree path
    · simp [outputConflict, hd]
    · simp [outputConflict, hh, hd]
  generalize hh : c.config.handling = handling at hr
  cases hr with
  | compared h => exact ⟨s, rfl, hcompare hh (expectedOutput_of_read h)⟩
  | absent h => exact ⟨s, rfl, hcompare hh (expectedOutput_of_notFound h)⟩
  | blessed h =>
    obtain ⟨s', ht, hs'⟩ := outcome_bless h
    refine ⟨s', ht, ?_⟩
    have hnone : outputConflict c s.tree path normalized = [] := by simp [outputConflict, hh]
    rw [hnone]
    exact outcome_bind_of_ok hs'
  | ignored => exact ⟨s, rfl, by simp [outputConflict, hh]⟩

/-- Nothing is wrong with output unless differences are errors, and then no file is changed. -/
theorem outputConflict_of_reconciled (hr : Reconciled path normalized c.config.handling t t')
    (other : Path) (otherOutput : Bytes) :
    outputConflict c t' other otherOutput = outputConflict c t other otherOutput := by
  generalize hh : c.config.handling = handling at hr
  cases hr with
  | compared | absent | ignored => rfl
  | blessed => simp [outputConflict, hh]

end Parts

/-! ## The verdict -/

section Verdict

variable {c : Case} {s : Session} {t : FileTree} {output : ProcessOutput} {f : Findings}

/-- Each output is compared with the files as they were before both comparisons. -/
theorem outcome_checkTestOutput (h : f.Of c s.tree output) :
    ∃ s', s'.tree = f.after ∧
      outcome (c.checkTestOutput output.stdout f.decoding.diagnostics.rendered) s =
        (.ok (outputConflict c s.tree f.stderrPath f.stderr ++
          outputConflict c s.tree f.stdoutPath f.stdout), s') := by
  obtain ⟨u, hu, hfirst⟩ := outcome_checkOutput h.stderr_eq h.stderrPath_eq h.stderr_reconciled
  -- the first comparison changes files only when nothing is compared at all
  have hr := h.stdout_reconciled
  rw [← hu] at hr
  obtain ⟨s', hs', hsecond⟩ := outcome_checkOutput h.stdout_eq h.stdoutPath_eq hr
  refine ⟨s', hs', ?_⟩
  rw [checkTestOutput, outcome_bind_of_ok hfirst, outcome_bind_of_ok hsecond, outcome_pure, hu,
    outputConflict_of_reconciled h.stderr_reconciled]

/-- What is wrong so far does not change what is found wrong with messages. -/
theorem messageErrors_eq (c : Case) (d : Diagnostics) (es : List Discrepancy) :
    c.messageErrors d es = (outcome c.checkAnnotations (.ofDiagnostics d)).1.map
      fun _ => es ++ (outcome c.checkAnnotations (.ofDiagnostics d)).2.errors := by
  have hbehind : (Matching.ofDiagnostics d).behind es =
      { Matching.ofDiagnostics d with errors := es } := by
    simp [Matching.behind, Matching.ofDiagnostics]
  have hrun : c.checkAnnotations { Matching.ofDiagnostics d with errors := es } =
      ((outcome c.checkAnnotations (.ofDiagnostics d)).1,
        (outcome c.checkAnnotations (.ofDiagnostics d)).2.behind es) := by
    rw [← hbehind]
    exact checkAnnotations_frames c es (.ofDiagnostics d)
  rw [messageErrors, hrun]
  rfl

/-- A list of what is wrong is a failure unless it is empty. -/
theorem outcome_failUnlessNil (command : Command) (errors : List Discrepancy) (stderr : Bytes)
    (output : ProcessOutput) (s : Session) :
    outcome (do
      if !errors.isEmpty then Run.fail { command, errors, stderr, stdout := output.stdout }
      return output : Run ProcessOutput) s =
    (if errors = [] then .ok output
      else .error (.failed { command, errors, stderr, stdout := output.stdout }), s) := by
  cases errors with
  | nil => rfl
  | cons d errors => rfl

/-- **The verdict is what all parts find wrong.** If every part can be checked, then verification
hands on the output iff no part finds anything wrong, and it fails with all that the parts find
otherwise. -/
theorem verify_eq_verdict (command : Command) (h : f.Of c s.tree output) :
    ∃ s', s'.tree = f.after ∧ outcome (c.verify command output) s =
      (if f.verdict c s.tree output = [] then .ok output
        else .error (.failed {
          command
          errors := f.verdict c s.tree output
          stderr := f.decoding.diagnostics.rendered
          stdout := output.stdout }), s') := by
  have hdecode := outcome_decodeDiagnostics h.decode_eq
  generalize hlog : ({ s with log := s.log ++ _ } : Session) = u at hdecode
  have htree : u.tree = s.tree := by rw [← hlog]
  have hu : f.Of c u.tree output := by rw [htree]; exact h
  obtain ⟨s', hs', houtput⟩ := outcome_checkTestOutput hu
  refine ⟨s', hs', ?_⟩
  rw [htree] at houtput
  rw [verify, h.mode_eq, outcome_bind_of_ok (Run.outcome_liftFailure_ok _ s),
    outcome_bind_of_ok hdecode, outcome_bind_of_ok houtput, messageErrors_eq, h.matched_eq,
    statusConflict_eq]
  refine (outcome_bind_of_ok (Run.outcome_lift_ok _ s')).trans ?_
  rw [← List.append_assoc]
  exact outcome_failUnlessNil command (f.verdict c s.tree output) _ output s'

end Verdict

/-! ## A test that is wrong in every respect -/

/-- A test that expects an error on line 2. -/
def outdated : Case where
  config := default
  revision := ""
  directives := { sets := [
    { errorMatches := [⟨.pattern ⟨{ text := "mismatched" }, {}⟩ .error, .int 2⟩] }] }
  path := ⟨.relative, ["t.rs"]⟩
  auxDir := ⟨.relative, ["auxiliary"]⟩

/-- Files with expected error output, and without expected output. -/
def outdatedTree : FileTree where
  entries := [(["t.stderr"], .file (Bytes.ofText "error: old\n") false)]
  workingPlace := []

/-- What the compiler has left behind: success, output, and a diagnostic without a line. -/
def outdatedOutput : ProcessOutput where
  status := 0
  stdout := Bytes.ofText "done\n"
  stderr := Bytes.ofText
    "\x7b\"level\":\"error\",\"message\":\"new\",\"rendered\":\"error: new\\n\"\x7d\n"

/-- What each part finds. -/
def outdatedFindings : Findings where
  mode := ⟨.fail true, {}⟩
  decoding := { diagnostics := {
    rendered := Bytes.ofText "error: new\n"
    unknown := [⟨.error, "new", none⟩] } }
  stderrPath := ⟨.relative, ["t.stderr"]⟩
  stderr := Bytes.ofText "error: new\n"
  stdoutPath := ⟨.relative, ["t.stdout"]⟩
  stdout := Bytes.ofText "done\n"
  midway := outdatedTree
  after := outdatedTree
  matched := {
    lines := [[]]
    unknown := [⟨.error, "new", none⟩]
    errors := [
      .patternNotFound ⟨{ text := "mismatched" }, {}⟩ (some (.int 2)),
      .unexpectedMessages [⟨.error, "new", none⟩] none] }

theorem decode_outdatedOutput :
    Diagnostics.decode ⟨outdatedTree, outdated.path⟩ outdatedOutput.stderr =
      .ok outdatedFindings.decoding :=
  eq_ok_of_toOption (by decide +kernel)

theorem outdatedFindings_of : outdatedFindings.Of outdated outdatedTree outdatedOutput where
  mode_eq := rfl
  decode_eq := decode_outdatedOutput
  stderrPath_eq := rfl
  stderr_eq := rfl
  stdoutPath_eq := rfl
  stdout_eq := rfl
  stderr_reconciled :=
    have h : outdatedTree.read outdatedFindings.stderrPath = .ok (Bytes.ofText "error: old\n") := by
      decide +kernel
    .compared h
  stdout_reconciled :=
    have h : outdatedTree.read outdatedFindings.stdoutPath = .error ⟨.notFound, "'t.stdout'"⟩ := by
      decide +kernel
    .absent h
  matched_eq := rfl

theorem outdated_verdict :
    outdatedFindings.verdict outdated outdatedTree outdatedOutput = [
      .exitStatus "fail" 0 1,
      .outputDiffers ⟨.relative, ["t.stderr"]⟩ (Bytes.ofText "error: new\n")
        (Bytes.ofText "error: old\n") none,
      .outputDiffers ⟨.relative, ["t.stdout"]⟩ (Bytes.ofText "done\n") [] none,
      .patternNotFound ⟨{ text := "mismatched" }, {}⟩ (some (.int 2)),
      .unexpectedMessages [⟨.error, "new", none⟩] none] ∧
    outdatedFindings.Of outdated outdatedTree outdatedOutput ∧
    ∃ s', s'.tree = outdatedTree ∧
      outcome (outdated.verify default outdatedOutput) { tree := outdatedTree } =
        (if outdatedFindings.verdict outdated outdatedTree outdatedOutput = []
          then .ok outdatedOutput
          else .error (.failed {
            command := default
            errors := outdatedFindings.verdict outdated outdatedTree outdatedOutput
            stderr := Bytes.ofText "error: new\n"
            stdout := Bytes.ofText "done\n" }), s') := by
  refine ⟨?_, outdatedFindings_of,
    verify_eq_verdict (s := { tree := outdatedTree }) default outdatedFindings_of⟩
  have hstderr : baseline outdatedTree outdatedFindings.stderrPath =
      Bytes.ofText "error: old\n" := by decide +kernel
  have hstdout : baseline outdatedTree outdatedFindings.stdoutPath = [] := by decide +kernel
  rw [Findings.verdict, outputConflict, outputConflict, hstderr, hstdout]
  rfl

/-! ## Verification that completes -/

section Completion

variable {c : Case} {s : Session} {output : ProcessOutput}

/-- Blessing completes only if the system lets the file be replaced. -/
theorem blessed_of_bless {s' : Session} {path : Path} {bytes : Bytes}
    (h : outcome (bless path bytes) s = (.ok (), s')) :
    blessed s.tree path bytes = .ok s'.tree := by
  rw [bless, outcome_bind_of_ok (Run.outcome_tree s)] at h
  obtain ⟨t, u, hlift, hrest⟩ := outcome_bind_ok_iff.1 h
  obtain ⟨ht, rfl⟩ := Run.outcome_liftFile_ok_iff.1 hlift
  rw [outcome_bind_of_ok (Run.outcome_setTree t s)] at hrest
  have htree : s'.tree = t := by
    split at hrest
    · rw [Run.outcome_log] at hrest; cases hrest; rfl
    · rw [Run.outcome_log] at hrest; cases hrest; rfl
  rw [ht, htree]

theorem blessed_of_reconciled {t t' : FileTree} {path : Path} {bytes : Bytes}
    (h : Reconciled path bytes .bless t t') : blessed t path bytes = .ok t' := by
  cases h with
  | blessed h => exact h

theorem reconciled_of_expectedOutput {t : FileTree} {path : Path} {bytes expected : Bytes}
    (h : expectedOutput t path = .ok expected) : Reconciled path bytes .error t t := by
  unfold expectedOutput at h
  split at h
  next shown hread => exact .absent hread
  next hread => exact .compared h

/-- Output is compared only if it can be reconciled with the files. -/
theorem reconciled_of_checkOutput {s' : Session} {bytes : Bytes} {kind : String}
    {result : Path × List Discrepancy}
    (h : outcome (c.checkOutput bytes kind) s = (.ok result, s')) :
    ∃ path normalized, c.outputPath kind = .ok path ∧ c.normalize bytes kind = .ok normalized ∧
      Reconciled path normalized c.config.handling s.tree s'.tree := by
  rw [checkOutput] at h
  obtain ⟨normalized, _, hnlift, h⟩ := outcome_bind_ok_iff.1 h
  obtain ⟨hn, rfl⟩ := Run.outcome_lift_ok_iff.1 hnlift
  obtain ⟨path, _, hplift, h⟩ := outcome_bind_ok_iff.1 h
  obtain ⟨hsuffix, rfl⟩ := Run.outcome_lift_ok_iff.1 hplift
  have hp : c.outputPath kind = .ok path := by
    cases hpath : c.outputPath kind with
    | error e => rw [hpath] at hsuffix; cases hsuffix
    | ok p => rw [hpath] at hsuffix; cases hsuffix; rfl
  refine ⟨path, normalized, hp, hn, ?_⟩
  generalize hh : c.config.handling = handling at h
  cases handling with
  | error =>
    obtain ⟨t, _, htree, h⟩ := outcome_bind_ok_iff.1 h
    rw [Run.outcome_tree] at htree
    cases htree
    obtain ⟨expected, _, hlift, h⟩ := outcome_bind_ok_iff.1 h
    obtain ⟨hexpected, rfl⟩ := Run.outcome_liftFile_ok_iff.1 hlift
    have hs' : s' = s := by
      split at h
      · rw [outcome_pure] at h; cases h; rfl
      · rw [outcome_pure] at h; cases h; rfl
    rw [hs']
    exact reconciled_of_expectedOutput hexpected
  | bless =>
    obtain ⟨_, u, hbless, h⟩ := outcome_bind_ok_iff.1 h
    rw [outcome_pure] at h
    cases h
    exact .blessed (blessed_of_bless hbless)
  | ignore =>
    rw [outcome_pure] at h
    cases h
    exact .ignored

/-- Decoding completes only if the output can be decoded, and it leaves the files alone. -/
theorem decode_of_decodeDiagnostics {s' : Session} {bytes : Bytes} {d : Diagnostics}
    (h : outcome (c.decodeDiagnostics bytes) s = (.ok d, s')) :
    ∃ decoding, Diagnostics.decode ⟨s.tree, c.path⟩ bytes = .ok decoding ∧
      decoding.diagnostics = d ∧ s'.tree = s.tree := by
  have hlift := h
  rw [decodeDiagnostics, outcome_bind_of_ok (Run.outcome_tree s)] at hlift
  obtain ⟨decoding, _, hlift, -⟩ := outcome_bind_ok_iff.1 hlift
  have hdecode := (Run.outcome_lift_ok_iff.1 hlift).1
  rw [outcome_decodeDiagnostics hdecode] at h
  cases h
  exact ⟨decoding, hdecode, rfl, rfl⟩

end Completion

end Case

end CompilerTest

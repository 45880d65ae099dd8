import CompilerTest.Proofs.Baselines.Settled
import CompilerTest.Proofs.Decoding
import CompilerTest.Proofs.Matching.Reports
import CompilerTest.Proofs.Preparation

/-!
# Blessing and verifying again

A verification that blesses settles both baselines of a test. Where both are settled, the handling
of differences no longer matters: there is nothing to report, nothing to write, and everything else
is as it was (`Prepared.outcome_verify_of_settled`). So verifying again after blessing comes to the
same result and changes no file (`verify_roundTrip`).
-/

namespace CompilerTest

namespace Case

open FileTree

/-- The same case under another handling of differences. -/
def under (c : Case) (handling : ConflictHandling) : Case :=
  { c with config := { c.config with handling } }

theorem mode_under (c : Case) (handling : ConflictHandling) : (c.under handling).mode = c.mode :=
  rfl

namespace Prepared

variable {c : Case} {t t' : FileTree} {output : ProcessOutput}

/-- Where directories and links are the same, a verification works with the same. -/
def along (p : Prepared c t output) (h : SameRoutes t t') : Prepared c t' output :=
  { p with
    decode_eq := (Diagnostics.decode_of_sameRoutes h c.path output.stderr).trans p.decode_eq }

/-- What a verification works with does not depend on the handling of differences. -/
def under (p : Prepared c t output) (handling : ConflictHandling) :
    Prepared (c.under handling) t output :=
  { p with }

end Prepared

/-! ## Settled baselines -/

section Settled

variable {c : Case} {t : FileTree} {path : Path} {output : Bytes}

theorem baseline_of_expectedOutput (h : expectedOutput t path = .ok output) :
    baseline t path = output := by
  have hreconciled : Reconciled path output .error t t := reconciled_of_expectedOutput h
  have heq : expectedOutput t path = .ok (baseline t path) := by
    cases hreconciled with
    | compared h => exact expectedOutput_of_read h
    | absent h => exact expectedOutput_of_notFound h
  exact Except.ok.inj (heq.symm.trans h)

/-- A settled baseline is reconciled with the output under any handling, and no file changes. -/
theorem Settled.reconciled (h : Settled t path output) (handling : ConflictHandling) :
    Reconciled path output handling t t := by
  cases handling with
  | error => exact reconciled_of_expectedOutput h.expectedOutput_eq
  | bless => exact .blessed h.blessed_eq
  | ignore => exact .ignored

/-- Nothing is wrong with output that a baseline is settled for. -/
theorem Settled.outputConflict_eq (h : Settled t path output) (c : Case) :
    outputConflict c t path output = [] := by
  rw [outputConflict, baseline_of_expectedOutput h.expectedOutput_eq, if_neg (fun h => h.2 rfl)]

/-- Where both baselines are settled, a verification depends on the messages and the status alone,
and it changes no file. -/
theorem Prepared.outcome_verify_of_settled {s : Session} {output : ProcessOutput}
    (p : Prepared c s.tree output) (hstderr : Settled s.tree p.stderrPath p.stderr)
    (hstdout : Settled s.tree p.stdoutPath p.stdout) (command : Command) :
    ∃ s', s'.tree = s.tree ∧ outcome (c.verify command output) s = (p.result command [], s') := by
  obtain ⟨s', hs', h⟩ :=
    p.outcome_verify command (hstderr.reconciled _) (hstdout.reconciled _)
  rw [hstderr.outputConflict_eq, hstdout.outputConflict_eq] at h
  exact ⟨s', hs', h⟩

end Settled

/-! ## The round trip -/

section RoundTrip

variable {c : Case} {s s' u : Session} {command : Command} {output : ProcessOutput}
  {result : Except Fault ProcessOutput}

/-- Blessing both outputs of a test leaves both baselines settled. -/
theorem settled_of_both {t midway after : FileTree} {stderrPath stdoutPath : Path}
    {stderr stdout : Bytes} (hlinkErr : ¬ t.IsLink stderrPath.text)
    (hlinkOut : ¬ t.IsLink stdoutPath.text) (hbeside : Beside stderrPath.text stdoutPath.text)
    (hstderr : blessed t stderrPath stderr = .ok midway)
    (hstdout : blessed midway stdoutPath stdout = .ok after) :
    SameRoutes t after ∧ Settled after stderrPath stderr ∧ Settled after stdoutPath stdout := by
  have hroutes := sameRoutes_of_blessed hlinkErr hstderr
  have hlink : ¬ midway.IsLink stdoutPath.text := by rwa [hroutes.isLink_iff]
  exact ⟨hroutes.trans (sameRoutes_of_blessed hlink hstdout),
    (settled_of_blessed hlinkErr hstderr).blessed_beside hbeside hlink hstdout,
    settled_of_blessed hlink hstdout⟩

theorem outputConflict_bless (c : Case) (t : FileTree) (path : Path) (bytes : Bytes) :
    outputConflict (c.under .bless) t path bytes = [] :=
  if_neg fun h => by cases h.1

/-- A verification that finds nothing wrong with output fails for no reason of output. -/
theorem Prepared.sparesOutput_result {t : FileTree} (p : Prepared c t output) {f : Failure}
    (h : p.result command [] = .error (.failed f)) : SparesOutput f.errors := by
  have hstatus : SparesOutput (statusConflict p.mode.content output.status ++ []) := by
    rw [List.append_nil]
    unfold statusConflict
    split
    · split
      · exact sparesOutput_nil
      · exact sparesOutput_singleton rfl
    · exact sparesOutput_nil
  obtain ⟨hok, hfailed⟩ := c.sparesOutput_messageErrors p.decoding.diagnostics hstatus
  rw [result] at h
  rcases hfound : c.messageErrors p.decoding.diagnostics
    (statusConflict p.mode.content output.status ++ []) with e | _ | ⟨d, errors⟩
  · rw [hfound] at h
    exact hfailed f (hfound.trans (congrArg Except.error (Except.error.inj h)))
  · rw [hfound] at h
    cases h
  · rw [hfound] at h
    cases h
    exact hok _ hfound

/-- **Blessing and verifying again.** If no file of expected output is a symbolic link and a
verification that blesses concludes, then verifying again with the same output of the compiler on
the files that it has left concludes with the same result under any handling of differences, and
changes no file; and if the test fails, then not because of its output. -/
theorem verify_roundTrip (command : Command)
    (hlink : ∀ (stream : Stream) (path : Path), c.outputPath stream.name = .ok path →
      ¬ s.tree.IsLink path.text)
    (h : outcome ((c.under .bless).verify command output) s = (result, s'))
    (hresult : Concludes result) (hu : u.tree = s'.tree) :
    (∀ handling, ∃ v, v.tree = u.tree ∧
      outcome ((c.under handling).verify command output) u = (result, v)) ∧
    ∀ f, result = .error (.failed f) → SparesOutput f.errors := by
  rcases hmode : c.mode with f | mode
  -- a mode with several values ends every verification before a file is looked at
  · rw [outcome_verify_of_mode ((c.mode_under _).trans hmode) s] at h
    cases h
    refine ⟨fun handling => ⟨u, rfl, ?_⟩, fun g hg => ?_⟩
    · exact outcome_verify_of_mode ((c.mode_under handling).trans hmode) u
    · cases hg
      exact c.sparesOutput_mode hmode
  · obtain ⟨p, midway, after, hstderr, hstdout⟩ :=
      prepared_of_verify ((c.mode_under _).trans hmode) h hresult
    obtain ⟨_, hafter, hfirst⟩ := p.outcome_verify command hstderr hstdout
    -- who blesses finds nothing wrong with output, and so does who finds settled baselines
    rw [h, outputConflict_bless, outputConflict_bless] at hfirst
    cases hfirst
    have hne : Stream.stderr ≠ Stream.stdout := by decide
    obtain ⟨hroutes, hsettledErr, hsettledOut⟩ :=
      settled_of_both (hlink .stderr _ p.stderrPath_eq) (hlink .stdout _ p.stdoutPath_eq)
        (beside_of_outputPath hne p.stderrPath_eq p.stdoutPath_eq)
        (blessed_of_reconciled hstderr) (blessed_of_reconciled hstdout)
    rw [← hafter, ← hu] at hroutes hsettledErr hsettledOut
    refine ⟨fun handling => ?_, fun f hf => p.sparesOutput_result hf⟩
    exact ((p.along hroutes).under handling).outcome_verify_of_settled hsettledErr hsettledOut
      command

end RoundTrip

/-! ## A test whose expected output is out of date -/

/-- Files with expected output of both kinds. -/
def staleTree : FileTree := outdatedTree.put ["t.stdout"] (.file (Bytes.ofText "done\n") false)

/-- What the compiler has left behind: success, no output, and a diagnostic without a line. -/
def quietOutput : ProcessOutput := { outdatedOutput with stdout := [] }

/-- The files after blessing: the error output is replaced, and there is no file for no output. -/
def freshTree : FileTree where
  entries := [(["t.stderr"], .file (Bytes.ofText "error: new\n") false)]
  workingPlace := []

/-- What the verification works with. -/
def stalePrepared : Prepared (outdated.under .bless) staleTree quietOutput where
  mode := ⟨.fail true, {}⟩
  decoding := outdatedFindings.decoding
  stderrPath := ⟨.relative, ["t.stderr"]⟩
  stderr := Bytes.ofText "error: new\n"
  stdoutPath := ⟨.relative, ["t.stdout"]⟩
  stdout := []
  mode_eq := rfl
  decode_eq :=
    (Diagnostics.decode_of_sameRoutes (sameRoutes_put rfl _ _) _ _).trans decode_outdatedOutput
  stderrPath_eq := rfl
  stderr_eq := rfl
  stdoutPath_eq := rfl
  stdout_eq := rfl

/-- What is wrong with the test after blessing. -/
def staleFailure : Failure where
  command := default
  errors := [
    .exitStatus "fail" 0 1,
    .patternNotFound ⟨{ text := "mismatched" }, {}⟩ (some (.int 2)),
    .unexpectedMessages [⟨.error, "new", none⟩] none]
  stderr := Bytes.ofText "error: new\n"
  stdout := []

theorem stale_not_isLink (stream : Stream) (path : Path)
    (h : outdated.outputPath stream.name = .ok path) : ¬ staleTree.IsLink path.text := by
  have hfile : ∃ place content,
      staleTree.find false path.text = .ok (place, .file content false) := by
    cases stream with
    | stdout =>
      cases h
      exact ⟨["t.stdout"], Bytes.ofText "done\n", by decide +kernel⟩
    | stderr =>
      cases h
      exact ⟨["t.stderr"], Bytes.ofText "error: old\n", by decide +kernel⟩
  obtain ⟨place, content, hfind⟩ := hfile
  rintro ⟨here, target, hlink⟩
  rw [hfind] at hlink
  cases hlink

theorem stale_roundTrip :
    ∃ s', outcome ((outdated.under .bless).verify default quietOutput) { tree := staleTree } =
        (.error (.failed staleFailure), s') ∧ s'.tree = freshTree ∧
      ∀ u : Session, u.tree = s'.tree →
        (∀ handling, ∃ v, v.tree = u.tree ∧
          outcome ((outdated.under handling).verify default quietOutput) u =
            (.error (.failed staleFailure), v)) ∧
        SparesOutput staleFailure.errors := by
  let midway := staleTree.put ["t.stderr"] (.file (Bytes.ofText "error: new\n") false)
  have hstderr : blessed staleTree stalePrepared.stderrPath stalePrepared.stderr = .ok midway := by
    decide +kernel
  have hstdout : blessed midway stalePrepared.stdoutPath stalePrepared.stdout = .ok freshTree := by
    decide +kernel
  obtain ⟨s', hs', h⟩ := stalePrepared.outcome_verify (s := { tree := staleTree }) default
    (.blessed hstderr) (.blessed hstdout)
  refine ⟨s', h, hs', fun u hu => ?_⟩
  obtain ⟨hagain, hspares⟩ := verify_roundTrip default stale_not_isLink h (.failed _) hu
  exact ⟨hagain, hspares _ rfl⟩

end Case

end CompilerTest

import CompilerTest.Proofs.Matching.ByLine
import CompilerTest.Proofs.Matching.Faults
import CompilerTest.Proofs.Matching.Modes

/-!
# Expectations in another order

Expectations for different lines do not interfere. Main statement: two tests with the same
expectations, each line having its own in the same order, leave the same messages and report the
same on every line (`checkAnnotations_reordered`).
-/

namespace CompilerTest

/-! ## Reports in another order -/

namespace Discrepancy

/-- Whether a discrepancy is about an expectation for another file that no message satisfies. -/
def isMissingElsewhere : Discrepancy → Bool
  | patternNotFound _ none => true
  | codeNotFound _ none => true
  | _ => false

/-- Whether a discrepancy is about what the mode asks for. -/
def isOfMode : Discrepancy → Bool
  | patternInPassingTest .. => true
  | noPatterns => true
  | _ => false

/-- The discrepancy without the place of the message that a passing test expects. -/
def withoutSpan : Discrepancy → Discrepancy
  | patternInPassingTest mode _ => patternInPassingTest mode {}
  | d => d

end Discrepancy

/-- Whether two lists of reports are the same up to the order of lines and the expectation that is
named to a passing test. -/
structure SameReports (es es' : List Discrepancy) : Prop where
  /-- The expectations for a line that no message satisfies are the same, in the same order. -/
  onLine : ∀ n, es'.filter (·.isMissingOn n) = es.filter (·.isMissingOn n)
  /-- So are those for other files. -/
  elsewhere : es'.filter (·.isMissingElsewhere) = es.filter (·.isMissingElsewhere)
  /-- So are the reports about what is left, of all lines. -/
  unexpected : es'.filter (·.isUnexpected) = es.filter (·.isUnexpected)
  /-- The reports about the mode are the same but for a span. -/
  ofMode : (es'.filter (·.isOfMode)).map Discrepancy.withoutSpan =
    (es.filter (·.isOfMode)).map Discrepancy.withoutSpan

namespace SameReports

variable {es es' fs fs' : List Discrepancy}

theorem refl (es : List Discrepancy) : SameReports es es where
  onLine _ := rfl
  elsewhere := rfl
  unexpected := rfl
  ofMode := rfl

theorem append (h : SameReports es es') (h' : SameReports fs fs') :
    SameReports (es ++ fs) (es' ++ fs') where
  onLine n := by simp only [List.filter_append, h.onLine, h'.onLine]
  elsewhere := by simp only [List.filter_append, h.elsewhere, h'.elsewhere]
  unexpected := by simp only [List.filter_append, h.unexpected, h'.unexpected]
  ofMode := by simp only [List.filter_append, List.map_append, h.ofMode, h'.ofMode]

end SameReports

namespace Matching

/-! ## Runs in another order -/

/-- An expectation for a line is reported as such. -/
theorem unsatisfied_kinds (codePrefix : String) (m : ErrorMatch) :
    (unsatisfied codePrefix m).isMissingElsewhere = false ∧
      (unsatisfied codePrefix m).isUnexpected = false ∧
      (unsatisfied codePrefix m).isOfMode = false := by
  obtain ⟨kind, line⟩ := m
  cases kind <;> exact ⟨rfl, rfl, rfl⟩

/-- Buckets that are the same on every line are the same altogether. -/
theorem lines_eq_of_bucket {s t : Matching} (hlength : t.lines.length = s.lines.length)
    (h : ∀ n, t.bucket (some n) = s.bucket (some n)) : t.lines = s.lines := by
  refine List.ext_getElem hlength fun n ht hs => ?_
  have hn := h n
  rwa [bucket_some, bucket_some, List.getD_eq_getElem _ _ ht, List.getD_eq_getElem _ _ hs] at hn

variable {codePrefix : String} {s t : Matching} {ms ms' : List ErrorMatch}

/-- What the expectations for lines leave and report does not depend on how lines alternate. -/
theorem run_reordered (hperm : ms'.Perm ms)
    (hlines : ∀ n, ms'.filter (·.isFor n) = ms.filter (·.isFor n))
    (h : outcome (ms.forM (matchLine codePrefix)) s = (.ok (), t)) :
    ∃ t' es es', outcome (ms'.forM (matchLine codePrefix)) s = (.ok (), t') ∧
      t'.lines = t.lines ∧ t'.unknown = t.unknown ∧
      t.errors = s.errors ++ es ∧ t'.errors = s.errors ++ es' ∧ SameReports es es' := by
  obtain ⟨es, hes⟩ := Served.of_run h
  have hruns : ∃ t', outcome (ms'.forM (matchLine codePrefix)) s = (.ok (), t') :=
    run_of_served (fun m hm => hes.position_ok m (hperm.mem_iff.1 hm))
      fun n => ⟨_, by rw [hlines n]; exact hes.line_eq n⟩
  obtain ⟨t', ht'⟩ := hruns
  obtain ⟨es', hes'⟩ := Served.of_run ht'
  -- both orders serve the same expectations on each line
  have hline : ∀ n, t'.bucket (some n) = t.bucket (some n) ∧
      es'.filter (·.isMissingOn n) = es.filter (·.isMissingOn n) := by
    intro n
    have hline' := hes'.line_eq n
    rw [hlines n, hes.line_eq n] at hline'
    obtain ⟨hbucket, hreports⟩ := Prod.mk.inj (Except.ok.inj hline')
    exact ⟨hbucket.symm, hreports.symm⟩
  have hother : ∀ p : Discrepancy → Bool, (∀ m, p (unsatisfied codePrefix m) = false) →
      es'.filter p = es.filter p := by
    intro p hp
    rw [List.filter_eq_nil_iff.2 fun d hd => ?_, List.filter_eq_nil_iff.2 fun d hd => ?_]
    · obtain ⟨m, -, rfl⟩ := hes.reports d hd
      simp [hp]
    · obtain ⟨m, -, rfl⟩ := hes'.reports d hd
      simp [hp]
  refine ⟨t', es, es', ht', ?_, hes'.unknown_eq.trans hes.unknown_eq.symm, hes.errors_eq,
    hes'.errors_eq, ?_⟩
  · exact lines_eq_of_bucket (hes'.length_eq.trans hes.length_eq.symm) fun n => (hline n).1
  · exact {
      onLine := fun n => (hline n).2
      elsewhere := hother _ fun m => (unsatisfied_kinds codePrefix m).1
      unexpected := hother _ fun m => (unsatisfied_kinds codePrefix m).2.1
      ofMode := by rw [hother _ fun m => (unsatisfied_kinds codePrefix m).2.2] }

/-- The lowest expected level does not depend on the order. -/
theorem lowestLevel_perm (h : ms'.Perm ms) : lowestLevel ms' = lowestLevel ms := by
  refine h.foldl_eq' (fun m _ m' _ level => ?_) _
  obtain ⟨kind, line⟩ := m
  obtain ⟨kind', line'⟩ := m'
  cases kind with
  | code c => cases kind' <;> rfl
  | pattern p l =>
    cases kind' with
    | code c => rfl
    | pattern p' l' => cases l <;> cases l' <;> cases level <;> rfl

end Matching

/-! ## Tests with their expectations in another order -/

/-- The set without its expectations for lines. -/
def DirectiveSet.unexpecting (s : DirectiveSet) : DirectiveSet := { s with errorMatches := [] }

/-- What does not depend on expectations for lines is the same in sets that differ in these. -/
theorem DirectiveSet.filterMap_unexpecting {β : Type} {sets sets' : List DirectiveSet}
    (h : sets'.map unexpecting = sets.map unexpecting) (p : DirectiveSet → Bool)
    (f : DirectiveSet → Option β) (hp : ∀ s, p s.unexpecting = p s)
    (hf : ∀ s, f s.unexpecting = f s) :
    (sets'.filter p).filterMap f = (sets.filter p).filterMap f := by
  have hsplit : ∀ sets : List DirectiveSet,
      (sets.filter p).filterMap f = ((sets.map unexpecting).filter p).filterMap f := by
    intro sets
    have hp' : p ∘ unexpecting = p := funext hp
    have hf' : f ∘ unexpecting = f := funext hf
    rw [List.filter_map, List.filterMap_map, hp', hf']
  rw [hsplit sets', hsplit sets, h]

namespace Case

open Matching

/-- Whether two tests differ at most in the order of their expectations for lines, and agree in the
order of those for any one line, as far as a check looks at them. -/
structure SameByLine (c c' : Case) : Prop where
  path_eq : c'.path = c.path
  otherFiles_eq : c'.otherFiles = c.otherFiles
  codePrefix_eq : c'.codePrefix = c.codePrefix
  levelSetting_eq : c'.findOne "\x60require_annotations_for_level\x60 annotations"
    DirectiveSet.requiredLevel = c.findOne "\x60require_annotations_for_level\x60 annotations"
    DirectiveSet.requiredLevel
  mode_eq : c'.mode = c.mode
  perm : c'.errorMatches.Perm c.errorMatches
  onLine_eq : ∀ n, c'.errorMatches.filter (·.isFor n) = c.errorMatches.filter (·.isFor n)

namespace SameByLine

variable {c c' : Case} {s t t' : Matching}

/-- Tests whose sets differ in nothing but expectations for lines differ in nothing else. -/
theorem of_sets (hpath : c'.path = c.path) (hrevision : c'.revision = c.revision)
    (hsets : c'.directives.sets.map DirectiveSet.unexpecting =
      c.directives.sets.map DirectiveSet.unexpecting)
    (hperm : c'.errorMatches.Perm c.errorMatches)
    (hlines : ∀ n, c'.errorMatches.filter (·.isFor n) = c.errorMatches.filter (·.isFor n)) :
    c.SameByLine c' := by
  have hsetting : ∀ {α : Type} (kind : String) (setting : DirectiveSet → Option (Spanned α)),
      (∀ s, setting s.unexpecting = setting s) →
        c'.findOne kind setting = c.findOne kind setting := by
    intro α kind setting hset
    simp only [findOne, Directives.findOne, Directives.specific, Directives.general, hrevision]
    rw [DirectiveSet.filterMap_unexpecting hsets (·.mentions c.revision) _ (fun _ => rfl) hset,
      DirectiveSet.filterMap_unexpecting hsets (·.revisions.isEmpty) _ (fun _ => rfl) hset]
  refine ⟨hpath, ?_, ?_, hsetting _ _ fun _ => rfl, ?_, hperm, hlines⟩
  · have hothers := DirectiveSet.filterMap_unexpecting hsets (·.appliesTo c.revision)
      (fun s => some s.otherFiles) (fun _ => rfl) fun _ => rfl
    rw [List.filterMap_eq_map'] at hothers
    rw [otherFiles, otherFiles, sets, sets, hrevision, List.flatMap_def, List.flatMap_def]
    exact congrArg List.flatten hothers
  · rw [codePrefix, codePrefix, hsetting _ _ fun _ => rfl]
  · rw [mode, mode, Directives.mode, Directives.mode]
    exact congrArg (· >>= _) (hsetting "mode changes" DirectiveSet.mode fun _ => rfl)

theorem requiredLevel_eq (h : c.SameByLine c') : c'.requiredLevel = c.requiredLevel := by
  rw [requiredLevel, requiredLevel, h.levelSetting_eq, lowestLevel_perm h.perm]

/-- A test expects something in one order iff it does in another. -/
theorem lastExpectation_none_iff (h : c.SameByLine c') :
    c'.lastExpectation = none ↔ c.lastExpectation = none := by
  have hnil : c'.errorMatches = [] ↔ c.errorMatches = [] := by
    rw [← List.length_eq_zero_iff, ← List.length_eq_zero_iff, h.perm.length_eq]
  simp only [lastExpectation, List.getLast?_eq_none_iff, List.append_eq_nil_iff,
    List.map_eq_nil_iff, h.otherFiles_eq, hnil]

/-- The report about the mode is the same but for the expectation that it names. -/
theorem modeConflict_eq (h : c.SameByLine c') (mode : Spanned Mode) :
    SameReports (modeConflict mode c.lastExpectation) (modeConflict mode c'.lastExpectation) := by
  have hnone := h.lastExpectation_none_iff
  obtain ⟨content, span⟩ := mode
  rcases hlast : c.lastExpectation with _ | seen
  · rw [hnone.2 hlast]
    exact .refl _
  · rcases hlast' : c'.lastExpectation with _ | seen'
    · rw [hnone.1 hlast'] at hlast
      cases hlast
    · cases content with
      | pass | panic => exact ⟨fun _ => rfl, rfl, rfl, rfl⟩
      | fail required => cases required <;> exact .refl _
      | yolo => exact .refl _

/-- The reports at the end are the same. -/
theorem outcome_finish (h : c.SameByLine c') (hlines : t'.lines = t.lines)
    (hunknown : t'.unknown = t.unknown) :
    ∃ result es es', outcome c.finish t = (result, { t with errors := t.errors ++ es }) ∧
      outcome c'.finish t' = (result, { t' with errors := t'.errors ++ es' }) ∧
      SameReports es es' := by
  simp only [Case.outcome_finish, h.requiredLevel_eq, h.mode_eq]
  rcases c.requiredLevel with f | level
  · exact ⟨_, [], [], by rw [List.append_nil], by rw [List.append_nil], .refl _⟩
  · rcases c.mode with f | mode
    · exact ⟨_, [], [], by rw [List.append_nil], by rw [List.append_nil], .refl _⟩
    · have hleft : leftOver c'.path level t' = leftOver c.path level t := by
        rw [leftOver, leftOver, hlines, hunknown, h.path_eq]
      refine ⟨_, _, _, rfl, rfl, ?_⟩
      rw [closing, closing, hleft]
      exact (SameReports.refl _).append (h.modeConflict_eq mode)

end SameByLine

/-- **Expectations for different lines do not interfere.** Let two tests have the same expectations,
those for each line in the same order. If a check of the one concludes, then a check of the other
concludes in the same way. Both leave the same messages and report the same up to the order of lines
and the expectation that is named to a passing test. -/
theorem checkAnnotations_reordered {c c' : Case} {start final : Matching}
    {result : Except Fault Unit} (h : c.SameByLine c')
    (hrun : outcome c.checkAnnotations start = (result, final)) (hresult : Concludes result) :
    ∃ final' es es', outcome c'.checkAnnotations start = (result, final') ∧
      final'.lines = final.lines ∧ final'.unknown = final.unknown ∧
      final.errors = start.errors ++ es ∧ final'.errors = start.errors ++ es' ∧
      SameReports es es' := by
  rcases hp : c.codePrefix with f | codePrefix
  · -- a conflict about what codes begin with ends both checks before any line is looked up
    have hsame : outcome c'.checkAnnotations start = outcome c.checkAnnotations start := by
      simp only [checkAnnotations_eq_finish, h.otherFiles_eq, h.codePrefix_eq, hp, outcome_bind]
      rfl
    obtain ⟨es, hes⟩ := c.checkAnnotations_frames.errors_eq start
    rw [hrun] at hes
    exact ⟨final, es, es, hsame.trans hrun, rfl, rfl, hes, hes, .refl es⟩
  · obtain ⟨s, t, hs, ht, hfinish⟩ := handled_of_concludes hp hrun hresult
    obtain ⟨es, hes⟩ : ∃ es, s.errors = start.errors ++ es := by
      simpa only [hs] using (Frames.forM frames_matchOther c.otherFiles).errors_eq start
    obtain ⟨t', fs, fs', ht', hlines, hunknown, hfs, hfs', hsame⟩ :=
      run_reordered h.perm h.onLine_eq ht
    obtain ⟨result', gs, gs', hgs, hgs', hsame'⟩ := h.outcome_finish hlines hunknown
    obtain ⟨rfl, rfl⟩ := Prod.mk.inj (hfinish.symm.trans hgs)
    refine ⟨{ t' with errors := t'.errors ++ gs' }, es ++ fs ++ gs, es ++ fs' ++ gs', ?_, hlines,
      hunknown, ?_, ?_, ((SameReports.refl es).append hsame).append hsame'⟩
    · rw [checkAnnotations_eq_finish, h.otherFiles_eq, h.codePrefix_eq, hp,
        outcome_bind_of_ok hs, outcome_bind_of_ok (outcome_liftFailure_ok_iff.2 ⟨rfl, rfl⟩),
        outcome_bind_of_ok ht', hgs']
    · show t.errors ++ gs = _
      rw [hfs, hes]
      simp only [List.append_assoc]
    · show t'.errors ++ gs' = _
      rw [hfs', hes]
      simp only [List.append_assoc]

/-! ## A test whose lines alternate -/

/-- A test that must not fail and expects overlapping messages on line 2 and others on line 3; the
first half of the expectations is in the first set. -/
def alternating (first second : List ErrorMatch) : Case where
  config := default
  revision := ""
  directives := { sets := [
    { errorMatches := first
      codePrefix := some ⟨"E", {}⟩
      mode := some ⟨.pass, ⟨none, some (.int 1)⟩⟩ },
    { errorMatches := second }] }
  path := ⟨.relative, ["ui", "alternating.rs"]⟩
  auxDir := ⟨.relative, ["ui", "auxiliary"]⟩

/-- The expectations for line 2. -/
def onSecondLine : List ErrorMatch := [
  ⟨.pattern ⟨{ text := "mismatched" }, ⟨none, some (.int 5)⟩⟩ .error, .int 2⟩,
  ⟨.pattern ⟨{ text := "types" }, ⟨none, some (.int 6)⟩⟩ .error, .int 2⟩]

/-- The expectations for line 3. -/
def onThirdLine : List ErrorMatch := [
  ⟨.code ⟨"0308", ⟨none, some (.int 7)⟩⟩, .int 3⟩,
  ⟨.pattern ⟨{ text := "unused" }, ⟨none, some (.int 8)⟩⟩ .warning, .int 3⟩]

/-- The test with the lines one after the other. -/
def lineAfterLine : Case := alternating onSecondLine onThirdLine

/-- The test with an expectation for each line in both sets. -/
def lineByTurns : Case :=
  alternating (onThirdLine.take 1 ++ onSecondLine.take 1)
    (onThirdLine.drop 1 ++ onSecondLine.drop 1)

/-- Messages of which two are expected. -/
def alternatingMessages : Diagnostics where
  lines := [[], [], [⟨.error, "mismatched types", none⟩],
    [⟨.error, "unknown name", some "E0412"⟩, ⟨.warning, "unused value", none⟩]]
  unknown := [⟨.error, "linking failed", none⟩]

/-- What is left of the messages, and what is reported line after line. -/
def lineAfterLineOutcome : Matching where
  lines := [[], [], [], [⟨.error, "unknown name", some "E0412"⟩]]
  unknown := [⟨.error, "linking failed", none⟩]
  errors := [
    .patternNotFound ⟨{ text := "types" }, ⟨none, some (.int 6)⟩⟩ (some (.int 2)),
    .codeNotFound ⟨"E0308", ⟨none, some (.int 7)⟩⟩ (some (.int 3)),
    .unexpectedMessages [⟨.error, "linking failed", none⟩] none,
    .unexpectedMessages [⟨.error, "unknown name", some "E0412"⟩]
      (some ⟨lineAfterLine.path, ⟨some lineAfterLine.path, some (.int 3)⟩⟩),
    .patternInPassingTest ⟨none, some (.int 1)⟩ ⟨none, some (.int 8)⟩]

theorem lineAfterLine_sameByLine : lineAfterLine.SameByLine lineByTurns := by
  refine .of_sets rfl rfl rfl (by decide) fun n => ?_
  by_cases h₂ : n = 2
  · subst h₂; rfl
  · by_cases h₃ : n = 3
    · subst h₃; rfl
    · have hnone : ∀ ms : List ErrorMatch, (∀ m ∈ ms, m.line = .int 2 ∨ m.line = .int 3) →
          ms.filter (·.isFor n) = [] := by
        intro ms hms
        refine List.filter_eq_nil_iff.2 fun m hm => ?_
        rcases hms m hm with hline | hline
        · simpa [ErrorMatch.isFor, hline, Number.isLine, Number.whole?] using Ne.symm h₂
        · simpa [ErrorMatch.isFor, hline, Number.isLine, Number.whole?] using Ne.symm h₃
      rw [hnone _ (by decide), hnone _ (by decide)]

theorem lineByTurns_reordered :
    lineAfterLine.SameByLine lineByTurns ∧
      outcome lineAfterLine.checkAnnotations (.ofDiagnostics alternatingMessages) =
        (.ok (), lineAfterLineOutcome) ∧
      Concludes (.ok ()) ∧
      ∃ final' es es',
        outcome lineByTurns.checkAnnotations (.ofDiagnostics alternatingMessages) =
          (.ok (), final') ∧
        final'.lines = lineAfterLineOutcome.lines ∧
        final'.unknown = lineAfterLineOutcome.unknown ∧
        lineAfterLineOutcome.errors = [] ++ es ∧ final'.errors = [] ++ es' ∧ SameReports es es' :=
  ⟨lineAfterLine_sameByLine, rfl, .passed (),
    checkAnnotations_reordered lineAfterLine_sameByLine rfl (.passed ())⟩

end Case

end CompilerTest

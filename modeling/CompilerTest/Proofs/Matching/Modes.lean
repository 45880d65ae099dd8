import CompilerTest.Proofs.Matching.LeftOver

/-!
# Modes and matching

The mode of a test has no influence on what is matched with what. Main statement: two cases that
differ in their modes leave the same messages, and what is reported in one mode is what is reported
in the plainest of them, with the report that belongs to the mode added or, if anything is allowed,
with the reports about what is left taken away (`checkAnnotations_modes`).
-/

namespace CompilerTest

namespace Discrepancy

/-- Whether a discrepancy is about messages that are left. -/
def isUnexpected : Discrepancy → Bool
  | unexpectedMessages .. => true
  | _ => false

end Discrepancy

namespace Wanted

theorem notFound_isNotFound (codePrefix : String) (w : Wanted) :
    (w.notFound codePrefix).isNotFound = true := by
  cases w with
  | elsewhere p => rfl
  | onLine m =>
    obtain ⟨kind, line⟩ := m
    cases kind <;> rfl

/-- From nothing reported, handling expectations reports expectations only. -/
theorem isNotFound_of_run {codePrefix : String} {ws : List Wanted} {s t : Matching}
    (hs : s.errors = []) (h : outcome (ws.forM (Wanted.step codePrefix)) s = (.ok (), t)) :
    ∀ d ∈ t.errors, d.isNotFound = true := by
  obtain ⟨spots, -, herrors⟩ := Matching.Assigned.of_run h
  intro d hd
  rw [herrors, hs, List.nil_append] at hd
  obtain ⟨w, -, rfl⟩ := List.mem_map.1 hd
  exact notFound_isNotFound codePrefix w

end Wanted

namespace Case

/-! ## Cases that differ in their modes -/

/-- Whether two cases differ at most in their modes, as far as a check looks at them. -/
structure SameButMode (c c' : Case) : Prop where
  path_eq : c'.path = c.path
  otherFiles_eq : c'.otherFiles = c.otherFiles
  errorMatches_eq : c'.errorMatches = c.errorMatches
  codePrefix_eq : c'.codePrefix = c.codePrefix
  requiredLevel_eq : c'.requiredLevel = c.requiredLevel

/-- The case with another mode: no set of directives says anything about it but one at the end, for
all revisions, which says nothing else. -/
def withMode (c : Case) (mode : Spanned Mode) : Case :=
  { c with directives := { c.directives with
    sets := c.directives.sets.map (fun s => { s with mode := none }) ++ [{ mode := some mode }] } }

section WithMode

variable (c : Case) (mode mode' : Spanned Mode)

/-- A setting other than the mode is not touched by another mode. -/
theorem findOne_withMode {α : Type} (kind : String) (setting : DirectiveSet → Option (Spanned α))
    (hset : ∀ s, setting { s with mode := none } = setting s)
    (hnone : setting { mode := some mode } = none) :
    (c.withMode mode).findOne kind setting = c.findOne kind setting := by
  have hcomp : setting ∘ (fun s => { s with mode := none }) = setting := funext hset
  have hspecific : (c.withMode mode).directives.specific c.revision setting =
      c.directives.specific c.revision setting := by
    simp only [Directives.specific, withMode, List.filter_append, List.filter_map,
      List.filterMap_append, List.filterMap_map, hcomp]
    exact List.append_nil _
  have hgeneral : (c.withMode mode).directives.general setting = c.directives.general setting := by
    simp only [Directives.general, withMode, List.filter_append, List.filter_map,
      List.filterMap_append, List.filterMap_map, hcomp]
    rw [List.filter_cons_of_pos (by rfl), List.filter_nil, List.filterMap_cons_none hnone]
    exact List.append_nil _
  show Directives.findOne _ c.revision kind setting = Directives.findOne _ c.revision kind setting
  rw [Directives.findOne, Directives.findOne, hspecific, hgeneral]

theorem mode_withMode : (c.withMode mode).mode = .ok mode := by
  have herased : ∀ p : DirectiveSet → Bool, ((c.directives.sets.map fun s => { s with mode := none }
      ).filter p).filterMap DirectiveSet.mode = [] := by
    intro p
    rw [List.filterMap_eq_nil_iff]
    intro s hs
    obtain ⟨s', -, rfl⟩ := List.mem_map.1 (List.mem_of_mem_filter hs)
    rfl
  have hspecific : (c.withMode mode).directives.specific c.revision DirectiveSet.mode = [] := by
    simp only [Directives.specific, withMode, List.filter_append, List.filterMap_append, herased]
    rfl
  have hgeneral : (c.withMode mode).directives.general DirectiveSet.mode = [mode] := by
    simp only [Directives.general, withMode, List.filter_append, List.filterMap_append, herased]
    rfl
  show (c.withMode mode).directives.mode c.revision = _
  rw [Directives.mode, Directives.findOne, hspecific, hgeneral]
  rfl

theorem sets_withMode : (c.withMode mode).sets =
    c.sets.map (fun s => { s with mode := none }) ++ [{ mode := some mode }] := by
  rw [sets, Directives.forRevision, withMode, List.filter_append, List.filter_map]
  rfl

theorem sameButMode_withMode : c.SameButMode (c.withMode mode) where
  path_eq := rfl
  otherFiles_eq := by
    simp [otherFiles, sets_withMode, List.flatMap_append, List.flatMap_map]
  errorMatches_eq := by
    simp [errorMatches, sets_withMode, List.flatMap_append, List.flatMap_map]
  codePrefix_eq := by
    rw [codePrefix, codePrefix, findOne_withMode]
    · exact fun _ => rfl
    · rfl
  requiredLevel_eq := by
    rw [requiredLevel, requiredLevel, findOne_withMode]
    · simp [errorMatches, sets_withMode, List.flatMap_append, List.flatMap_map]
    · exact fun _ => rfl
    · rfl

end WithMode

/-- Where the last expectation of a test was written down: the last one for a line or, if there is
none, the last one for another file. -/
def lastSpan (c : Case) : Option Span :=
  match c.errorMatches.getLast?, c.otherFiles.getLast? with
  | some m, _ => some m.span
  | none, some p => some p.span
  | none, none => none

theorem lastExpectation_eq (c : Case) : c.lastExpectation = c.lastSpan := by
  rw [lastExpectation, lastSpan, List.getLast?_append, List.getLast?_map, List.getLast?_map]
  cases c.errorMatches.getLast? <;> cases c.otherFiles.getLast? <;> rfl

/-- What is reported in a mode, given what is reported in a test that has to fail and need not
expect anything. -/
def inMode (c : Case) (mode : Spanned Mode) (errors : List Discrepancy) : List Discrepancy :=
  match mode.content with
  | .fail false => errors
  | .fail true =>
    if c.errorMatches = [] ∧ c.otherFiles = [] then errors ++ [.noPatterns] else errors
  | .pass | .panic =>
    match c.lastSpan with
    | some span => errors ++ [.patternInPassingTest mode.span span]
    | none => errors
  | .yolo => errors.filter fun d => !d.isUnexpected

/-! ## Checks in two modes -/

section Checks

variable {c c' : Case} {plain mode : Spanned Mode} {level : Level} {s : Matching}

/-- What comes before the mode is the same in both cases. -/
theorem SameButMode.matchAll_eq (h : c.SameButMode c') : c'.matchAll = c.matchAll := by
  rw [matchAll, matchAll, h.otherFiles_eq, h.codePrefix_eq, h.errorMatches_eq, h.requiredLevel_eq]

theorem SameButMode.lastSpan_eq (h : c.SameButMode c') : c'.lastSpan = c.lastSpan := by
  rw [lastSpan, lastSpan, h.otherFiles_eq, h.errorMatches_eq]

theorem lastSpan_eq_none_iff : c.lastSpan = none ↔ c.errorMatches = [] ∧ c.otherFiles = [] := by
  rw [lastSpan, ← List.getLast?_eq_none_iff, ← @List.getLast?_eq_none_iff _ c.otherFiles]
  cases c.errorMatches.getLast? <;> cases c.otherFiles.getLast? <;> simp

/-- How a check ends when everything has been matched. -/
theorem outcome_checkAnnotations {s t : Matching} (hmode : c.mode = .ok mode)
    (h : outcome c.matchAll s = (.ok level, t)) :
    outcome c.checkAnnotations s =
      (.ok (), { t with errors := t.errors ++ c.closing level mode t }) := by
  rw [checkAnnotations_eq, outcome_bind_of_ok h, hmode]
  exact c.outcome_close level mode t

/-- How a check ends when something prevents matching. -/
theorem outcome_checkAnnotations_of_fault {s t : Matching} {f : Fault}
    (h : outcome c.matchAll s = (.error f, t)) : outcome c.checkAnnotations s = (.error f, t) := by
  rw [checkAnnotations_eq, outcome_bind, h]

/-- The reports at the end in the plainest mode are those about what is left. -/
theorem closing_plain (hplain : plain.content = .fail false) :
    c.closing level plain s = Matching.leftOver c.path level s := by
  simp [closing, Matching.modeConflict, hplain]

/-- The reports at the end in any mode, after reports about expectations alone. -/
theorem SameButMode.closing_eq (h : c.SameButMode c') (mode : Spanned Mode)
    {es : List Discrepancy} (hes : ∀ d ∈ es, d.isNotFound = true) :
    es ++ c'.closing level mode s = c.inMode mode (es ++ Matching.leftOver c.path level s) := by
  have hkeep : es.filter (fun d => !d.isUnexpected) = es := by
    refine List.filter_eq_self.2 fun d hd => ?_
    have := hes d hd
    cases d <;> simp_all [Discrepancy.isNotFound, Discrepancy.isUnexpected]
  have hdrop : (Matching.leftOver c.path level s).filter (fun d => !d.isUnexpected) = [] := by
    refine List.filter_eq_nil_iff.2 fun d hd => ?_
    obtain ⟨ms, path, rfl⟩ := Matching.mem_leftOver hd
    simp [Discrepancy.isUnexpected]
  rw [closing, h.path_eq, lastExpectation_eq, h.lastSpan_eq]
  obtain ⟨content, span⟩ := mode
  cases content with
  | pass | panic => cases hspan : c.lastSpan <;> simp [inMode, Matching.modeConflict, hspan]
  | fail b =>
    cases b with
    | false => simp [inMode, Matching.modeConflict]
    | true =>
      cases hspan : c.lastSpan with
      | none => simp [inMode, Matching.modeConflict, lastSpan_eq_none_iff.1 hspan]
      | some span =>
        have hne : ¬(c.errorMatches = [] ∧ c.otherFiles = []) := by
          rw [← lastSpan_eq_none_iff, hspan]
          exact Option.some_ne_none _
        simp [inMode, Matching.modeConflict, hne]
  | yolo => simp [inMode, Matching.modeConflict, hkeep, hdrop]

/-- **The mode adds its own report and does not influence matching.** -/
theorem checkAnnotations_modes (h : c.SameButMode c') (hplain : c.mode = .ok plain)
    (hcontent : plain.content = .fail false) (hmode : c'.mode = .ok mode) (d : Diagnostics) :
    (outcome c'.checkAnnotations (.ofDiagnostics d)).1 =
        (outcome c.checkAnnotations (.ofDiagnostics d)).1 ∧
      (outcome c'.checkAnnotations (.ofDiagnostics d)).2.lines =
        (outcome c.checkAnnotations (.ofDiagnostics d)).2.lines ∧
      (outcome c'.checkAnnotations (.ofDiagnostics d)).2.unknown =
        (outcome c.checkAnnotations (.ofDiagnostics d)).2.unknown ∧
      ((outcome c.checkAnnotations (.ofDiagnostics d)).1 = .ok () →
        (outcome c'.checkAnnotations (.ofDiagnostics d)).2.errors =
          c.inMode mode (outcome c.checkAnnotations (.ofDiagnostics d)).2.errors) := by
  rcases hrun : outcome c.matchAll (.ofDiagnostics d) with ⟨f | level, t⟩
  · have hrun' : outcome c'.matchAll (.ofDiagnostics d) = (.error f, t) := by
      rw [h.matchAll_eq, hrun]
    rw [outcome_checkAnnotations_of_fault hrun, outcome_checkAnnotations_of_fault hrun']
    exact ⟨rfl, rfl, rfl, fun hok => by cases hok⟩
  · have hrun' : outcome c'.matchAll (.ofDiagnostics d) = (.ok level, t) := by
      rw [h.matchAll_eq, hrun]
    rw [outcome_checkAnnotations hplain hrun, outcome_checkAnnotations hmode hrun',
      closing_plain hcontent]
    obtain ⟨codePrefix, -, -, hwanted⟩ := matchAll_ok_iff.1 hrun
    exact ⟨rfl, rfl, rfl, fun _ => h.closing_eq mode (Wanted.isNotFound_of_run rfl hwanted)⟩

end Checks

/-! ## A test in two modes -/

/-- The test in which expectations compete, as one that has to fail and need not expect anything. -/
def plainRivals : Case := rivals.withMode ⟨.fail false, {}⟩

/-- The same test as one that must not fail. -/
def passingRivals : Case := rivals.withMode ⟨.pass, ⟨none, some (.int 1)⟩⟩

theorem plainRivals_sameButMode : plainRivals.SameButMode passingRivals where
  path_eq := rfl
  otherFiles_eq := (sameButMode_withMode rivals _).otherFiles_eq
  errorMatches_eq := (sameButMode_withMode rivals _).errorMatches_eq
  codePrefix_eq := (sameButMode_withMode rivals _).codePrefix_eq
  requiredLevel_eq := (sameButMode_withMode rivals _).requiredLevel_eq

theorem passingRivals_modes :
    plainRivals.SameButMode passingRivals ∧ plainRivals.mode = .ok ⟨.fail false, {}⟩ ∧
      passingRivals.mode = .ok ⟨.pass, ⟨none, some (.int 1)⟩⟩ ∧
      (outcome plainRivals.checkAnnotations (.ofDiagnostics rivalMessages)).1 = .ok () ∧
      (outcome passingRivals.checkAnnotations (.ofDiagnostics rivalMessages)).2.lines =
        rivalOutcome.lines ∧
      (outcome passingRivals.checkAnnotations (.ofDiagnostics rivalMessages)).2.errors =
        rivalOutcome.errors ++ [.patternInPassingTest ⟨none, some (.int 1)⟩ {}] :=
  have hplain : plainRivals.mode = .ok ⟨.fail false, {}⟩ := mode_withMode rivals _
  have hpassing : passingRivals.mode = .ok ⟨.pass, ⟨none, some (.int 1)⟩⟩ :=
    mode_withMode rivals _
  have h := checkAnnotations_modes plainRivals_sameButMode hplain rfl hpassing rivalMessages
  ⟨plainRivals_sameButMode, hplain, hpassing, rfl, h.2.1, h.2.2.2 rfl⟩

end Case

end CompilerTest

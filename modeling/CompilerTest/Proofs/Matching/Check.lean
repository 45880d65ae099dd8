import CompilerTest.Proofs.Matching.Assignment

/-!
# The check of expected messages

The check of a test handles all its expectations, those for other files first, and then reports what
is left and what does not agree with the mode. Main statements: what a check that completes consists
of (`checkAnnotations_ok_iff`), and that it has matched the expectations one to one with messages
until none of the others could be satisfied (`checkAnnotations_matching`).
-/

namespace CompilerTest

namespace Discrepancy

/-- Whether a discrepancy is about an expectation that no message satisfies. -/
def isNotFound : Discrepancy → Bool
  | patternNotFound .. => true
  | codeNotFound .. => true
  | _ => false

end Discrepancy

namespace Case

/-- All that a test expects, in the order in which it is handled. -/
def wanted (c : Case) : List Wanted :=
  c.otherFiles.map .elsewhere ++ c.errorMatches.map .onLine

/-- What is reported once all expectations have been handled. -/
def closing (c : Case) (level : Level) (mode : Spanned Mode) (s : Matching) : List Discrepancy :=
  (if mode.content ≠ .yolo then Matching.leftOver c.path level s else []) ++
    Matching.modeConflict mode c.lastExpectation

/-- The part of a check that does not look at the mode: it handles all expectations and gives the
required level. -/
def matchAll (c : Case) : Matcher Level := do
  c.otherFiles.forM Matching.matchOther
  let codePrefix ← Matching.liftFailure c.codePrefix
  c.errorMatches.forM (Matching.matchLine codePrefix)
  Matching.liftFailure c.requiredLevel

/-- The part of a check that comes last: the reports about what is left and about the mode. -/
def close (c : Case) (level : Level) (mode : Spanned Mode) : Matcher Unit := do
  if mode.content ≠ .yolo then
    modify fun s => { s with errors := s.errors ++ Matching.leftOver c.path level s }
  (Matching.modeConflict mode c.lastExpectation).forM Matching.report

end Case

namespace Matching

/-! ## The reports at the end -/

theorem outcome_forM_report (ds : List Discrepancy) (s : Matching) :
    outcome (forM ds report) s = (.ok (), { s with errors := s.errors ++ ds }) := by
  induction ds generalizing s with
  | nil => simp
  | cons d ds ih =>
    rw [List.forM_cons, outcome_bind_of_ok (outcome_report d s), ih]
    simp

section Reports

variable {file : Path} {level : Level} {d : Discrepancy}

theorem mem_leftOnLines {n : Nat} {lines : List (List Message)}
    (hd : d ∈ leftOnLines file level n lines) :
    ∃ ms path, d = .unexpectedMessages ms (some path) := by
  induction lines generalizing n with
  | nil => cases hd
  | cons b lines ih =>
    rw [leftOnLines] at hd
    split at hd
    · exact ih hd
    · rcases List.mem_cons.1 hd with rfl | hd
      · exact ⟨_, _, rfl⟩
      · exact ih hd

theorem mem_leftOver {s : Matching} (hd : d ∈ leftOver file level s) :
    ∃ ms path, d = .unexpectedMessages ms path := by
  have hlines (hd : d ∈ leftOnLines file level 0 s.lines) :
      ∃ ms path, d = .unexpectedMessages ms path := by
    obtain ⟨ms, path, rfl⟩ := mem_leftOnLines hd
    exact ⟨_, _, rfl⟩
  rw [leftOver] at hd
  split at hd
  · exact hlines hd
  · rcases List.mem_cons.1 hd with rfl | hd
    · exact ⟨_, _, rfl⟩
    · exact hlines hd

theorem mem_modeConflict {mode : Spanned Mode} {seen : Option Span}
    (hd : d ∈ modeConflict mode seen) :
    (∃ span span', d = .patternInPassingTest span span') ∨ d = .noPatterns := by
  unfold modeConflict at hd
  split at hd
  · exact .inl ⟨_, _, List.mem_singleton.1 hd⟩
  · exact .inl ⟨_, _, List.mem_singleton.1 hd⟩
  · exact .inr (List.mem_singleton.1 hd)
  · cases hd

end Reports

end Matching

namespace Case

variable {c : Case}

/-- A report at the end is about messages that are left or about the mode. -/
theorem mem_closing {level : Level} {mode : Spanned Mode} {s : Matching} {d : Discrepancy}
    (hd : d ∈ c.closing level mode s) : (∃ ms path, d = .unexpectedMessages ms path) ∨
      (∃ span span', d = .patternInPassingTest span span') ∨ d = .noPatterns := by
  rcases List.mem_append.1 hd with hd | hd
  · split at hd
    · exact .inl (Matching.mem_leftOver hd)
    · cases hd
  · exact .inr (Matching.mem_modeConflict hd)

/-- No report at the end is about an expectation. -/
theorem closing_not_isNotFound (c : Case) (level : Level) (mode : Spanned Mode) (s : Matching) :
    ∀ d ∈ c.closing level mode s, d.isNotFound = false := by
  intro d hd
  obtain ⟨_, _, rfl⟩ | ⟨_, _, rfl⟩ | rfl := mem_closing hd
  · rfl
  · rfl
  · rfl

/-! ## The whole check -/

/-- Expectations of both kinds are handled by the same steps. -/
theorem outcome_wanted_ok_iff {codePrefix : String} {s t : Matching} :
    outcome (c.wanted.forM (Wanted.step codePrefix)) s = (.ok (), t) ↔
      ∃ u, outcome (c.otherFiles.forM Matching.matchOther) s = (.ok (), u) ∧
        outcome (c.errorMatches.forM (Matching.matchLine codePrefix)) u = (.ok (), t) := by
  have hmap : ∀ {α : Type} (f : α → Wanted) (l : List α),
      (l.map f).forM (Wanted.step codePrefix) = l.forM fun a => (f a).step codePrefix := by
    intro α f l
    simp
  rw [wanted, outcome_forM_append_ok_iff, hmap, hmap]
  rfl

/-- A check handles all expectations before it looks at its mode. -/
theorem checkAnnotations_eq (c : Case) :
    c.checkAnnotations = c.matchAll >>= fun level =>
      Matching.liftFailure c.mode >>= fun mode => c.close level mode := by
  simp only [checkAnnotations, matchAll, close, bind_assoc]

theorem outcome_close (c : Case) (level : Level) (mode : Spanned Mode) (s : Matching) :
    outcome (c.close level mode) s =
      (.ok (), { s with errors := s.errors ++ c.closing level mode s }) := by
  by_cases hy : mode.content = .yolo
  · simp [close, hy, Matching.outcome_forM_report, closing]
  · simp [close, outcome_bind, hy, Matching.outcome_forM_report, closing]

theorem matchAll_ok_iff {level : Level} {s t : Matching} :
    outcome c.matchAll s = (.ok level, t) ↔
      ∃ codePrefix, c.codePrefix = .ok codePrefix ∧ c.requiredLevel = .ok level ∧
        outcome (c.wanted.forM (Wanted.step codePrefix)) s = (.ok (), t) := by
  simp only [matchAll, outcome_bind_ok_iff, Matching.outcome_liftFailure_ok_iff]
  constructor
  · rintro ⟨_, u, hu, codePrefix, _, ⟨hp, rfl⟩, _, _, ht, hl, rfl⟩
    exact ⟨codePrefix, hp, hl, outcome_wanted_ok_iff.2 ⟨_, hu, ht⟩⟩
  · rintro ⟨codePrefix, hp, hl, hrun⟩
    obtain ⟨u, hu, ht⟩ := outcome_wanted_ok_iff.1 hrun
    exact ⟨(), u, hu, codePrefix, u, ⟨hp, rfl⟩, (), t, ht, hl, rfl⟩

/-- **What a check consists of.** It completes iff the settings have no conflict and all steps
complete, and then the reports at the end follow. -/
theorem checkAnnotations_ok_iff {s t : Matching} :
    outcome c.checkAnnotations s = (.ok (), t) ↔
      ∃ codePrefix level mode u, c.codePrefix = .ok codePrefix ∧ c.requiredLevel = .ok level ∧
        c.mode = .ok mode ∧ outcome (c.wanted.forM (Wanted.step codePrefix)) s = (.ok (), u) ∧
        t = { u with errors := u.errors ++ c.closing level mode u } := by
  simp only [checkAnnotations_eq, outcome_bind_ok_iff, Matching.outcome_liftFailure_ok_iff,
    matchAll_ok_iff, outcome_close]
  constructor
  · rintro ⟨level, _, ⟨codePrefix, hp, hl, hrun⟩, mode, u, ⟨hm, rfl⟩, ht⟩
    exact ⟨codePrefix, level, mode, u, hp, hl, hm, hrun, (Prod.mk.inj ht).2.symm⟩
  · rintro ⟨codePrefix, level, mode, u, hp, hl, hm, hrun, rfl⟩
    exact ⟨level, u, ⟨codePrefix, hp, hl, hrun⟩, mode, u, ⟨hm, rfl⟩, rfl⟩

/-- **Matching is valid, injective and maximal.** A check that completes has assigned to each
satisfied expectation a message of its own that it accepts. The other messages are left in order,
the other expectations are reported in order, and none of the latter accepts any of the former. -/
theorem checkAnnotations_matching {start final : Matching}
    (h : outcome c.checkAnnotations start = (.ok (), final)) :
    ∃ codePrefix spots rest, c.codePrefix = .ok codePrefix ∧
      Matching.Assigned codePrefix start c.wanted spots final ∧
      final.errors = start.errors ++
        (Matching.missing c.wanted spots).map (Wanted.notFound codePrefix) ++ rest ∧
      ∀ d ∈ rest, d.isNotFound = false := by
  obtain ⟨codePrefix, level, mode, u, hp, -, -, hrun, rfl⟩ := checkAnnotations_ok_iff.1 h
  obtain ⟨spots, hassigned, herrors⟩ := Matching.Assigned.of_run hrun
  exact ⟨codePrefix, spots, c.closing level mode u, hp, hassigned.withErrors _, by rw [herrors],
    c.closing_not_isNotFound level mode u⟩

/-! ## A check in which expectations compete -/

/-- A test that expects one message elsewhere, and on line 2 the same error twice and a code. -/
def rivals : Case where
  config := default
  revision := ""
  directives := { sets := [
    { otherFiles := [⟨{ text := "in aux" }, {}⟩]
      errorMatches := [
        ⟨.pattern ⟨{ text := "mismatched" }, {}⟩ .error, .int 2⟩,
        ⟨.pattern ⟨{ text := "mismatched" }, {}⟩ .error, .int 2⟩,
        ⟨.code ⟨"0308", {}⟩, .int 2⟩]
      codePrefix := some ⟨"E", {}⟩ }] }
  path := ⟨.relative, ["ui", "rivals.rs"]⟩
  auxDir := ⟨.relative, ["ui", "auxiliary"]⟩

/-- Messages among which there is only one error on line 2. -/
def rivalMessages : Diagnostics :=
  [(some 2, ⟨.help, "mismatched braces", none⟩),
    (some 2, ⟨.error, "mismatched types", some "E0308"⟩),
    (none, ⟨.error, "linking failed", none⟩), (none, ⟨.note, "defined in aux", none⟩),
    (some 4, ⟨.error, "unused value", none⟩)].foldl
    (fun (d : Diagnostics) (line, m) => d.push line m) {}

/-- What is left of the messages, and what is reported. -/
def rivalOutcome : Matching where
  lines := [[], [], [⟨.help, "mismatched braces", none⟩], [], [⟨.error, "unused value", none⟩]]
  unknown := [⟨.error, "linking failed", none⟩]
  errors := [
    .patternNotFound ⟨{ text := "mismatched" }, {}⟩ (some (.int 2)),
    .codeNotFound ⟨"E0308", {}⟩ (some (.int 2)),
    .unexpectedMessages [⟨.error, "linking failed", none⟩] none,
    .unexpectedMessages [⟨.error, "unused value", none⟩]
      (some ⟨rivals.path, ⟨some rivals.path, some (.int 4)⟩⟩)]

theorem rivals_matching :
    outcome rivals.checkAnnotations (.ofDiagnostics rivalMessages) = (.ok (), rivalOutcome) ∧
      ∃ codePrefix spots rest, rivals.codePrefix = .ok codePrefix ∧
        Matching.Assigned codePrefix (.ofDiagnostics rivalMessages) rivals.wanted spots
          rivalOutcome ∧
        rivalOutcome.errors = [] ++
          (Matching.missing rivals.wanted spots).map (Wanted.notFound codePrefix) ++ rest ∧
        ∀ d ∈ rest, d.isNotFound = false :=
  ⟨rfl, checkAnnotations_matching rfl⟩

end Case

end CompilerTest

import CompilerTest.Case.Run
import CompilerTest.Directives.Loader
import CompilerTest.Proofs.Baselines.Distinct
import CompilerTest.Proofs.Outcome
import Mathlib.Data.List.Basic
import Mathlib.Data.List.Flatten

/-!
# The directives that a compiled program is checked under

The output of a compiled program is checked under a case of its own, whose revision is named for the
run so that its expected output has files of its own. The name also decides which sets of directives
apply: those for all revisions, and those that name the run. What the sets of the revision itself
say about the output, its rules and the width of pointers, does not apply to the compiled program,
unless the same sets name the run as well.

Main statement: which sets the check of a compiled program reads, and when its rules and the names
of its expected output are those of the revision (`run_scope`).
-/

namespace CompilerTest

/-! ## Lists that are filtered -/

section Filter

variable {α β : Type} {p q : α → Bool}

theorem filter_eq_filter_iff {l : List α} : l.filter p = l.filter q ↔ ∀ a ∈ l, p a = q a := by
  refine ⟨fun h a ha => ?_, fun h => List.filter_congr h⟩
  have hmem : a ∈ l.filter p ↔ a ∈ l.filter q := by rw [h]
  rw [List.mem_filter, List.mem_filter] at hmem
  exact Bool.eq_iff_iff.2 ⟨fun hp => (hmem.1 ⟨ha, hp⟩).2, fun hq => (hmem.2 ⟨ha, hq⟩).2⟩

/-- Taking more items adds nothing iff the additional items hold nothing. -/
theorem flatMap_filter_eq_iff (hpq : ∀ a, p a = true → q a = true) (f : α → List β) (l : List α) :
    (l.filter p).flatMap f = (l.filter q).flatMap f ↔
      ∀ a ∈ l, q a = true → p a = false → f a = [] := by
  induction l with
  | nil => simp
  | cons a l ih =>
    rw [List.forall_mem_cons, ← ih]
    cases hp : p a with
    | true =>
      have hq : q a = true := hpq a hp
      simp [hp, hq]
    | false =>
      cases hq : q a with
      | false => simp [hp, hq]
      | true =>
        have hsub : ((l.filter p).flatMap f).Sublist ((l.filter q).flatMap f) :=
          (List.monotone_filter_right l hpq).flatMap f
        simp only [List.filter_cons, hp, hq, Bool.false_eq_true, if_false, if_true,
          List.flatMap_cons, forall_const]
        constructor
        · intro h
          have hlength := hsub.length_le
          rw [h, List.length_append] at hlength
          have hnil : f a = [] := List.length_eq_zero_iff.1 (by omega)
          exact ⟨hnil, by rw [h, hnil, List.nil_append]⟩
        · rintro ⟨hnil, h⟩
          rw [h, hnil, List.nil_append]

/-- Looking at more items finds nothing more iff something is found among the first anyway, or
nothing among the additional ones. -/
theorem any_filter_eq_iff (hpq : ∀ a, p a = true → q a = true) (f : α → Bool) (l : List α) :
    (l.filter p).any f = (l.filter q).any f ↔
      (∃ a ∈ l, p a = true ∧ f a = true) ∨ ∀ a ∈ l, q a = true → p a = false → f a = false := by
  have hp : (l.filter p).any f = true ↔ ∃ a ∈ l, p a = true ∧ f a = true := by
    simp [List.any_filter]
  have hq : (l.filter q).any f = true ↔ ∃ a ∈ l, q a = true ∧ f a = true := by
    simp [List.any_filter]
  rw [Bool.eq_iff_iff, hp, hq]
  constructor
  · intro h
    by_cases hfound : ∃ a ∈ l, p a = true ∧ f a = true
    · exact .inl hfound
    · refine .inr fun a ha hqa _ => ?_
      by_contra hfa
      exact hfound (h.2 ⟨a, ha, hqa, by simpa using hfa⟩)
  · rintro (hfound | hnone)
    · obtain ⟨a, ha, hpa, hfa⟩ := hfound
      exact iff_of_true ⟨a, ha, hpa, hfa⟩ ⟨a, ha, hpq a hpa, hfa⟩
    · constructor
      · rintro ⟨a, ha, hpa, hfa⟩
        exact ⟨a, ha, hpq a hpa, hfa⟩
      · rintro ⟨a, ha, hqa, hfa⟩
        refine ⟨a, ha, ?_, hfa⟩
        by_contra hpa
        rw [hnone a ha hqa (by simpa using hpa)] at hfa
        cases hfa

end Filter

namespace DirectiveSet

/-- The rules of a set for an output. -/
def rules (s : DirectiveSet) : Stream → List Normalization
  | .stdout => s.normalizeStdout
  | .stderr => s.normalizeStderr

theorem appliesTo_iff {s : DirectiveSet} {revision : String} :
    s.appliesTo revision = true ↔ s.revisions = [] ∨ revision ∈ s.revisions := by
  simp [appliesTo]

theorem appliesTo_of_unscoped {s : DirectiveSet} (h : s.revisions.isEmpty = true)
    (revision : String) : s.appliesTo revision = true := by
  simp [appliesTo, h]

/-- A set for some revisions applies to a revision iff it names it. -/
theorem scoped_imp_iff {s : DirectiveSet} {revision : String} {Q : Prop} :
    (s.appliesTo revision = true → s.revisions.isEmpty = false → Q) ↔
      (revision ∈ s.revisions → Q) := by
  constructor
  · intro h hs
    exact h (appliesTo_iff.2 (.inr hs)) (by simpa using List.ne_nil_of_mem hs)
  · intro h happlies hne
    rcases appliesTo_iff.1 happlies with hnil | hs
    · simp [hnil] at hne
    · exact h hs

end DirectiveSet

namespace Case

variable {c c' : Case}

theorem rules_eq_flatMap (c : Case) (stream : Stream) :
    c.rules stream = c.sets.flatMap (·.rules stream) := by
  cases stream <;> rfl

/-! ## What the check of a compiled program reads -/

/-- The revision that the compiled program is checked under. -/
theorem revision_runCase (c : Case) : c.runCase.revision = dotted c.revision "run" :=
  extension_eq_dotted c (by decide)

theorem sets_runCase (c : Case) :
    c.runCase.sets = c.directives.sets.filter (·.appliesTo (dotted c.revision "run")) := by
  rw [← revision_runCase]
  rfl

/-- Whether two cases are the same but for their sets of directives. -/
structure SameButSets (c c' : Case) : Prop where
  config_eq : c'.config = c.config
  revision_eq : c'.revision = c.revision
  path_eq : c'.path = c.path

theorem normalize_congr (h : c'.sets = c.sets) (text : Bytes) (kind : String) :
    c'.normalize text kind = c.normalize text kind := by
  simp only [normalize, rules_eq_flatMap, h]

theorem perBitwidth_congr (h : c'.sets = c.sets) : c'.perBitwidth = c.perBitwidth := by
  simp only [perBitwidth, h]

theorem SameButSets.checkOutput_eq (hsame : SameButSets c c') (hsets : c'.sets = c.sets)
    (output : Bytes) (kind : String) : c'.checkOutput output kind = c.checkOutput output kind := by
  have hpath : c'.outputPath kind = c.outputPath kind := by
    simp only [outputPath, extension, perBitwidth_congr hsets, hsame.config_eq, hsame.revision_eq,
      hsame.path_eq]
  simp only [checkOutput, normalize_congr hsets, hpath, hsame.config_eq]

theorem SameButSets.runExecutable_eq (host : Host) (exitCode : Int) (hsame : SameButSets c c')
    (hsets : c'.runCase.sets = c.runCase.sets) :
    runExecutable host c' exitCode = runExecutable host c exitCode := by
  have hrun : SameButSets c.runCase c'.runCase := {
    config_eq := hsame.config_eq
    revision_eq := by rw [revision_runCase, revision_runCase, hsame.revision_eq]
    path_eq := hsame.path_eq }
  have hinput (command : Command) : c'.runCase.withInput command = c.runCase.withInput command := by
    simp only [withInput, stdinPath, extension, hrun.revision_eq, hrun.path_eq]
  have hexecutable : c'.executable = c.executable := by
    simp only [executable, hsame.config_eq, hsame.path_eq]
  simp only [runExecutable, checkTestOutput, hrun.checkOutput_eq hsets, hinput, hexecutable]

/-! ## The revision and its run -/

/-- How the directives of a revision and those that its compiled program is checked under are
related. -/
structure RunScope (host : Host) (c : Case) : Prop where
  /-- The compiled program is checked as if there were only the sets for all revisions and those
  that name the run. -/
  runExecutable_eq (exitCode : Int) :
    runExecutable host c exitCode =
      runExecutable host
        { c with directives := { c.directives with
            sets := c.directives.sets.filter (·.appliesTo (dotted c.revision "run")) } }
        exitCode
  /-- These are the sets of the revision iff no set names one of both only. -/
  sets_eq_iff : c.runCase.sets = c.sets ↔
    ∀ s ∈ c.directives.sets, c.revision ∈ s.revisions ↔ dotted c.revision "run" ∈ s.revisions
  /-- If they are, the output of the program is normalized like that of the compiler, and both are
  expected in files with the width of pointers or without. -/
  alike : c.runCase.sets = c.sets →
    (∀ text kind, c.runCase.normalize text kind = c.normalize text kind) ∧
      c.runCase.perBitwidth = c.perBitwidth
  /-- If no set names the run, the rules are those of the revision iff the sets that name the
  revision have none. -/
  rules_eq_iff : (∀ s ∈ c.directives.sets, dotted c.revision "run" ∉ s.revisions) →
    ∀ stream, c.runCase.rules stream = c.rules stream ↔
      ∀ s ∈ c.directives.sets, c.revision ∈ s.revisions → s.rules stream = []
  /-- If no set names the run, the width of pointers counts alike iff a set for all revisions asks
  for it, or none that names the revision does. -/
  perBitwidth_eq_iff : (∀ s ∈ c.directives.sets, dotted c.revision "run" ∉ s.revisions) →
    (c.runCase.perBitwidth = c.perBitwidth ↔
      (∃ s ∈ c.directives.sets, s.revisions = [] ∧ s.perBitwidth = true) ∨
        ∀ s ∈ c.directives.sets, c.revision ∈ s.revisions → s.perBitwidth = false)

/-- If no set names the run, the compiled program is checked under the sets for all revisions. -/
theorem sets_runCase_of_unnamed
    (h : ∀ s ∈ c.directives.sets, dotted c.revision "run" ∉ s.revisions) :
    c.runCase.sets = c.directives.sets.filter (·.revisions.isEmpty) := by
  rw [sets_runCase]
  refine List.filter_congr fun s hs => ?_
  have hnot := h s hs
  simp [DirectiveSet.appliesTo, hnot]

/-- **The directives of a compiled program.** -/
theorem run_scope (host : Host) (c : Case) : RunScope host c := by
  have hsets : c.sets = c.directives.sets.filter (·.appliesTo c.revision) := rfl
  constructor
  case runExecutable_eq =>
    intro exitCode
    refine SameButSets.runExecutable_eq host exitCode (SameButSets.mk rfl rfl rfl) ?_
    rw [sets_runCase, sets_runCase, List.filter_filter]
    simp only [Bool.and_self]
  case sets_eq_iff =>
    rw [sets_runCase, hsets, filter_eq_filter_iff]
    refine forall₂_congr fun s _ => ?_
    rw [Bool.eq_iff_iff, DirectiveSet.appliesTo_iff, DirectiveSet.appliesTo_iff]
    by_cases hnil : s.revisions = []
    · simp [hnil]
    · simp only [hnil, false_or]
      exact iff_comm
  case alike => exact fun h => ⟨normalize_congr h, perBitwidth_congr h⟩
  case rules_eq_iff =>
    intro h stream
    rw [rules_eq_flatMap, rules_eq_flatMap, sets_runCase_of_unnamed h, hsets,
      flatMap_filter_eq_iff fun s hs => DirectiveSet.appliesTo_of_unscoped hs c.revision]
    exact forall₂_congr fun s _ => DirectiveSet.scoped_imp_iff
  case perBitwidth_eq_iff =>
    intro h
    rw [perBitwidth, perBitwidth, sets_runCase_of_unnamed h, hsets,
      any_filter_eq_iff fun s hs => DirectiveSet.appliesTo_of_unscoped hs c.revision]
    refine or_congr ?_ (forall₂_congr fun s _ => DirectiveSet.scoped_imp_iff)
    simp only [List.isEmpty_iff]

/-! ## Directives for one revision -/

/-- A document with directives for the output of one revision. -/
def numberedDocument : Json :=
  .object [("revisions", .array [.text "a"]),
    ("directives", .array [.object [("revisions", .array [.text "a"]),
      ("normalize_stdout", .array [
        .object [("pattern", .text "[0-9]+"), ("replacement", .text "N")]]),
      ("stderr_per_bitwidth", .bool true)]])]

/-- A test of which the directives are known. -/
def testOf (directives : Directives) (revision : String) : Case where
  config := default
  revision := revision
  directives := directives
  path := ⟨.relative, ["ui", "t.rs"]⟩
  auxDir := ⟨.relative, ["ui", "auxiliary"]⟩

theorem numbered_not_normalized :
    ∃ d, Directives.ofJson ⟨.relative, ["ui", "t.rs"]⟩ numberedDocument = .ok d ∧
      (testOf d "a").normalize (Bytes.ofText "pid 123") "stdout" = .ok (Bytes.ofText "pid N") ∧
      (testOf d "a").runCase.normalize (Bytes.ofText "pid 123") "stdout" =
        .ok (Bytes.ofText "pid 123") ∧
      (testOf d "a").perBitwidth = true ∧ (testOf d "a").runCase.perBitwidth = false := by
  have h : (Directives.ofJson ⟨.relative, ["ui", "t.rs"]⟩ numberedDocument).toOption.map (fun d =>
      (((testOf d "a").normalize (Bytes.ofText "pid 123") "stdout").toOption,
        ((testOf d "a").runCase.normalize (Bytes.ofText "pid 123") "stdout").toOption,
        (testOf d "a").perBitwidth, (testOf d "a").runCase.perBitwidth)) =
      some (some (Bytes.ofText "pid N"), some (Bytes.ofText "pid 123"), true, false) := by
    decide +kernel
  obtain ⟨d, hd, hall⟩ := Option.map_eq_some_iff.1 h
  simp only [Prod.mk.injEq] at hall
  obtain ⟨hcompiler, hprogram, hwide, hnarrow⟩ := hall
  exact ⟨d, eq_ok_of_toOption hd, eq_ok_of_toOption hcompiler, eq_ok_of_toOption hprogram, hwide,
    hnarrow⟩

end Case

end CompilerTest

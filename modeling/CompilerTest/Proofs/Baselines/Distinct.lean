import CompilerTest.Config.Loader
import CompilerTest.Directives.Loader
import CompilerTest.Proofs.Baselines.Beside

/-!
# Which comparisons share an expected output

The outputs of a test are compared with the expected ones under each of its revisions, once when it
has been compiled and once more when a flag has run the compiled program. The file of an expected
output is named for all of this: for the width of pointers, if the directives ask for it, for the
revision, for the run, and for the output. The parts of the name have dots between them, and the
name of a revision may itself hold dots, so that two comparisons can come to one name.

Main statement: two comparisons share an expected output iff they are for the same output and one of
them is titled like the run of the other's revision, or like the other one with the width in front
(`baseline_eq_iff`).
-/

namespace CompilerTest

/-! ## Names with dots -/

/-- Two parts of a name with a dot between them; an empty part is left out. -/
def dotted (first second : String) : String :=
  if first = "" then second else if second = "" then first else first ++ "." ++ second

section Dotted

variable {first second other last last' : String}

@[simp] theorem dotted_empty_left : dotted "" second = second := if_pos rfl

@[simp] theorem dotted_empty_right : dotted first "" = first := by
  unfold dotted
  split_ifs with h
  · exact h.symm
  · rfl
  · contradiction

theorem dotted_of_ne (hfirst : first ≠ "") (hsecond : second ≠ "") :
    dotted first second = first ++ "." ++ second := by
  rw [dotted, if_neg hfirst, if_neg hsecond]

theorem dotted_ne_empty (hfirst : first ≠ "") : dotted first second ≠ "" := by
  by_cases hsecond : second = ""
  · rwa [hsecond, dotted_empty_right]
  · rw [dotted_of_ne hfirst hsecond]
    simp [String.append_eq_empty_iff, hfirst]

theorem dotted_assoc : dotted (dotted first second) last = dotted first (dotted second last) := by
  by_cases hfirst : first = ""
  · rw [hfirst, dotted_empty_left, dotted_empty_left]
  by_cases hsecond : second = ""
  · rw [hsecond, dotted_empty_left, dotted_empty_right]
  by_cases hlast : last = ""
  · rw [hlast, dotted_empty_right, dotted_empty_right]
  rw [dotted_of_ne (dotted_ne_empty hfirst) hlast, dotted_of_ne hfirst (dotted_ne_empty hsecond),
    dotted_of_ne hfirst hsecond, dotted_of_ne hsecond hlast]
  simp only [String.append_assoc]

/-- A last part comes after a dot, unless it is the whole name. -/
theorem dotted_eq_append (hlast : last ≠ "") :
    dotted first last = (if first = "" then "" else first ++ ".") ++ last := by
  by_cases hfirst : first = ""
  · simp [hfirst]
  · rw [dotted_of_ne hfirst hlast, if_neg hfirst]

/-- Names with last parts of one length are the same iff their parts are. -/
theorem dotted_eq_dotted_iff (hlast : last ≠ "")
    (hlength : last.toList.length = last'.toList.length) :
    dotted first last = dotted other last' ↔ first = other ∧ last = last' := by
  have hlast' : last' ≠ "" := by
    rintro rfl
    exact hlast (String.toList_eq_nil_iff.1 (List.length_eq_zero_iff.1 hlength))
  have hdot {part : String} : part ++ "." ≠ "" := by simp [String.append_eq_empty_iff]
  rw [dotted_eq_append hlast, dotted_eq_append hlast']
  constructor
  · intro h
    have hlist := congrArg String.toList h
    rw [String.toList_append, String.toList_append] at hlist
    obtain ⟨hstart, hend⟩ := List.append_inj' hlist hlength
    refine ⟨?_, String.toList_inj.1 hend⟩
    have hstart := String.toList_inj.1 hstart
    split_ifs at hstart with hfirst hother hother
    · rw [hfirst, hother]
    · exact absurd hstart.symm hdot
    · exact absurd hstart hdot
    · exact (String.append_left_inj ".").1 hstart
  · rintro ⟨rfl, rfl⟩
    rfl

/-- The rest of a name is known from the name and from what comes first in it. -/
theorem dotted_right_inj : dotted first second = dotted first other ↔ second = other := by
  by_cases hfirst : first = ""
  · simp [hfirst]
  · have hlong {rest : String} : first ++ "." ++ rest ≠ first := by
      simp [String.append_assoc, String.append_eq_left_iff, String.append_eq_empty_iff]
    unfold dotted
    rw [if_neg hfirst, if_neg hfirst]
    split_ifs with hsecond hother hother
    · simp [hsecond, hother]
    · exact iff_of_false hlong.symm (by rw [hsecond]; exact Ne.symm hother)
    · exact iff_of_false hlong (by rw [hother]; exact hsecond)
    · exact String.append_right_inj _

end Dotted

namespace Path

variable {p q q' : Path} {suffix suffix' : String}

/-- Two files beside one another are the same iff their suffixes are. -/
theorem withSuffix_inj (h : p.withSuffix suffix = .ok q) (h' : p.withSuffix suffix' = .ok q') :
    q = q' ↔ suffix = suffix' := by
  unfold withSuffix at h h'
  split_ifs at h
  split_ifs at h'
  cases h
  cases h'
  simp

end Path

namespace Case

/-! ## The names of expected outputs -/

/-- What the width of pointers adds to the names of expected outputs. -/
def widthName (config : Config) : String := config.width.display ++ "bit"

theorem widthName_ne_empty (config : Config) : widthName config ≠ "" := by
  simp [widthName, String.append_eq_empty_iff]

/-- What the name of an expected output holds between the names of the test and of the output. -/
def outputTag (c : Case) : String :=
  dotted (if c.perBitwidth then widthName c.config else "") c.revision

theorem extension_eq_dotted (c : Case) {kind : String} (hkind : kind ≠ "") :
    c.extension kind = dotted c.revision kind := by
  by_cases h : c.revision = ""
  · rw [extension, if_pos h, h, dotted_empty_left]
  · rw [extension, if_neg h, dotted_of_ne h hkind]

theorem outputPath_eq (c : Case) {kind : String} (hkind : kind ≠ "") :
    c.outputPath kind = c.path.withSuffix ("." ++ dotted c.outputTag kind) := by
  have hrest : dotted c.revision kind ≠ "" := by
    rw [dotted_eq_append hkind]
    simp [String.append_eq_empty_iff, hkind]
  rw [outputPath, outputTag, dotted_assoc, extension_eq_dotted c hkind]
  split_ifs with hwidth
  · rw [dotted_of_ne (widthName_ne_empty _) hrest, widthName]
    congr 1
    simp only [String.append_assoc]
    rfl
  · rw [dotted_empty_left]

/-! ## Comparisons -/

/-- When the outputs of a test are compared with the expected ones. -/
inductive Phase where
  /-- Once the test has been compiled. -/
  | compilation
  /-- Once the compiled program has been run. -/
  | execution
  deriving DecidableEq, Repr

/-- A comparison of an output of a test with the expected one. -/
structure Comparison where
  /-- The revision of the test. -/
  revision : String
  /-- When it takes place. -/
  phase : Phase
  /-- The output. -/
  stream : Stream
  deriving DecidableEq, Repr

namespace Comparison

/-- The case whose expected output is looked up; the run has one of its own. -/
def subject (k : Comparison) (c : Case) : Case :=
  let revised := c.withRevision k.revision
  match k.phase with
  | .compilation => revised
  | .execution => revised.withRevision (revised.extension "run")

/-- The file of the expected output. -/
def baseline (k : Comparison) (c : Case) : Except Path.SuffixError Path :=
  (k.subject c).outputPath k.stream.name

/-- What a comparison is called in the name of its expected output. -/
def title (k : Comparison) : String :=
  match k.phase with
  | .compilation => k.revision
  | .execution => dotted k.revision "run"

/-- The expected output of a compilation is named like that of a run: the revision of the one is
called like the run of the revision of the other. -/
def NamedLikeRun (k run : Comparison) : Prop :=
  k.phase = .compilation ∧ run.phase = .execution ∧ k.revision = dotted run.revision "run"

/-- An expected output that does not depend on the width is named like one that does: the title of
the one is that of the other with the width in front. -/
def NamedLikeWidth (c : Case) (k other : Comparison) : Prop :=
  (k.subject c).perBitwidth = false ∧ (other.subject c).perBitwidth = true ∧
    k.title = dotted (widthName c.config) other.title

section Comparisons

variable {c : Case} {k l : Comparison} {p q : Path}

theorem subject_revision (k : Comparison) (c : Case) : (k.subject c).revision = k.title := by
  obtain ⟨revision, phase, stream⟩ := k
  cases phase with
  | compilation => rfl
  | execution => exact extension_eq_dotted (c.withRevision revision) (by decide)

/-- Only its revision tells the case of one comparison from that of another. -/
theorem subject_eq (k : Comparison) (c : Case) : k.subject c = c.withRevision k.title := by
  rw [← subject_revision k c]
  obtain ⟨revision, phase, stream⟩ := k
  cases phase <;> rfl

theorem stream_name_inj {s t : Stream} : s.name = t.name ↔ s = t := by
  cases s <;> cases t <;> decide

theorem baseline_eq (k : Comparison) (c : Case) :
    k.baseline c = c.path.withSuffix ("." ++ dotted (k.subject c).outputTag k.stream.name) := by
  have hpath : (k.subject c).path = c.path := by rw [subject_eq]; rfl
  rw [baseline, outputPath_eq _ (by cases k.stream <;> decide), hpath]

/-- Different comparisons of one output have one title iff the revision of one is called like the
run of the revision of the other. -/
theorem title_eq_iff (hne : k ≠ l) (hstream : k.stream = l.stream) :
    k.title = l.title ↔ NamedLikeRun k l ∨ NamedLikeRun l k := by
  obtain ⟨r, phase, s⟩ := k
  obtain ⟨r', phase', s'⟩ := l
  obtain rfl : s = s' := hstream
  have hrevision (hphase : phase = phase') : r ≠ r' := by
    rintro rfl
    exact hne (by rw [hphase])
  cases phase <;> cases phase' <;> simp only [title, NamedLikeRun]
  case compilation.compilation => simpa using hrevision rfl
  case compilation.execution => simp
  case execution.compilation => simp [eq_comm]
  case execution.execution =>
    simpa [dotted_eq_dotted_iff] using hrevision rfl

/-- What the names of two expected outputs hold before the name of the output is the same iff the
titles are, or one of them is the other with the width. -/
theorem outputTag_eq_iff :
    (k.subject c).outputTag = (l.subject c).outputTag ↔
      k.title = l.title ∨ NamedLikeWidth c k l ∨ NamedLikeWidth c l k := by
  have htag (k : Comparison) : (k.subject c).outputTag =
      dotted (if (k.subject c).perBitwidth then widthName c.config else "") k.title := by
    have hconfig : (k.subject c).config = c.config := by rw [subject_eq]; rfl
    rw [outputTag, hconfig, subject_revision]
  have hsame (h : k.title = l.title) :
      (k.subject c).perBitwidth = (l.subject c).perBitwidth := by
    rw [subject_eq, subject_eq, h]
  rw [htag, htag, NamedLikeWidth, NamedLikeWidth]
  cases hk : (k.subject c).perBitwidth <;> cases hl : (l.subject c).perBitwidth
  case false.false => simp
  case true.true => simp [dotted_right_inj]
  case false.true =>
    have htitle : k.title ≠ l.title := fun h => by simpa [hk, hl] using hsame h
    simp [htitle]
  case true.false =>
    have htitle : k.title ≠ l.title := fun h => by simpa [hk, hl] using hsame h
    simp [htitle, eq_comm]

/-- **Which comparisons share an expected output.** Of the expected outputs of two different
comparisons of a test, whatever its revisions are called, the files are the same iff they are for
the same output and the one is named like the run of the other's revision or like the other with the
width in front. -/
theorem baseline_eq_iff (hne : k ≠ l) (hk : k.baseline c = .ok p) (hl : l.baseline c = .ok q) :
    p = q ↔ k.stream = l.stream ∧ (NamedLikeRun k l ∨ NamedLikeRun l k ∨
      NamedLikeWidth c k l ∨ NamedLikeWidth c l k) := by
  rw [baseline_eq] at hk hl
  rw [Path.withSuffix_inj hk hl, String.append_right_inj, dotted_eq_dotted_iff
    (by cases k.stream <;> decide) (by cases k.stream <;> cases l.stream <;> decide),
    stream_name_inj, outputTag_eq_iff, and_comm]
  refine and_congr_right fun hstream => ?_
  rw [title_eq_iff hne hstream, or_assoc]

end Comparisons

/-! ## Comparisons that share an expected output -/

/-- A test with a revision whose expected output depends on the width of pointers, and with another
one that is named like it and does not. -/
def wideCase : Case where
  config :=
    { program := { program := "rustc" }, rootDir := ⟨.single, []⟩, outDir := ⟨.single, []⟩ }
  revision := ""
  directives :=
    { revisions := ["a", "64bit.a"], sets := [{ revisions := ["a"], perBitwidth := true }] }
  path := ⟨.relative, ["ui", "t.rs"]⟩
  auxDir := ⟨.relative, ["ui", "auxiliary"]⟩

/-- The comparison for the revision without the width. -/
def plainComparison : Comparison := ⟨"64bit.a", .compilation, .stderr⟩

/-- The comparison for the revision with the width. -/
def wideComparison : Comparison := ⟨"a", .compilation, .stderr⟩

theorem wideCase_baseline :
    ∃ p q, plainComparison.baseline wideCase = .ok p ∧ wideComparison.baseline wideCase = .ok q ∧
      p = q := by
  have hplain : plainComparison.baseline wideCase =
      .ok ⟨.relative, ["ui", "t.64bit.a.stderr"]⟩ := by decide
  have hwide : wideComparison.baseline wideCase =
      .ok ⟨.relative, ["ui", "t.64bit.a.stderr"]⟩ := by decide
  have hnamed : NamedLikeWidth wideCase plainComparison wideComparison :=
    ⟨by decide, by decide, by decide⟩
  exact ⟨_, _, hplain, hwide,
    (baseline_eq_iff (by decide) hplain hwide).2 ⟨rfl, .inr (.inr (.inl hnamed))⟩⟩

/-- A document of a configuration. -/
def plainConfig : Json := .object [("program", .object [("command", .text "rustc")])]

/-- A document of directives with a revision that is called like the run of another one. -/
def runDirectives : Json := .object [("revisions", .array [.text "a", .text "a.run"])]

/-- There are accepted documents with different comparisons that share an expected output. -/
theorem baseline_not_injective :
    ¬ ∀ (base file auxDir : Path) (v w : Json) (config : Config) (directives : Directives),
      Config.ofJson base v = .ok config → Directives.ofJson file w = .ok directives →
      ∀ (k l : Comparison) (p q : Path), k.revision ∈ directives.revisions →
        l.revision ∈ directives.revisions → k ≠ l →
        k.baseline { config, directives, revision := "", path := file, auxDir } = .ok p →
        l.baseline { config, directives, revision := "", path := file, auxDir } = .ok q →
        p ≠ q := by
  intro h
  have hconfig : Config.ofJson ⟨.single, []⟩ plainConfig =
      .ok (Config.ofShaped ⟨.single, []⟩ plainConfig) := by decide
  have hdirectives : Directives.ofJson ⟨.relative, ["ui", "t.rs"]⟩ runDirectives =
      .ok { revisions := ["a", "a.run"] } := by rfl
  exact h ⟨.single, []⟩ ⟨.relative, ["ui", "t.rs"]⟩ ⟨.relative, ["ui"]⟩ plainConfig runDirectives
    _ _ hconfig hdirectives ⟨"a.run", .compilation, .stderr⟩ ⟨"a", .execution, .stderr⟩
    ⟨.relative, ["ui", "t.a.run.stderr"]⟩ ⟨.relative, ["ui", "t.a.run.stderr"]⟩ (by decide)
    (by decide) (by decide) (by decide) (by decide) rfl

end Comparison

end Case

end CompilerTest

import CompilerTest.Failure
import CompilerTest.Proofs.Lines

/-!
# Reports about failures

A report describes everything that was wrong line by line. What was wrong with a build that a test
needs is part of the description of its failure, and so on inwards. The texts of a description come
from compilers and may hold terminators of all kinds, while the lines of a report are joined with
line feeds.

Main statement: the structure can be read off the lines of a report, since each discrepancy has a
first line of its own and those nested in it are indented by their depth (`render_readable`).
-/

namespace CompilerTest

open Text

/-- The text of so many blanks. -/
def blanks (n : Nat) : String := String.ofList (List.replicate n ' ')

theorem blanks_append (m n : Nat) : blanks m ++ blanks n = blanks (m + n) := by
  rw [blanks, blanks, blanks, ← String.ofList_append, List.replicate_append_replicate]

namespace Discrepancy

/-! ## Descriptions -/

/-- A discrepancy is nested in another one, this many failed builds deep. -/
inductive Nested : Nat → Discrepancy → Discrepancy → Prop where
  /-- It is the discrepancy itself. -/
  | here (d : Discrepancy) : Nested 0 d d
  /-- It is nested in what was wrong with a failed build. -/
  | within {depth : Nat} {path : Path} {errors : List Discrepancy} {line : Option Number}
    {e d : Discrepancy} (he : e ∈ errors) (h : Nested depth e d) :
    Nested (depth + 1) (.auxiliary path errors line) d

/-- No description is empty. -/
theorem describe_ne_empty (d : Discrepancy) : d.describe ≠ "" := by
  have hshown (s : String) : toString s = s := rfl
  rw [describe.eq_def]
  cases d with
  | outputDiffers path actual expected blessCommand =>
    refine unlines_cons_ne_empty ?_ _
    simp [String.append_eq_empty_iff]
  | unexpectedMessages messages path =>
    refine unlines_cons_ne_empty ?_ _
    simp [String.append_eq_empty_iff]
  | auxiliary path errors line =>
    refine unlines_cons_ne_empty ?_ _
    simp [String.append_eq_empty_iff]
  | _ => simp [hshown, String.append_eq_empty_iff]

theorem describeAll_eq (errors : List Discrepancy) :
    describeAll errors = errors.flatMap fun e => indented e.describe := by
  induction errors with
  | nil => rfl
  | cons e errors ih => rw [describeAll, List.flatMap_cons, ih]

/-- The lines about a failed build are those about its file and then, indented, those about
everything that was wrong with it. -/
theorem lines_describe_auxiliary (path : Path) (errors : List Discrepancy) (line : Option Number) :
    lines (auxiliary path errors line).describe =
      lines ("aux build of " ++ path.text ++ onLine line ++ " failed") ++
        errors.flatMap fun e => indented e.describe := by
  have hfirst : EndsInLine ("aux build of " ++ path.text ++ onLine line ++ " failed") :=
    endsInLine_append _ ⟨'d', by decide, by decide⟩
  have hrest : ∀ l ∈ describeAll errors, Unbroken l ∧ l ≠ "" := by
    intro l hl
    rw [describeAll_eq, List.mem_flatMap] at hl
    obtain ⟨e, -, hl⟩ := hl
    obtain ⟨own, hown, rfl⟩ := List.mem_map.1 hl
    exact ⟨unbroken_append (by simp [Unbroken, isLineEnd]) (unbroken_of_mem_lines hown),
      by simp [String.append_eq_empty_iff]⟩
  have hdescribe : (auxiliary path errors line).describe = unlines
      (("aux build of " ++ path.text ++ onLine line ++ " failed") :: describeAll errors) := rfl
  have hlines := lines_unlines_append_of_unbroken hrest []
  rw [hdescribe, lines_unlines_cons hfirst, ← describeAll_eq]
  simpa [lines, linesFrom, unlines] using hlines

/-- **A nested description is part of the outer one**, from its first line to its last, and it is
indented by two blanks for each build that it is nested in. -/
theorem lines_of_nested {depth : Nat} {outer inner : Discrepancy} (h : Nested depth outer inner) :
    ∃ before after, lines outer.describe =
        before ++ (lines inner.describe).map (blanks (2 * depth) ++ ·) ++ after ∧
      (before = [] ↔ depth = 0) := by
  induction h with
  | here d => exact ⟨[], [], by simp [blanks], by simp⟩
  | @within depth path errors line e d he _ ih =>
    obtain ⟨before, after, hlines, -⟩ := ih
    obtain ⟨earlier, later, rfl⟩ := List.append_of_mem he
    have hfirst : lines ("aux build of " ++ path.text ++ onLine line ++ " failed") ≠ [] :=
      lines_ne_nil (by simp [String.append_eq_empty_iff])
    have hindent : ("  " ++ ·) ∘ (blanks (2 * depth) ++ ·) = (blanks (2 * (depth + 1)) ++ ·) := by
      funext l
      rw [Function.comp_apply, ← String.append_assoc]
      have htwo : "  " = blanks 2 := by decide
      rw [htwo, blanks_append, Nat.mul_add, Nat.add_comm]
    refine ⟨lines ("aux build of " ++ path.text ++ onLine line ++ " failed") ++
        (earlier.flatMap fun e => indented e.describe) ++ before.map ("  " ++ ·),
      after.map ("  " ++ ·) ++ later.flatMap fun e => indented e.describe, ?_, by simp [hfirst]⟩
    rw [lines_describe_auxiliary, List.flatMap_append, List.flatMap_cons, indented, hlines,
      List.map_append, List.map_append, List.map_map, hindent]
    simp only [List.append_assoc]

end Discrepancy

namespace Failure

open Text Discrepancy

/-! ## Reports -/

/-- A line of a description with a mark in front if it is the first, or else with two blanks. -/
def marked (i : Nat) (l : String) : String := (if i = 0 then "- " else "  ") ++ l

/-- The lines of a report about discrepancies. -/
def reported (errors : List Discrepancy) : List String :=
  errors.flatMap fun e => (lines e.describe).mapIdx marked

/-- What the lines of a report tell about a failure. -/
structure Readable (f : Failure) : Prop where
  /-- A report has a section for discrepancies, and one for each output that is not empty. -/
  render_eq : f.render = unlines (["command: " ++ f.command.render] ++
    (if f.errors = [] then [] else "errors:" :: reported f.errors) ++
    (if f.stderr = [] then [] else ["full stderr:", shownOutput f.stderr]) ++
    (if f.stdout = [] then [] else ["full stdout:", shownOutput f.stdout]))
  /-- After the line of the command the report is cut into the header of the discrepancies, the
  lines about them and, unless it ends there, the header of an output. -/
  between : f.errors ≠ [] → ∃ rest after,
    f.render = "command: " ++ f.command.render ++ "\n" ++ rest ∧
      lines rest = "errors:" :: reported f.errors ++ after ∧
      ∀ l ∈ after.head?, l = "full stderr:" ∨ l = "full stdout:"
  /-- There are as many marked lines as discrepancies. -/
  count_marked : (reported f.errors).countP (·.startsWith "- ") = f.errors.length
  /-- None of the lines is taken for the header of a section. -/
  no_header : ∀ l ∈ reported f.errors, l ≠ "errors:" ∧ l ≠ "full stderr:" ∧ l ≠ "full stdout:" ∧
    l.startsWith "command: " = false
  /-- Whatever is nested in a discrepancy is described in full and in one piece, indented by two
  more blanks for each failed build that it is nested in. -/
  nested {e inner : Discrepancy} {depth : Nat} (he : e ∈ f.errors) (h : Nested depth e inner) :
    ∃ before after, reported f.errors = before ++
      (lines inner.describe).mapIdx (fun i l => marked (depth + i) (blanks (2 * depth) ++ l)) ++
      after

section Reported

variable {e : Discrepancy} {errors : List Discrepancy} {l : String}

theorem itemLines_eq (text : String) : itemLines text = (lines text).mapIdx marked := by
  unfold itemLines
  cases lines text with
  | nil => rfl
  | cons first rest =>
    rw [List.mapIdx_cons]
    exact congrArg (("- " ++ first) :: ·) (List.ext_getElem (by simp) (by simp [marked]))

theorem errorSection_eq (errors : List Discrepancy) :
    errorSection errors = if errors = [] then [] else "errors:" :: reported errors := by
  simp only [errorSection, reported, itemLines_eq, List.isEmpty_iff]

theorem outputSection_eq (header : String) (bytes : Bytes) :
    outputSection header bytes = if bytes = [] then [] else [header, shownOutput bytes] := by
  simp only [outputSection, List.isEmpty_iff]

/-- Each line is a line of a description with one of two marks in front. -/
theorem exists_of_mem_reported (h : l ∈ reported errors) :
    ∃ own, Unbroken own ∧ (l = "- " ++ own ∨ l = "  " ++ own) := by
  obtain ⟨e, -, h⟩ := List.mem_flatMap.1 h
  obtain ⟨i, hi, rfl⟩ := List.mem_mapIdx.1 h
  refine ⟨_, unbroken_of_mem_lines (List.getElem_mem hi), ?_⟩
  by_cases hzero : i = 0
  · exact .inl (by rw [marked, if_pos hzero])
  · exact .inr (by rw [marked, if_neg hzero])

theorem unbroken_of_mem_reported (h : l ∈ reported errors) : Unbroken l ∧ l ≠ "" := by
  obtain ⟨own, hown, rfl | rfl⟩ := exists_of_mem_reported h
  · exact ⟨unbroken_append (by simp [Unbroken, isLineEnd]) hown,
      by simp [String.append_eq_empty_iff]⟩
  · exact ⟨unbroken_append (by simp [Unbroken, isLineEnd]) hown,
      by simp [String.append_eq_empty_iff]⟩

/-- What begins with another character than the marks do is no line about a discrepancy. -/
theorem not_mem_reported {c : Char} {cs : List Char} (hl : l.toList = c :: cs) (hdash : c ≠ '-')
    (hblank : c ≠ ' ') : l ∉ reported errors := by
  intro h
  obtain ⟨own, -, rfl | rfl⟩ := exists_of_mem_reported h
  · simp [String.toList_append, Ne.symm hdash] at hl
  · simp [String.toList_append, Ne.symm hblank] at hl

/-- Only the first line of a description is marked. -/
theorem countP_marked (e : Discrepancy) :
    ((lines e.describe).mapIdx marked).countP (·.startsWith "- ") = 1 := by
  obtain ⟨first, rest, hlines⟩ := List.exists_cons_of_ne_nil (lines_ne_nil e.describe_ne_empty)
  have hfirst : ("- " ++ first).startsWith "- " = true := by
    simp [String.startsWith_string_iff, String.toList_append]
  have hrest : ∀ l ∈ rest.map ("  " ++ ·), ¬ l.startsWith "- " = true := by
    intro l hl
    obtain ⟨own, -, rfl⟩ := List.mem_map.1 hl
    simp [String.startsWith_string_iff, String.toList_append]
  have hitem : itemLines e.describe = ("- " ++ first) :: rest.map ("  " ++ ·) := by
    rw [itemLines, hlines]
  rw [← itemLines_eq, hitem, List.countP_cons, if_pos hfirst, List.countP_eq_zero.2 hrest]

theorem reported_nested {inner : Discrepancy} {depth : Nat} (he : e ∈ errors)
    (h : Nested depth e inner) :
    ∃ before after, reported errors = before ++
      (lines inner.describe).mapIdx (fun i l => marked (depth + i) (blanks (2 * depth) ++ l)) ++
        after := by
  obtain ⟨earlier, later, rfl⟩ := List.append_of_mem he
  obtain ⟨before, after, hlines, hbefore⟩ := lines_of_nested h
  -- a line is the first of the outer description iff it is the first of its own and not nested
  have hmark (i : Nat) (l : String) : marked (i + before.length) l = marked (depth + i) l := by
    have hzero : i + before.length = 0 ↔ depth + i = 0 := by
      have hlength : before.length = 0 ↔ depth = 0 := List.length_eq_zero_iff.trans hbefore
      omega
    simp only [marked, hzero]
  have hinner : ((lines inner.describe).map (blanks (2 * depth) ++ ·)).mapIdx
      (fun i l => marked (i + before.length) l) =
        (lines inner.describe).mapIdx fun i l => marked (depth + i) (blanks (2 * depth) ++ l) :=
    List.ext_getElem (by simp) (by simp [hmark])
  have hblock : ∃ rest, (lines e.describe).mapIdx marked = before.mapIdx marked ++
      (lines inner.describe).mapIdx (fun i l => marked (depth + i) (blanks (2 * depth) ++ l)) ++
        rest :=
    ⟨_, by rw [hlines, List.mapIdx_append, List.mapIdx_append, hinner]⟩
  obtain ⟨rest, hblock⟩ := hblock
  refine ⟨reported earlier ++ before.mapIdx marked, rest ++ reported later, ?_⟩
  rw [reported, List.flatMap_append, List.flatMap_cons, hblock]
  simp only [reported, List.append_assoc]

theorem countP_reported (errors : List Discrepancy) :
    (reported errors).countP (·.startsWith "- ") = errors.length := by
  induction errors with
  | nil => rfl
  | cons e errors ih =>
    rw [reported, List.flatMap_cons, List.countP_append, countP_marked, ← reported, ih,
      List.length_cons, Nat.add_comm]

/-- The first line of what follows the lines about discrepancies is the header of an output. -/
theorem head_lines_outputs (stderr stdout : Bytes) :
    ∀ l ∈ (lines (unlines (outputSection "full stderr:" stderr ++
      outputSection "full stdout:" stdout))).head?, l = "full stderr:" ∨ l = "full stdout:" := by
  have hheader (header : String) (hend : EndsInLine header) (hlines : lines header = [header])
      (others : List String) : (lines (unlines (header :: others))).head? = some header := by
    rw [lines_unlines_cons hend, hlines, List.singleton_append, List.head?_cons]
  have hstderr := hheader "full stderr:" ⟨':', by decide, by decide⟩ (by decide)
  have hstdout := hheader "full stdout:" ⟨':', by decide, by decide⟩ (by decide)
  rw [outputSection_eq, outputSection_eq]
  split_ifs with herr hout hout
  · simp [unlines, lines, linesFrom]
  · simp [hstdout]
  · simp [hstderr]
  · simp [hstderr]

end Reported

/-- **The structure of a failure can be read off its report**, whatever its texts hold. -/
theorem render_readable (f : Failure) : f.Readable where
  render_eq := by
    rw [render, errorSection_eq, outputSection_eq, outputSection_eq]
  between hne := by
    refine ⟨unlines ("errors:" :: reported f.errors ++ (outputSection "full stderr:" f.stderr ++
      outputSection "full stdout:" f.stdout)), _, ?_, ?_, head_lines_outputs f.stderr f.stdout⟩
    · rw [render, errorSection_eq, if_neg hne, List.append_assoc, List.append_assoc,
        List.singleton_append, unlines_cons _ (by simp)]
    · have hlines : ∀ l ∈ "errors:" :: reported f.errors, Unbroken l ∧ l ≠ "" :=
        List.forall_mem_cons.2 ⟨⟨by simp [Unbroken, isLineEnd], by decide⟩,
          fun _ => unbroken_of_mem_reported⟩
      rw [lines_unlines_append_of_unbroken hlines]
  count_marked := countP_reported f.errors
  no_header l hl := by
    have hother {c : Char} {cs : List Char} (hdash : c ≠ '-') (hblank : c ≠ ' ') :
        l.toList ≠ c :: cs := fun h => not_mem_reported h hdash hblank hl
    refine ⟨?_, ?_, ?_, ?_⟩
    · rintro rfl
      exact hother (by decide) (by decide) rfl
    · rintro rfl
      exact hother (by decide) (by decide) rfl
    · rintro rfl
      exact hother (by decide) (by decide) rfl
    · rw [← Bool.not_eq_true, String.startsWith_string_iff]
      rintro ⟨rest, hrest⟩
      exact hother (by decide) (by decide) hrest.symm
  nested := reported_nested

/-! ### A failed build of a failed build -/

/-- A test that needs a build, which needs a build in turn, whose failure is described in two
lines. -/
def nestedFailure : Failure where
  command := { program := "cc" }
  errors := [
    .auxiliary ⟨.relative, ["a.rs"]⟩ [
      .auxiliary ⟨.relative, ["b.rs"]⟩ [.commandFailed "one\u2028two" 1] none] none,
    .commandFailed "cc" 1]

theorem nestedFailure_readable :
    nestedFailure.Readable ∧
      reported nestedFailure.errors = [
        "- aux build of a.rs failed",
        "    aux build of b.rs failed",
        "      one",
        "      two failed with exit status 1",
        "- cc failed with exit status 1"] :=
  ⟨render_readable nestedFailure, by decide +kernel⟩

end Failure

end CompilerTest

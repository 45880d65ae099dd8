import CompilerTest.Text.Lines
import Mathlib.Tactic.Common

/-!
# Lines of texts

A text is cut into lines at many terminators, but lines are joined with one of them. What is joined
is read back line by line if none of it ends with a terminator (`lines_unlines_append`), and a line
holds no terminator, so it stays one line wherever it is put (`unbroken_of_mem_lines`).
-/

namespace CompilerTest.Text

/-- Whether nothing in a text ends a line. -/
def Unbroken (text : String) : Prop := ∀ c ∈ text.toList, isLineEnd c = false

/-- Whether a text ends within a line: it is not empty, and no terminator ends it. -/
def EndsInLine (text : String) : Prop :=
  ∃ c, text.toList.getLast? = some c ∧ isLineEnd c = false

section Cutting

variable {c : Char} {line cs rest : List Char}

/-- A character that does not begin the terminator of two characters. -/
theorem linesFrom_cons (line : List Char) (h : c = '\r' → rest.head? ≠ some '\n') :
    linesFrom line (c :: rest) =
      if isLineEnd c then line.reverse :: linesFrom [] rest else linesFrom (c :: line) rest := by
  rw [linesFrom]
  rintro rest' rfl rfl
  exact h rfl rfl

/-- A line feed after characters that end within a line is the end of that line. -/
theorem linesFrom_append_lineFeed (hne : line ≠ [] ∨ cs ≠ [])
    (hlast : ∀ c ∈ cs.getLast?, isLineEnd c = false) (rest : List Char) :
    linesFrom line (cs ++ '\n' :: rest) = linesFrom line cs ++ linesFrom [] rest := by
  have hfeed : isLineEnd '\n' = true := by decide
  fun_induction linesFrom line cs with
  | case1 line hempty => simp [List.isEmpty_iff.1 hempty] at hne
  | case2 line _ =>
    rw [List.nil_append, linesFrom_cons line fun h => absurd h (by decide), if_pos hfeed,
      List.singleton_append]
  | case3 line cs ih =>
    cases cs with
    | nil => exact absurd (hlast '\n' rfl) (by decide)
    | cons d cs =>
      rw [List.cons_append, List.cons_append, linesFrom, List.cons_append]
      exact congrArg (line.reverse :: ·)
        (ih (.inr (by simp)) (by simpa [List.getLast?_cons_cons] using hlast))
  | case4 line c cs hcrlf hend ih =>
    cases cs with
    | nil => exact absurd hend (by simp [hlast c rfl])
    | cons d cs =>
      rw [List.cons_append, linesFrom_cons line fun hc hd => ?_, if_pos hend, List.cons_append]
      · exact congrArg (line.reverse :: ·)
          (ih (.inr (by simp)) (by simpa [List.getLast?_cons_cons] using hlast))
      · obtain rfl : d = '\n' := by simpa using hd
        exact hcrlf cs hc rfl
  | case5 line c cs hcrlf hend ih =>
    rw [List.cons_append, linesFrom_cons line fun hc hd => ?_, if_neg hend]
    · refine ih (.inl (by simp)) ?_
      cases cs with
      | nil => simp
      | cons d cs => simpa [List.getLast?_cons_cons] using hlast
    · cases cs with
      | nil => exact hend (by rw [hc]; decide)
      | cons d cs =>
        obtain rfl : d = '\n' := by simpa using hd
        exact hcrlf cs hc rfl

theorem not_isLineEnd_of_mem_linesFrom (hline : ∀ c ∈ line, isLineEnd c = false) {l : List Char}
    (h : l ∈ linesFrom line cs) : ∀ c ∈ l, isLineEnd c = false := by
  fun_induction linesFrom line cs with
  | case1 line _ => simp at h
  | case2 line _ =>
    obtain rfl := List.mem_singleton.1 h
    simpa using hline
  | case3 line cs ih =>
    rcases List.mem_cons.1 h with rfl | h
    · simpa using hline
    · exact ih (by simp) h
  | case4 line c cs _ _ ih =>
    rcases List.mem_cons.1 h with rfl | h
    · simpa using hline
    · exact ih (by simp) h
  | case5 line c cs _ hend ih =>
    exact ih (List.forall_mem_cons.2 ⟨by simpa using hend, hline⟩) h

theorem linesFrom_of_unbroken (hne : line ≠ [] ∨ cs ≠ []) (h : ∀ c ∈ cs, isLineEnd c = false) :
    linesFrom line cs = [line.reverse ++ cs] := by
  induction cs generalizing line with
  | nil => simpa [linesFrom] using hne
  | cons c cs ih =>
    obtain ⟨hc, hcs⟩ := List.forall_mem_cons.1 h
    have hreturn : c ≠ '\r' := by
      rintro rfl
      exact absurd hc (by decide)
    rw [linesFrom_cons line fun h => absurd h hreturn, hc, if_neg (by simp),
      ih (.inl (by simp)) hcs]
    simp

theorem linesFrom_ne_nil (hne : line ≠ [] ∨ cs ≠ []) : linesFrom line cs ≠ [] := by
  fun_induction linesFrom line cs with
  | case1 line hempty => simp [List.isEmpty_iff.1 hempty] at hne
  | case2 line _ => simp
  | case3 line cs ih => simp
  | case4 line c cs _ _ ih => simp
  | case5 line c cs _ _ ih => exact ih (.inl (by simp))

end Cutting

section Lines

variable {text l : String} {texts : List String}

/-- Lines hold no terminators. -/
theorem unbroken_of_mem_lines (h : l ∈ lines text) : Unbroken l := by
  obtain ⟨cs, hcs, rfl⟩ := List.mem_map.1 h
  rw [Unbroken, String.toList_ofList]
  exact not_isLineEnd_of_mem_linesFrom (by simp) hcs

/-- A text without terminators is a line. -/
theorem lines_of_unbroken (h : Unbroken text) (hne : text ≠ "") : lines text = [text] := by
  have hcs : text.toList ≠ [] := fun hnil => hne (String.toList_eq_nil_iff.1 hnil)
  rw [lines, linesFrom_of_unbroken (.inr hcs) h]
  simp

theorem lines_ne_nil (hne : text ≠ "") : lines text ≠ [] := by
  have hcs : text.toList ≠ [] := fun hnil => hne (String.toList_eq_nil_iff.1 hnil)
  simpa [lines] using linesFrom_ne_nil (.inr hcs)

theorem unbroken_append {first last : String} (hfirst : Unbroken first) (hlast : Unbroken last) :
    Unbroken (first ++ last) := by
  intro c hc
  rw [String.toList_append, List.mem_append] at hc
  exact hc.elim (hfirst c) (hlast c)

theorem endsInLine_append (first : String) {last : String} (h : EndsInLine last) :
    EndsInLine (first ++ last) := by
  obtain ⟨c, hlast, hc⟩ := h
  exact ⟨c, by simp [hlast], hc⟩

theorem endsInLine_of_unbroken (h : Unbroken text) (hne : text ≠ "") : EndsInLine text := by
  have hcs : text.toList ≠ [] := fun hnil => hne (String.toList_eq_nil_iff.1 hnil)
  exact ⟨_, List.getLast?_eq_some_getLast hcs, h _ (List.getLast_mem hcs)⟩

theorem unlines_cons (first : String) (hne : texts ≠ []) :
    unlines (first :: texts) = first ++ "\n" ++ unlines texts :=
  String.intercalate_cons_of_ne_nil hne

theorem unlines_cons_ne_empty {first : String} (h : first ≠ "") (texts : List String) :
    unlines (first :: texts) ≠ "" := by
  cases texts with
  | nil => simpa [unlines] using h
  | cons second texts => simp [unlines_cons, String.append_eq_empty_iff, h]

/-- The first of the joined texts gives the first lines. -/
theorem lines_unlines_cons {first : String} (h : EndsInLine first) (texts : List String) :
    lines (unlines (first :: texts)) = lines first ++ lines (unlines texts) := by
  cases texts with
  | nil => simp [unlines, lines, linesFrom]
  | cons second texts =>
    obtain ⟨c, hlast, hc⟩ := h
    have hcs : first.toList ≠ [] := by
      intro hnil
      simp [hnil] at hlast
    rw [unlines_cons first (by simp), lines, lines, lines, ← List.map_append,
      ← linesFrom_append_lineFeed (.inr hcs) (by simpa [hlast] using hc)]
    simp [String.toList_append]

/-- Texts that end within their lines are read back line by line from what they are joined to. -/
theorem lines_unlines_append (h : ∀ text ∈ texts, EndsInLine text) (others : List String) :
    lines (unlines (texts ++ others)) = texts.flatMap lines ++ lines (unlines others) := by
  induction texts with
  | nil => rfl
  | cons first texts ih =>
    obtain ⟨hfirst, htexts⟩ := List.forall_mem_cons.1 h
    rw [List.cons_append, lines_unlines_cons hfirst, ih htexts, List.flatMap_cons,
      List.append_assoc]

/-- Joined lines are read back. -/
theorem lines_unlines_append_of_unbroken (h : ∀ text ∈ texts, Unbroken text ∧ text ≠ "")
    (others : List String) :
    lines (unlines (texts ++ others)) = texts ++ lines (unlines others) := by
  have hlines : texts.flatMap lines = texts := by
    induction texts with
    | nil => rfl
    | cons first texts ih =>
      obtain ⟨⟨hfirst, hne⟩, htexts⟩ := List.forall_mem_cons.1 h
      rw [List.flatMap_cons, lines_of_unbroken hfirst hne, ih htexts, List.singleton_append]
  rw [lines_unlines_append (fun text htext =>
    endsInLine_of_unbroken (h text htext).1 (h text htext).2), hlines]

end Lines

end CompilerTest.Text

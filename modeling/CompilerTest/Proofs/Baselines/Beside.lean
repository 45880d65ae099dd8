import CompilerTest.Case.Basic
import CompilerTest.Proofs.FileTree.Changes

/-!
# Files beside one another

The files of the expected outputs of a test have one path up to the name of the output
(`outputPath_text`), so they lie in one directory, under different names. Where one of them can be
located, so can the other, at another place, unless its name or the text of its path is too long
(`Beside.locate`).
-/

namespace CompilerTest

namespace FileTree

/-! ## Two files of one directory -/

/-- Two texts name different files of one directory. -/
structure Beside (text other : String) : Prop where
  /-- Both are followed from the same place. -/
  startOf_eq (place : Place) : startOf other place = startOf text place
  /-- One has a zero byte iff the other has. -/
  hasNull_eq : other.toList.contains '\x00' = text.toList.contains '\x00'
  text_ne : text ≠ ""
  other_ne : other ≠ ""
  /-- They differ in their last names. -/
  names : ∃ dirs name otherName, namesOf text = dirs ++ [name] ∧
    namesOf other = dirs ++ [otherName] ∧ name ≠ ".." ∧ otherName ≠ ".." ∧ name ≠ otherName

section Beside

variable {t : FileTree} {text other : String}

theorem trace_append {dirs : List String} {name : String}
    (hnull : text.toList.contains '\x00' = false) (hne : text ≠ "")
    (hnames : namesOf text = dirs ++ [name]) (hname : name ≠ "..") :
    t.trace false text =
      (t.walk true linkLimit (startOf text t.workingPlace) dirs).bind (t.enter · name) := by
  rw [trace, hnull, if_neg (by simp), if_neg hne, hnames, walk_append _ _ _ _ hname]

theorem enter_ok_iff {dir place : Place} {name : String} :
    t.enter dir name = .ok place ↔ t.at? dir = some .directory ∧
      (Bytes.ofText name).length ≤ nameLimit ∧ place = dir ++ [name] := by
  rw [enter]
  rcases t.at? dir with _ | ⟨_ | _ | _ | _⟩
  case some.directory =>
    by_cases h : (Bytes.ofText name).length > nameLimit
    · simp [h, Nat.not_le_of_gt h]
    · simp [h, Nat.le_of_not_gt h, eq_comm]
  all_goals simp

/-- Beside a file that can be located, another file is located at a place of its own, unless its
name or the whole text is too long. -/
theorem Beside.locate (h : Beside text other) {otherPlace : Place}
    (hother : t.locate false other = .ok otherPlace) :
    (∃ place, place ≠ otherPlace ∧ t.locate false text = .ok place) ∨
      t.locate false text = .error .nameTooLong := by
  obtain ⟨dirs, name, otherName, hnames, hotherNames, hname, hotherName, hdiffer⟩ := h.names
  obtain ⟨-, hother⟩ := locate_eq_ok_iff.1 hother
  have hnull : other.toList.contains '\x00' = false := by
    by_contra hnull
    rw [trace, if_pos (by simpa using hnull)] at hother
    cases hother
  by_cases hlong : isTooLong text = true
  · exact .inr (if_pos hlong)
  rw [FileTree.locate, if_neg hlong]
  rw [trace_append hnull h.other_ne hotherNames hotherName, h.startOf_eq] at hother
  rw [trace_append (h.hasNull_eq ▸ hnull) h.text_ne hnames hname]
  cases hdir : t.walk true linkLimit (startOf text t.workingPlace) dirs with
  | error problem =>
    rw [hdir] at hother
    cases hother
  | ok dir =>
    rw [hdir] at hother
    obtain ⟨hat, -, rfl⟩ := enter_ok_iff.1 hother
    by_cases hlong : (Bytes.ofText name).length > nameLimit
    · right
      show t.enter dir name = _
      rw [enter, hat]
      exact if_pos hlong
    · left
      refine ⟨dir ++ [name], ?_, enter_ok_iff.2 ⟨hat, Nat.le_of_not_lt hlong, rfl⟩⟩
      simpa using hdiffer

end Beside

/-! ## Texts with different ends -/

section Ends

/-- A text that can end the last name of any path. -/
structure IsEnd (ending : String) : Prop where
  noSlash : '/' ∉ ending.toList
  noNull : '\x00' ∉ ending.toList
  two_lt_length : 2 < ending.toList.length

theorem splitFrom_noSlash (part ending : List Char) (h : '/' ∉ ending) :
    Path.splitFrom part ending = [part.reverse ++ ending] := by
  induction ending generalizing part with
  | nil => simp [Path.splitFrom]
  | cons c ending ih =>
    rw [List.mem_cons, not_or] at h
    rw [Path.splitFrom, if_neg (Ne.symm h.1), ih _ h.2, List.reverse_cons, List.append_assoc,
      List.singleton_append]

/-- What ends a text without a slash ends its last part. -/
theorem splitFrom_append (part start : List Char) :
    ∃ parts last, ∀ ending, '/' ∉ ending →
      Path.splitFrom part (start ++ ending) = parts ++ [last ++ ending] := by
  induction start generalizing part with
  | nil => exact ⟨[], part.reverse, fun ending h => splitFrom_noSlash part ending h⟩
  | cons c start ih =>
    by_cases hc : c = '/'
    · obtain ⟨parts, last, h⟩ := ih []
      refine ⟨part.reverse :: parts, last, fun ending hending => ?_⟩
      rw [List.cons_append, Path.splitFrom, if_pos hc, h ending hending, List.cons_append]
    · obtain ⟨parts, last, h⟩ := ih (c :: part)
      refine ⟨parts, last, fun ending hending => ?_⟩
      rw [List.cons_append, Path.splitFrom, if_neg hc, h ending hending]

theorem IsEnd.ne_of_length_le {ending : String} (h : IsEnd ending) (last : List Char)
    (special : String) (hspecial : special.toList.length ≤ 2) :
    String.ofList (last ++ ending.toList) ≠ special := by
  rintro rfl
  have := h.two_lt_length
  simp only [String.toList_ofList, List.length_append] at hspecial
  omega

/-- A text followed by two different ends names two files of one directory. -/
theorem beside_append (start : String) {ending other : String} (h : IsEnd ending)
    (hother : IsEnd other) (hne : ending ≠ other) :
    Beside (start ++ ending) (start ++ other) where
  startOf_eq place := by
    have hstarts {e : String} (he : IsEnd e) :
        (start ++ e).startsWith "/" = true ↔ start.toList.head? = some '/' := by
      rw [String.startsWith_string_iff, String.toList_append]
      cases hstart : start.toList with
      | nil =>
        refine ⟨fun h => absurd (h.subset (by simp)) he.noSlash, fun h => by cases h⟩
      | cons c cs => simp [eq_comm]
    rw [startOf, startOf, Bool.eq_iff_iff.2 ((hstarts h).trans (hstarts hother).symm)]
  hasNull_eq := by simp [String.toList_append, h.noNull, hother.noNull]
  text_ne := by simpa using h.ne_of_length_le start.toList "" (by simp)
  other_ne := by simpa using hother.ne_of_length_le start.toList "" (by simp)
  names := by
    obtain ⟨parts, last, hsplit⟩ := splitFrom_append [] start.toList
    have hnames {e : String} (he : IsEnd e) : namesOf (start ++ e) =
        (parts.map String.ofList).filter Path.isName ++ [String.ofList (last ++ e.toList)] := by
      have hname : Path.isName (String.ofList (last ++ e.toList)) = true := by
        rw [Path.isName, Bool.and_eq_true, decide_eq_true_iff, decide_eq_true_iff]
        exact ⟨he.ne_of_length_le last "" (by simp), he.ne_of_length_le last "." (by simp)⟩
      rw [namesOf, Path.split, String.toList_append, hsplit _ he.noSlash, List.map_append,
        List.filter_append, List.map_singleton, List.filter_cons, if_pos hname, List.filter_nil]
    refine ⟨_, _, _, hnames h, hnames hother, h.ne_of_length_le last ".." (by simp),
      hother.ne_of_length_le last ".." (by simp), fun heq => hne ?_⟩
    exact String.toList_inj.1 (List.append_cancel_left (String.ofList_injective heq))

end Ends

end FileTree

namespace Case

open FileTree

/-! ## Files of expected output -/

/-- What the paths of all files of expected output begin with. -/
def outputStart (c : Case) : String :=
  let width := if c.perBitwidth then c.config.width.display ++ "bit." else ""
  let revision := if c.revision = "" then "" else c.revision ++ "."
  c.path.root.text ++
    String.intercalate "/" (c.path.names.dropLast ++ [c.path.stem ++ "." ++ width ++ revision])

theorem intercalate_append (separator : String) (names : List String) (name ending : String) :
    String.intercalate separator (names ++ [name ++ ending]) =
      String.intercalate separator (names ++ [name]) ++ ending := by
  by_cases h : names = []
  · simp [h]
  · rw [String.intercalate_append_of_ne_nil h (by simp),
      String.intercalate_append_of_ne_nil h (by simp), String.intercalate_singleton,
      String.intercalate_singleton, String.append_assoc, String.append_assoc, String.append_assoc]

theorem text_of_withSuffix {p q : Path} {suffix : String} (h : p.withSuffix suffix = .ok q) :
    q.text = p.root.text ++ String.intercalate "/" (p.names.dropLast ++ [p.stem ++ suffix]) := by
  rw [Path.withSuffix] at h
  split at h
  · cases h
  · split at h
    · cases h
    · cases h
      simp [Path.text]

theorem outputPath_text {c : Case} {kind : String} {path : Path}
    (h : c.outputPath kind = .ok path) : path.text = c.outputStart ++ kind := by
  have hend (name : String) : c.path.root.text ++
      String.intercalate "/" (c.path.names.dropLast ++ [name ++ kind]) =
      c.path.root.text ++ String.intercalate "/" (c.path.names.dropLast ++ [name]) ++ kind := by
    rw [intercalate_append, String.append_assoc]
  rw [outputPath] at h
  split at h
  next hwidth =>
    rw [text_of_withSuffix h, outputStart, extension, if_pos hwidth, ← hend]
    split <;> simp only [String.append_assoc, String.append_empty]
  next hwidth =>
    rw [text_of_withSuffix h, outputStart, extension, if_neg hwidth, ← hend]
    split <;> simp only [String.append_assoc, String.append_empty]

theorem isEnd_name (stream : Stream) : IsEnd stream.name := by
  cases stream <;> exact ⟨by decide, by decide, by decide⟩

theorem beside_of_outputPath {c : Case} {stream other : Stream} {path otherPath : Path}
    (hne : stream ≠ other) (h : c.outputPath stream.name = .ok path)
    (hother : c.outputPath other.name = .ok otherPath) : Beside path.text otherPath.text := by
  rw [outputPath_text h, outputPath_text hother]
  refine beside_append _ (isEnd_name stream) (isEnd_name other) ?_
  revert hne
  cases stream <;> cases other <;> decide

end Case

end CompilerTest

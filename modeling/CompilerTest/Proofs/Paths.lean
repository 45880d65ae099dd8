import CompilerTest.Proofs.FileTree.RealPaths

/-!
# Paths and their texts

The names of a path that was read from a text are parts of a text: they hold no slash, and none of
them is blank or a single dot. Such a path is read back from its own text (`ofText_text`), so it is
known by it (`text_inj`). A real path is one of them, if the path that it was asked for is
(`FileTree.spelled_of_realPath`).
-/

namespace CompilerTest

namespace Path

/-! ## Paths below a path -/

theorem relativeTo?_eq_some_iff {p base : Path} {names : List String} :
    p.relativeTo? base = some names ↔ p = base.below names := by
  unfold relativeTo? below
  obtain ⟨root, own⟩ := p
  constructor
  · intro h
    split at h
    next hbelow =>
      simp only [Bool.and_eq_true, decide_eq_true_eq, List.isPrefixOf_iff_prefix] at hbelow
      obtain ⟨rfl, rest, rfl⟩ := hbelow
      obtain rfl : rest = names := by simpa using h
      rfl
    next => cases h
  · rintro ⟨rfl, rfl⟩
    simp

theorem below_inj {p : Path} {names names' : List String} :
    p.below names = p.below names' ↔ names = names' := by
  simp [below]

/-! ## Splitting -/

/-- Whether a name can be a part of the text of a path. -/
def IsPart (name : String) : Prop := '/' ∉ name.toList ∧ isName name = true

/-- Whether a path can be spelled: its names are parts of a text. -/
def Spelled (p : Path) : Prop := ∀ name ∈ p.names, IsPart name

variable {p q : Path}

theorem noSlash_of_mem_splitFrom {part cs cut : List Char} (hpart : '/' ∉ part)
    (h : cut ∈ splitFrom part cs) : '/' ∉ cut := by
  induction cs generalizing part with
  | nil =>
    obtain rfl := List.mem_singleton.1 h
    simpa using hpart
  | cons c cs ih =>
    rw [splitFrom] at h
    split at h
    next =>
      rcases List.mem_cons.1 h with rfl | h
      · simpa using hpart
      · exact ih (by simp) h
    next hc => exact ih (by simp [hpart, Ne.symm hc]) h

/-- Cutting at slashes is that of the library, with the current part before the first slash. -/
theorem splitFrom_eq_splitOn (part cs : List Char) :
    splitFrom part cs = (cs.splitOn '/').modifyHead (part.reverse ++ ·) := by
  induction cs generalizing part with
  | nil => simp [splitFrom]
  | cons c cs ih =>
    rw [splitFrom, List.splitOn_cons_eq_if_modifyHead, ih, ih]
    by_cases hc : c = '/'
    · rw [if_pos hc, if_pos (by simpa using hc)]
      cases cs.splitOn '/' <;> simp
    · rw [if_neg hc, if_neg (by simpa using hc), List.modifyHead_modifyHead]
      simp [Function.comp_def]

theorem split_eq_splitOn (text : String) :
    split text = (text.toList.splitOn '/').map String.ofList := by
  rw [split, splitFrom_eq_splitOn]
  cases text.toList.splitOn '/' <;> simp

/-- The parts of names with slashes between them are the names. -/
theorem split_intercalate {names : List String} (hne : names ≠ [])
    (h : ∀ name ∈ names, IsPart name) : split (String.intercalate "/" names) = names := by
  have hslash : ∀ cut ∈ names.map String.toList, '/' ∉ cut := by
    intro cut hcut
    obtain ⟨name, hname, rfl⟩ := List.mem_map.1 hcut
    exact (h name hname).1
  have hcuts : ("/".toList.intercalate (names.map String.toList)).splitOn '/' =
      names.map String.toList := List.splitOn_intercalate '/' hslash (by simpa using hne)
  rw [split_eq_splitOn, String.toList_intercalate, hcuts, List.map_map]
  simp [Function.comp_def]

/-! ## Reading -/

theorem isPart_of_mem_namesOf {text name : String} (h : name ∈ FileTree.namesOf text) :
    IsPart name := by
  obtain ⟨hsplit, hname⟩ := List.mem_filter.1 h
  obtain ⟨cut, hcut, rfl⟩ := List.mem_map.1 hsplit
  refine ⟨?_, hname⟩
  rw [String.toList_ofList]
  exact noSlash_of_mem_splitFrom (by simp) hcut

/-- A path that was read from a text is spelled. -/
theorem spelled_ofText (text : String) : (ofText text).Spelled := fun _ => isPart_of_mem_namesOf

theorem Spelled.parent (h : p.Spelled) : p.parent.Spelled :=
  fun name hname => h name (List.dropLast_subset _ hname)

theorem Spelled.join (hp : p.Spelled) (hq : q.Spelled) : (p.join q).Spelled := by
  intro name hname
  unfold Path.join at hname
  split at hname
  · exact hq name hname
  · rcases List.mem_append.1 hname with hname | hname
    · exact hp name hname
    · exact hq name hname

/-! ## Reading back -/

/-- The slashes of a root are no names. -/
theorem namesOf_root (root : Root) (text : String) :
    FileTree.namesOf (root.text ++ text) = FileTree.namesOf text := by
  have hblank : isName (String.ofList []) = false := by decide
  cases root <;>
    simp [FileTree.namesOf, split, Root.text, splitFrom, hblank]

/-- Names are read back from their text. -/
theorem namesOf_intercalate {names : List String} (hne : names ≠ [])
    (h : ∀ name ∈ names, IsPart name) :
    FileTree.namesOf (String.intercalate "/" names) = names := by
  rw [FileTree.namesOf, split_intercalate hne h]
  exact List.filter_eq_self.2 fun name hname => (h name hname).2

/-- A root is read back if no slash comes after it. -/
theorem rootOf_append (root : Root) {c : Char} (hc : c ≠ '/') (cs : List Char) :
    rootOf (root.text.toList ++ c :: cs) = root := by
  cases root <;> simp [Root.text, rootOf, hc]

/-- The text of the names of a path does not begin with a slash. -/
theorem exists_cons_of_intercalate {names : List String} (hne : names ≠ [])
    (h : ∀ name ∈ names, IsPart name) :
    ∃ c cs, (String.intercalate "/" names).toList = c :: cs ∧ c ≠ '/' := by
  obtain ⟨name, rest, rfl⟩ := List.exists_cons_of_ne_nil hne
  obtain ⟨hslash, hname⟩ := h name List.mem_cons_self
  have hstart : ∃ ending, String.intercalate "/" (name :: rest) = name ++ ending := by
    by_cases hrest : rest = []
    · exact ⟨"", by simp [hrest]⟩
    · exact ⟨_, by rw [String.intercalate_cons_of_ne_nil hrest, String.append_assoc]⟩
  obtain ⟨ending, hending⟩ := hstart
  cases hcs : name.toList with
  | nil =>
    rw [String.toList_eq_nil_iff.1 hcs] at hname
    cases hname
  | cons c cs =>
    refine ⟨c, cs ++ ending.toList, ?_, ?_⟩
    · rw [hending, String.toList_append, hcs, List.cons_append]
    · rintro rfl
      exact hslash (by simp [hcs])

/-- **A path is read back from its text.** -/
theorem ofText_text (h : p.Spelled) : ofText p.text = p := by
  obtain ⟨root, names⟩ := p
  by_cases hne : names = []
  · subst hne
    cases root <;> decide
  · obtain ⟨c, cs, hcs, hc⟩ := exists_cons_of_intercalate hne h
    have htext : text ⟨root, names⟩ = root.text ++ String.intercalate "/" names := by
      simp [text, hne]
    have hroot : rootOf (text ⟨root, names⟩).toList = root := by
      rw [htext, String.toList_append, hcs]
      exact rootOf_append root hc cs
    have hnames : FileTree.namesOf (text ⟨root, names⟩) = names := by
      rw [htext, namesOf_root, namesOf_intercalate hne h]
    show (⟨_, FileTree.namesOf _⟩ : Path) = _
    rw [hroot, hnames]

/-- Different paths have different texts. -/
theorem text_inj (hp : p.Spelled) (hq : q.Spelled) : p.text = q.text ↔ p = q := by
  constructor
  · intro h
    rw [← ofText_text hp, h, ofText_text hq]
  · rintro rfl
    rfl

end Path

namespace FileTree

variable {t : FileTree} {strict : Bool} {p real : Path}

theorem isKind_isPart : IsKind Path.IsPart where
  parent := ⟨by decide, by decide⟩
  target _ _ := Path.isPart_of_mem_namesOf

/-- The real path of a spelled path is spelled. -/
theorem spelled_of_realPath (hworking : t.workingDirectory.Spelled) (hp : p.Spelled)
    (h : t.realPath strict p = .ok real) : real.Spelled :=
  fun name hname => (names_of_realPath isKind_isPart hworking hp h name hname).1

end FileTree

end CompilerTest

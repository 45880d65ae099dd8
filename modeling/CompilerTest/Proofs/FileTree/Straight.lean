import CompilerTest.Proofs.FileTree.RealPlaces
import Mathlib.Data.List.DropRight

/-!
# Straight ways

Names lead straight to a place if no link is followed on the way, as those of a real place do. The
paths that are made while links are followed stand for such places, though they may begin in the
working directory and go up from there (`Stands`). The system finds what there is at the place that
a path stands for (`Stands.outline_cases`).
-/

namespace CompilerTest

namespace FileTree

variable {t : FileTree}

/-! ## Straight ways -/

/-- Whether the names of a place lead straight to it: no link is followed on the way. -/
structure Straight (t : FileTree) (follow : Bool) (place : Place) : Prop where
  plain : ∀ name ∈ place, Path.IsPlain name
  noLink {dir : Place} {target : String} (hdir : dir <+: place)
    (hlink : t.at? dir = some (.link target)) : follow = false ∧ dir = place

section Straight

variable {follow : Bool} {n : Nat} {place dir last : Place} {name text : String}
  {names : List String}

theorem straight_nil (t : FileTree) : t.Straight true [] where
  plain := by simp
  noLink hdir hlink := by
    obtain rfl := List.prefix_nil.1 hdir
    cases hlink

theorem Straight.of_prefix (h : t.Straight true place) (hdir : dir <+: place) :
    t.Straight true dir where
  plain name hname := h.plain name (hdir.subset hname)
  noLink hbefore hlink := absurd (h.noLink (hbefore.trans hdir) hlink).1 (by simp)

theorem Straight.ne_parent (h : t.Straight follow place) : ".." ∉ place :=
  fun hmem => (h.plain _ hmem).ne_parent rfl

theorem Straight.snoc (h : t.Straight true place) (hname : Path.IsPlain name)
    (hlink : follow = true → ∀ target, t.at? (place ++ [name]) ≠ some (.link target)) :
    t.Straight follow (place ++ [name]) where
  plain := by
    simpa [or_imp, forall_and] using And.intro h.plain hname
  noLink := by
    intro dir target hdir hthere
    rcases List.prefix_concat_iff.1 hdir with rfl | hbefore
    · cases follow with
      | false => exact ⟨rfl, rfl⟩
      | true => exact absurd hthere (hlink rfl target)
    · exact absurd (h.noLink hbefore hthere).1 (by simp)

/-- The way to the working directory is straight. -/
theorem straight_workingPlace (ht : t.Proper) : t.Straight true t.workingPlace := by
  suffices ∀ dir, dir <+: t.workingPlace → t.Straight true dir from this _ (List.prefix_refl _)
  intro dir
  induction dir using List.reverseRecOn with
  | nil => exact fun _ => straight_nil t
  | append_singleton dir name ih =>
    rintro ⟨rest, hrest⟩
    have hthere := ht.directory_of_working hrest.symm
    refine (ih ⟨name :: rest, by simp [← hrest]⟩).snoc (ht.entry hthere).2.toIsPlain ?_
    simp [hthere]

theorem straight_startOf (h : t.Straight true place) (text : String) :
    t.Straight true (startOf text place) := by
  unfold startOf
  split
  · exact straight_nil t
  · exact h

theorem straight_startPlace (ht : t.Proper) (p : Path) : t.Straight true (t.startPlace p) := by
  unfold startPlace
  split
  · exact straight_nil t
  · exact straight_workingPlace ht

/-- The way to a real place is straight. -/
theorem Denotes.straight (h : t.Denotes n place names last) (hplace : t.Straight true place)
    (hnames : ∀ name ∈ names, Path.IsPart name) : t.Straight true last := by
  induction h with
  | here => exact hplace
  | parent _ ih =>
    exact ih (hplace.of_prefix (List.dropLast_prefix _)) (List.forall_mem_cons.1 hnames).2
  | name hname hnull hlink _ ih =>
    obtain ⟨hpart, hrest⟩ := List.forall_mem_cons.1 hnames
    exact ih (hplace.snoc ⟨hpart, hname, hnull⟩ fun _ => hlink) hrest
  | @link _ place _ _ _ target _ _ _ _ _ ihtarget ihrest =>
    have hinner := ihtarget (straight_startOf hplace target) fun _ => Path.isPart_of_mem_namesOf
    exact ihrest hinner (List.forall_mem_cons.1 hnames).2

/-! ### What the system makes of them -/

/-- Names that lead straight to a place are followed to it or are refused. -/
theorem walkNames_straight {walked : Walked} (h : t.Straight follow (dir ++ names))
    (hwalked : t.walkNames follow dir names = .ok walked) : walked = .arrived (dir ++ names) := by
  induction names generalizing dir with
  | nil =>
    cases hwalked
    rw [List.append_nil]
  | cons name rest ih =>
    have hname := (h.plain name (by simp)).ne_parent
    rw [List.append_cons] at h ⊢
    rw [walkNames] at hwalked
    split at hwalked
    · cases hwalked
    · rw [if_neg hname] at hwalked
      split at hwalked
      · cases hwalked
      · dsimp only at hwalked
        split at hwalked
        next target hlink =>
          obtain ⟨rfl, hend⟩ := h.noLink (List.prefix_append ..) hlink
          obtain rfl := List.self_eq_append_right.1 hend
          cases hwalked
          simp
        next =>
          split at hwalked
          next hend =>
            obtain rfl := List.isEmpty_iff.1 hend
            cases hwalked
            simp
          next => cases hwalked
        next => exact ih h hwalked
    · cases hwalked

/-- Where there is something, names that lead straight to it are followed to it. -/
theorem walkNames_of_at? (ht : t.Proper) {entry : Entry} (h : t.Straight follow (dir ++ names))
    (hentry : t.at? (dir ++ names) = some entry) :
    t.walkNames follow dir names = .ok (.arrived (dir ++ names)) := by
  cases hwalked : t.walkNames follow dir names with
  | ok walked => rw [walkNames_straight h hwalked]
  | error problem =>
    exfalso
    induction names generalizing dir with
    | nil => cases hwalked
    | cons name rest ih =>
      have hname := (h.plain name (by simp)).ne_parent
      have hdir := ht.directory hentry (by simp)
      rw [List.append_cons] at h hentry
      rw [walkNames, hdir] at hwalked
      simp only [if_neg hname] at hwalked
      obtain ⟨here, hhere⟩ : ∃ here, t.at? (dir ++ [name]) = some here := by
        cases rest with
        | nil => exact ⟨_, by simpa using hentry⟩
        | cons => exact ⟨_, ht.directory hentry (by simp)⟩
      have hshort := (ht.entry hhere).2.short
      rw [if_neg (by omega), hhere] at hwalked
      split at hwalked
      next target hlink =>
        cases hlink
        split at hwalked <;> cases hwalked
      next hnone => cases hnone
      next => exact ih h hentry hwalked

/-- Names are refused for what is there or is not. -/
theorem walkNames_error {problem : FileProblem}
    (h : t.walkNames follow dir names = .error problem) :
    problem ≠ .hasNull ∧ problem ≠ .tooManyLinks := by
  induction names generalizing dir with
  | nil => cases h
  | cons name rest ih =>
    rw [walkNames] at h
    split at h
    · cases h
      simp
    · split at h
      · exact ih h
      · split at h
        · cases h
          simp
        · dsimp only at h
          split at h
          · split at h <;> cases h
          · split at h
            · cases h
            · cases h
              simp
          · exact ih h
    · cases h
      simp

end Straight

/-! ## Paths on the way -/

/-- What a path that is made while following stands for: a place itself, or a place that is found by
going up from the working directory first. -/
inductive Stands (t : FileTree) : Path → Place → Prop where
  /-- The path begins at the root. -/
  | absolute (place : Place) : Stands t ⟨.single, place⟩ place
  /-- The path begins in the working directory. -/
  | relative (ups : Nat) (names : List String) :
    Stands t ⟨.relative, List.replicate ups ".." ++ names⟩ (t.workingPlace.rdrop ups ++ names)

section Stands

variable {follow : Bool} {p q : Path} {place place' : Place} {names : List String} {ups : Nat}

theorem rdrop_succ (place : Place) (ups : Nat) :
    place.rdrop (ups + 1) = (place.rdrop ups).dropLast := by
  rw [List.rdrop, List.rdrop, List.dropLast_eq_take, List.take_take, List.length_take]
  congr 1
  omega

theorem rdrop_prefix (place : Place) (ups : Nat) : place.rdrop ups <+: place :=
  List.take_prefix _ _

theorem stands_start (t : FileTree) (p : Path) :
    t.Stands (if p.isAbsolute then ⟨.single, []⟩ else ⟨.relative, []⟩) (t.startPlace p) := by
  unfold startPlace
  split
  · exact .absolute []
  · simpa using Stands.relative (t := t) 0 []

theorem Stands.startOf (h : t.Stands p place) (target : String) :
    t.Stands (if target.startsWith "/" then ⟨.single, []⟩ else p) (startOf target place) := by
  unfold FileTree.startOf
  split
  · exact .absolute []
  · exact h

theorem Stands.below (h : t.Stands p place) (names : List String) :
    t.Stands (p.below names) (place ++ names) := by
  cases h with
  | absolute => exact .absolute _
  | relative ups own =>
    rw [Path.below, List.append_assoc, List.append_assoc]
    exact .relative ups _

theorem Stands.ascend (h : t.Stands p place) (hplace : ".." ∉ place) :
    t.Stands (ascend p) place.dropLast := by
  cases h with
  | absolute =>
    cases place using List.reverseRecOn with
    | nil => exact .absolute []
    | append_singleton place name =>
      have hname : name ≠ ".." := by
        rintro rfl
        simp at hplace
      simpa [FileTree.ascend, Path.parent, hname] using Stands.absolute (t := t) place
  | relative ups names =>
    cases names using List.reverseRecOn with
    | nil =>
      have hup := Stands.relative (t := t) (ups + 1) []
      rw [List.append_nil, List.append_nil] at hup ⊢
      rw [← rdrop_succ]
      cases ups with
      | zero => exact hup
      | succ ups =>
        simpa [FileTree.ascend, Path.below, List.replicate_succ'] using hup
    | append_singleton names name =>
      have hname : name ≠ ".." := by
        rintro rfl
        simp at hplace
      rw [← List.append_assoc, ← List.append_assoc, List.dropLast_concat]
      simpa [FileTree.ascend, Path.parent, hname] using Stands.relative (t := t) ups names

/-! ### As absolute paths -/

theorem collapse_append_of_notMem (before : List String) (h : ".." ∉ names) :
    collapse (before ++ names) = collapse before ++ names := by
  induction names using List.reverseRecOn with
  | nil => simp
  | append_singleton names name ih =>
    obtain ⟨hnames, hname⟩ : ".." ∉ names ∧ ¬ ".." = name := by simpa using h
    rw [← List.append_assoc, collapse, List.foldl_append, ← collapse, ih hnames]
    simp [Ne.symm hname]

theorem collapse_append_replicate (before : List String) (ups : Nat) :
    collapse (before ++ List.replicate ups "..") = (collapse before).rdrop ups := by
  induction ups with
  | zero => simp
  | succ ups ih =>
    rw [List.replicate_succ', ← List.append_assoc, collapse, List.foldl_append, ← collapse, ih,
      rdrop_succ]
    simp

/-- A path that stands for a place spells it. -/
theorem Stands.absolute_eq (h : t.Stands p place) (hworking : ".." ∉ t.workingPlace)
    (hplace : ".." ∉ place) : t.absolute p = ⟨.single, place⟩ := by
  have hcollapse (names : List String) (hnames : ".." ∉ names) : collapse names = names :=
    collapse_append_of_notMem [] hnames
  cases h with
  | absolute => exact congrArg _ (hcollapse _ hplace)
  | relative ups names =>
    have hnames : ".." ∉ names := fun hmem => hplace (List.mem_append_right _ hmem)
    show (⟨.single, collapse (t.workingPlace ++ (List.replicate ups ".." ++ names))⟩ : Path) = _
    rw [← List.append_assoc, collapse_append_of_notMem _ hnames, collapse_append_replicate,
      hcollapse _ hworking]

/-! ### What the system makes of them -/

theorem Stands.spelled (h : t.Stands p place) (hplace : ∀ name ∈ place, Path.IsPlain name) :
    p.Spelled := by
  intro name hname
  cases h with
  | absolute => exact (hplace name hname).part
  | relative ups names =>
    rcases List.mem_append.1 hname with hup | hname
    · obtain rfl := List.eq_of_mem_replicate hup
      exact isKind_isPart.parent
    · exact (hplace name (List.mem_append_right _ hname)).part

theorem Stands.noNull (h : t.Stands p place) (hplace : ∀ name ∈ place, Path.IsPlain name) :
    p.NoNull := by
  intro name hname
  cases h with
  | absolute => exact (hplace name hname).noNull
  | relative ups names =>
    rcases List.mem_append.1 hname with hup | hname
    · obtain rfl := List.eq_of_mem_replicate hup
      decide
    · exact (hplace name (List.mem_append_right _ hname)).noNull

/-- Who goes up from the working directory comes to the directories above it. -/
theorem walkNames_ups (ht : t.Proper) (follow : Bool) (ups : Nat) (names : List String) :
    t.walkNames follow t.workingPlace (List.replicate ups ".." ++ names) =
      t.walkNames follow (t.workingPlace.rdrop ups) names := by
  induction ups generalizing names with
  | zero => simp
  | succ ups ih =>
    obtain ⟨rest, hrest⟩ := rdrop_prefix t.workingPlace ups
    rw [List.replicate_succ', List.append_assoc, ih, List.singleton_append, walkNames,
      ht.directory_of_working hrest.symm, rdrop_succ]
    simp

theorem Stands.exists_walkNames (ht : t.Proper) (h : t.Stands p place) (follow : Bool) :
    ∃ dir names, place = dir ++ names ∧
      t.walkNames follow (t.startPlace p) p.names = t.walkNames follow dir names := by
  cases h with
  | absolute => exact ⟨[], place, rfl, rfl⟩
  | relative ups names => exact ⟨_, names, rfl, walkNames_ups ht follow ups names⟩

end Stands

section Texts

variable {p : Path} {names : List String} {c : Char}

theorem mem_intercalate (h : c ∈ (String.intercalate "/" names).toList) :
    c = '/' ∨ ∃ name ∈ names, c ∈ name.toList := by
  induction names with
  | nil => simp at h
  | cons name rest ih =>
    by_cases hrest : rest = []
    · subst hrest
      exact .inr ⟨name, by simp, by simpa using h⟩
    · rw [String.intercalate_cons_of_ne_nil hrest] at h
      simp only [String.toList_append, List.mem_append] at h
      rcases h with (hname | hslash) | h
      · exact .inr ⟨name, by simp, hname⟩
      · exact .inl (by simpa using hslash)
      · rcases ih h with rfl | ⟨name', hname', hc⟩
        · exact .inl rfl
        · exact .inr ⟨name', by simp [hname'], hc⟩

/-- There is a zero byte in the text of a path iff there is one in the path. -/
theorem null_notMem_text_iff (hp : p.Spelled) : '\x00' ∉ p.text.toList ↔ p.NoNull := by
  constructor
  · intro h
    rw [Path.NoNull, ← namesOf_text hp]
    exact noNull_of_mem_namesOf h
  · intro h hmem
    unfold Path.text at hmem
    split at hmem
    · revert hmem
      decide
    · rw [String.toList_append, List.mem_append] at hmem
      rcases hmem with hroot | hnames
      · revert hroot
        cases p.root <;> decide
      · rcases mem_intercalate hnames with hslash | ⟨name, hname, hnull⟩
        · revert hslash
          decide
        · exact h name hname hnull

theorem text_ne_empty (hp : p.Spelled) : p.text ≠ "" := by
  intro h
  have hempty := Path.ofText_text hp
  rw [h] at hempty
  subst hempty
  revert h
  decide

end Texts

section Trace

variable {follow : Bool} {p : Path} {place : Place}

/-- The text of a path leads to the place that the path stands for, or there is nothing. -/
theorem Stands.trace_cases (ht : t.Proper) (h : t.Stands p place)
    (hplace : t.Straight follow place) :
    t.trace follow p.text = .ok place ∨ t.at? place = none ∧ ∃ problem,
      t.trace follow p.text = .error problem ∧ problem ≠ .hasNull ∧ problem ≠ .tooManyLinks := by
  have hp := h.spelled hplace.plain
  have hnull := (null_notMem_text_iff hp).2 (h.noNull hplace.plain)
  obtain ⟨dir, names, rfl, hnames⟩ := h.exists_walkNames ht follow
  have htrace : t.trace follow p.text = t.walk follow linkLimit (t.startPlace p) p.names := by
    rw [FileTree.trace, if_neg (by simpa using hnull), if_neg (text_ne_empty hp),
      startOf_text hp, namesOf_text hp]
  rw [htrace, walk_eq, hnames]
  cases hwalked : t.walkNames follow dir names with
  | ok walked =>
    rw [walkNames_straight hplace hwalked]
    exact .inl rfl
  | error problem =>
    refine .inr ⟨?_, problem, rfl, walkNames_error hwalked⟩
    rw [Option.eq_none_iff_forall_ne_some]
    intro entry hentry
    rw [walkNames_of_at? ht hplace hentry] at hwalked
    cases hwalked

/-- What names can be followed through is found at the place that a path stands for. -/
theorem Stands.outline_cases (ht : t.Proper) (h : t.Stands p place)
    (hplace : t.Straight follow place) :
    outline (t.seek false follow p.text) = .ok (t.route? place) ∨ t.route? place = none ∧ ∃ problem,
      outline (t.seek false follow p.text) = .error problem ∧
        problem ≠ .hasNull ∧ problem ≠ .tooManyLinks := by
  rw [seek_false, outline_withEntry]
  rcases h.trace_cases ht hplace with htrace | ⟨hnone, problem, htrace, hnull, hmany⟩
  · rw [htrace]
    exact .inl rfl
  · have hroute : t.route? place = none := by rw [route?, hnone, Option.filter_none]
    rw [htrace, hroute]
    cases problem with
    | notFound | notDirectory => exact .inl rfl
    | hasNull => exact absurd rfl hnull
    | tooManyLinks => exact absurd rfl hmany
    | _ => exact .inr ⟨rfl, _, rfl, by simp, by simp⟩

end Trace

end FileTree

end CompilerTest

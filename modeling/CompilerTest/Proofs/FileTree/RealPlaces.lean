import CompilerTest.Proofs.FileTree.Links
import CompilerTest.Proofs.Paths
import Mathlib.Data.Set.Card

/-!
# Real places

Paths that are spelled differently may lead to one place. What they have in common is their real
place (`RealPlace`): each link on the way is replaced by what it leads to, a parent takes away the
name before it, and names at which there is nothing are kept. Unlike the system, which follows names
through directories only and through so many links, this gives a place also to a path to something
that is not there; where the system does come to a place, it is the real one
(`realPlace_of_locate`).

Links may lead to one another in a circle. In a tree in which none do, all paths have a real place
unless there is a zero byte in them (`exists_realPlace_iff`).
-/

namespace CompilerTest

namespace Path

/-- Whether a name is that of something in a directory, not that of its parent. -/
structure IsPlain (name : String) : Prop where
  part : IsPart name
  ne_parent : name ≠ ".."
  noNull : '\x00' ∉ name.toList

/-- Whether there is no zero byte in a path. -/
def NoNull (p : Path) : Prop := ∀ name ∈ p.names, '\x00' ∉ name.toList

instance (name : String) : Decidable (IsPart name) :=
  inferInstanceAs (Decidable ('/' ∉ name.toList ∧ isName name = true))

instance (name : String) : Decidable (IsPlain name) :=
  decidable_of_iff (IsPart name ∧ name ≠ ".." ∧ '\x00' ∉ name.toList)
    ⟨fun ⟨hpart, hname, hnull⟩ => ⟨hpart, hname, hnull⟩, fun h => ⟨h.part, h.ne_parent, h.noNull⟩⟩

instance (p : Path) : Decidable p.Spelled :=
  inferInstanceAs (Decidable (∀ name ∈ p.names, IsPart name))

instance (p : Path) : Decidable p.NoNull :=
  inferInstanceAs (Decidable (∀ name ∈ p.names, '\x00' ∉ name.toList))

end Path

namespace FileTree

/-! ## Trees that a system can have -/

/-- Whether an entry can stand under a name. -/
structure IsEntryName (name : String) : Prop extends Path.IsPlain name where
  short : (Bytes.ofText name).length ≤ nameLimit

instance (name : String) : Decidable (IsEntryName name) :=
  decidable_of_iff (Path.IsPlain name ∧ (Bytes.ofText name).length ≤ nameLimit)
    ⟨fun ⟨hplain, hshort⟩ => ⟨hplain, hshort⟩, fun h => ⟨h.toIsPlain, h.short⟩⟩

/-- Whether a tree is one that a system can have. -/
structure Proper (t : FileTree) : Prop where
  /-- Entries stand in directories. -/
  entry {dir : Place} {name : String} {entry : Entry} (h : t.at? (dir ++ [name]) = some entry) :
    t.at? dir = some .directory ∧ IsEntryName name
  /-- The target of a link is a text without a zero byte. -/
  target {place : Place} {target : String} (h : t.at? place = some (.link target)) :
    '\x00' ∉ target.toList
  /-- The working directory is there. -/
  working : t.at? t.workingPlace = some .directory

section Proper

variable {t : FileTree} {place dir : Place} {entry : Entry} {rest : List String}

theorem mem_entries_of_at? (h : t.at? place = some entry) (hne : place ≠ []) :
    (place, entry) ∈ t.entries := by
  rw [at?_of_ne_nil t hne] at h
  obtain ⟨before, after, hentries, -⟩ := List.lookup_eq_some_iff.1 h
  simp [hentries]

/-- What a link leads to, as a text. -/
def linkText : Entry → String
  | .link target => target
  | _ => ""

/-- Whether an entry can stand at a place. -/
structure Fits (t : FileTree) (e : Place × Entry) : Prop where
  directory : t.at? e.1.dropLast = some .directory
  name : ∀ name ∈ e.1.getLast?, IsEntryName name
  noNull : '\x00' ∉ (linkText e.2).toList

instance (t : FileTree) (e : Place × Entry) : Decidable (t.Fits e) :=
  decidable_of_iff (t.at? e.1.dropLast = some .directory ∧
    (∀ name ∈ e.1.getLast?, IsEntryName name) ∧ '\x00' ∉ (linkText e.2).toList)
    ⟨fun ⟨hdir, hname, hnull⟩ => ⟨hdir, hname, hnull⟩, fun h => ⟨h.directory, h.name, h.noNull⟩⟩

/-- A tree is proper if all entries in the list are where they can be. -/
theorem proper_of_entries (hentries : ∀ e ∈ t.entries, t.Fits e)
    (hworking : t.at? t.workingPlace = some .directory) : t.Proper where
  entry {dir name entry} h := by
    have hfits := hentries _ (mem_entries_of_at? h (by simp))
    have hdir := hfits.directory
    rw [List.dropLast_concat] at hdir
    exact ⟨hdir, hfits.name name (by simp)⟩
  target {place target} h := by
    have hne : place ≠ [] := by
      rintro rfl
      cases h
    exact (hentries _ (mem_entries_of_at? h hne)).noNull
  working := hworking

/-- What leads to an entry are directories. -/
theorem Proper.directory (ht : t.Proper) (h : t.at? (dir ++ rest) = some entry) (hne : rest ≠ []) :
    t.at? dir = some .directory := by
  induction rest using List.reverseRecOn generalizing entry with
  | nil => exact absurd rfl hne
  | append_singleton rest name ih =>
    rw [← List.append_assoc] at h
    obtain ⟨hdir, -⟩ := ht.entry h
    by_cases hrest : rest = []
    · rwa [hrest, List.append_nil] at hdir
    · exact ih hdir hrest

/-- What leads to the working directory are directories. -/
theorem Proper.directory_of_working (ht : t.Proper) (h : t.workingPlace = dir ++ rest) :
    t.at? dir = some .directory := by
  have hworking := ht.working
  rw [h] at hworking
  by_cases hrest : rest = []
  · rwa [hrest, List.append_nil] at hworking
  · exact ht.directory hworking hrest

end Proper

/-! ## Names that lead to a real place -/

/-- Names lead from a place to a real one, where links lead through one another at most `n` deep. -/
inductive Denotes (t : FileTree) : Nat → Place → List String → Place → Prop where
  /-- No name is left. -/
  | here {n : Nat} {place : Place} : Denotes t n place [] place
  /-- A parent takes away the name before it. -/
  | parent {n : Nat} {place last : Place} {rest : List String}
    (hrest : Denotes t n place.dropLast rest last) : Denotes t n place (".." :: rest) last
  /-- A name at which there is no link is kept, whether or not there is anything. -/
  | name {n : Nat} {place last : Place} {name : String} {rest : List String} (hname : name ≠ "..")
    (hnull : '\x00' ∉ name.toList) (hlink : ∀ target, t.at? (place ++ [name]) ≠ some (.link target))
    (hrest : Denotes t n (place ++ [name]) rest last) : Denotes t n place (name :: rest) last
  /-- A link is replaced by what it leads to. -/
  | link {n : Nat} {place inner last : Place} {name target : String} {rest : List String}
    (hname : name ≠ "..") (hlink : t.at? (place ++ [name]) = some (.link target))
    (htarget : Denotes t n (startOf target place) (namesOf target) inner)
    (hrest : Denotes t (n + 1) inner rest last) : Denotes t (n + 1) place (name :: rest) last

section Denotes

variable {t : FileTree} {n m : Nat} {place dir last last' : Place} {names rest : List String}
  {name : String}

theorem Denotes.mono (h : t.Denotes n place names last) (hle : n ≤ m) :
    t.Denotes m place names last := by
  induction h generalizing m with
  | here => exact .here
  | parent _ ih => exact .parent (ih hle)
  | name hname hnull hlink _ ih => exact .name hname hnull hlink (ih hle)
  | link hname hlink _ _ ihtarget ihrest =>
    obtain ⟨m, rfl⟩ : ∃ k, m = k + 1 := Nat.exists_eq_succ_of_ne_zero (by omega)
    exact .link hname hlink (ihtarget (Nat.le_of_succ_le_succ hle)) (ihrest hle)

/-- Names lead to one real place. -/
theorem Denotes.unique (h : t.Denotes n place names last) (h' : t.Denotes m place names last') :
    last = last' := by
  induction h generalizing m last' with
  | here =>
    cases h'
    rfl
  | parent _ ih =>
    cases h' with
    | parent h' => exact ih h'
    | name hname => exact absurd rfl hname
    | link hname => exact absurd rfl hname
  | name hname _ hlink _ ih =>
    cases h' with
    | parent => exact absurd rfl hname
    | name _ _ _ h' => exact ih h'
    | link _ hlink' => exact absurd hlink' (hlink _)
  | link hname hlink _ _ ihtarget ihrest =>
    cases h' with
    | parent => exact absurd rfl hname
    | name _ _ hlink' => exact absurd hlink (hlink' _)
    | link _ hlink' htarget' h' =>
      cases hlink.symm.trans hlink'
      obtain rfl := ihtarget htarget'
      exact ihrest h'

theorem Denotes.append (h : t.Denotes n place names dir) (hrest : t.Denotes n dir rest last) :
    t.Denotes n place (names ++ rest) last := by
  induction h with
  | here => exact hrest
  | parent _ ih => exact .parent (ih hrest)
  | name hname hnull hlink _ ih => exact .name hname hnull hlink (ih hrest)
  | link hname hlink htarget _ _ ih => exact .link hname hlink htarget (ih hrest)

theorem denotes_append_iff :
    t.Denotes n place (names ++ rest) last ↔
      ∃ dir, t.Denotes n place names dir ∧ t.Denotes n dir rest last := by
  refine ⟨fun h => ?_, fun ⟨_, h, hrest⟩ => h.append hrest⟩
  induction names generalizing place with
  | nil => exact ⟨place, .here, h⟩
  | cons name names ih =>
    cases h with
    | parent h =>
      obtain ⟨dir, hnames, hrest⟩ := ih h
      exact ⟨dir, .parent hnames, hrest⟩
    | name hname hnull hlink h =>
      obtain ⟨dir, hnames, hrest⟩ := ih h
      exact ⟨dir, .name hname hnull hlink hnames, hrest⟩
    | link hname hlink htarget h =>
      obtain ⟨dir, hnames, hrest⟩ := ih h
      exact ⟨dir, .link hname hlink htarget hnames, hrest⟩

/-- A zero byte leads nowhere. -/
theorem Denotes.noNull (ht : t.Proper) (h : t.Denotes n place names last) :
    ∀ name ∈ names, '\x00' ∉ name.toList := by
  induction h with
  | here => simp
  | parent _ ih => exact List.forall_mem_cons.2 ⟨by decide, ih⟩
  | name _ hnull _ _ ih => exact List.forall_mem_cons.2 ⟨hnull, ih⟩
  | link _ hlink _ _ _ ih => exact List.forall_mem_cons.2 ⟨(ht.entry hlink).2.noNull, ih⟩

/-- One name more leads on, if it does where there is a link. -/
theorem Denotes.exists_snoc (h : t.Denotes n place names dir) (hnull : '\x00' ∉ name.toList)
    (htarget : ∀ target, name ≠ ".." → t.at? (dir ++ [name]) = some (.link target) →
      ∃ m inner, t.Denotes m (startOf target dir) (namesOf target) inner) :
    ∃ m last, t.Denotes m place (names ++ [name]) last := by
  by_cases hname : name = ".."
  · subst hname
    exact ⟨n, _, h.append (.parent .here)⟩
  by_cases hlink : ∃ target, t.at? (dir ++ [name]) = some (.link target)
  · obtain ⟨target, hlink⟩ := hlink
    obtain ⟨m, inner, hinner⟩ := htarget target hname hlink
    have hlast := hinner.mono (Nat.le_max_right n m)
    exact ⟨max n m + 1, inner,
      (h.mono (by omega)).append (.link hname hlink hlast .here)⟩
  · exact ⟨n, _, h.append (.name hname hnull (by simpa using hlink) .here)⟩

end Denotes

/-! ## Real places of paths -/

/-- The place in which a path begins. -/
def startPlace (t : FileTree) (p : Path) : Place := if p.isAbsolute then [] else t.workingPlace

/-- The real place of a path. -/
def RealPlace (t : FileTree) (p : Path) (place : Place) : Prop :=
  ∃ n, t.Denotes n (t.startPlace p) p.names place

theorem RealPlace.unique {t : FileTree} {p : Path} {place place' : Place}
    (h : t.RealPlace p place) (h' : t.RealPlace p place') : place = place' := by
  obtain ⟨_, h⟩ := h
  obtain ⟨_, h'⟩ := h'
  exact h.unique h'

/-! ### Where the system comes to -/

/-- What the system comes to without following a link: a real place, or a link behind one. -/
inductive ComesTo (t : FileTree) (place : Place) : List String → Walked → Prop where
  /-- No name is left. -/
  | arrived {names : List String} {last : Place} (h : t.Denotes 0 place names last) :
    ComesTo t place names (.arrived last)
  /-- A link is next. -/
  | met {before rest : List String} {dir : Place} {name target : String}
    (h : t.Denotes 0 place before dir) (hname : name ≠ "..")
    (hlink : t.at? (dir ++ [name]) = some (.link target)) :
    ComesTo t place (before ++ name :: rest) (.met dir target rest)

section Leads

variable {t : FileTree} {n links : Nat} {place last : Place} {names : List String} {p : Path}
  {text : String}

/-- The parts of a text are made of its characters. -/
theorem mem_of_mem_splitFrom {part cs cut : List Char} {c : Char}
    (h : cut ∈ Path.splitFrom part cs) (hc : c ∈ cut) : c ∈ part ∨ c ∈ cs := by
  induction cs generalizing part with
  | nil =>
    obtain rfl := List.mem_singleton.1 h
    exact .inl (List.mem_reverse.1 hc)
  | cons d cs ih =>
    rw [Path.splitFrom] at h
    split at h
    · rcases List.mem_cons.1 h with rfl | h
      · exact .inl (List.mem_reverse.1 hc)
      · rcases ih h with hpart | hcs
        · cases hpart
        · exact .inr (List.mem_cons_of_mem d hcs)
    · rcases ih h with hpart | hcs
      · rcases List.mem_cons.1 hpart with rfl | hpart
        · exact .inr List.mem_cons_self
        · exact .inl hpart
      · exact .inr (List.mem_cons_of_mem d hcs)

/-- The names of a text without a zero byte are without one. -/
theorem noNull_of_mem_namesOf (h : '\x00' ∉ text.toList) :
    ∀ name ∈ namesOf text, '\x00' ∉ name.toList := by
  intro name hname hnull
  obtain ⟨hname, -⟩ := List.mem_filter.1 hname
  obtain ⟨cut, hcut, rfl⟩ := List.mem_map.1 hname
  rw [String.toList_ofList] at hnull
  rcases mem_of_mem_splitFrom hcut hnull with hnone | hmem
  · cases hnone
  · exact h hmem

/-- One name more in front is followed in one step, to the next place. -/
theorem ComesTo.cons {next : Place} {name : String} {walked : Walked}
    (h : t.ComesTo next names walked)
    (hstep : ∀ {names last}, t.Denotes 0 next names last → t.Denotes 0 place (name :: names) last) :
    t.ComesTo place (name :: names) walked := by
  cases h with
  | arrived h => exact .arrived (hstep h)
  | met h hname hlink => exact .met (hstep h) hname hlink

theorem comesTo_of_walkNames {walked : Walked} (h : t.walkNames true place names = .ok walked)
    (hnull : ∀ name ∈ names, '\x00' ∉ name.toList) : t.ComesTo place names walked := by
  induction names generalizing place with
  | nil =>
    cases h
    exact .arrived .here
  | cons name rest ih =>
    obtain ⟨hname', hrest⟩ := List.forall_mem_cons.1 hnull
    rw [walkNames] at h
    split at h
    · cases h
    · split at h
      next hname =>
        subst hname
        exact (ih h hrest).cons .parent
      next hname =>
        split at h
        · cases h
        · dsimp only at h
          split at h
          next target hlink =>
            rw [if_neg (by simp)] at h
            cases h
            exact .met .here hname hlink
          next hnone =>
            split at h
            next hend =>
              cases h
              obtain rfl := List.isEmpty_iff.1 hend
              exact .arrived (.name hname hname' (by simp [hnone]) .here)
            next => cases h
          next hlink hentry =>
            refine (ih h hrest).cons (.name hname hname' fun target hhere => ?_)
            exact hlink target (Option.some.inj (hentry.symm.trans hhere))
    · cases h

/-- The place that the system comes to is real. -/
theorem Leads.exists_denotes (ht : t.Proper) (h : t.Leads true links place names last)
    (hnull : ∀ name ∈ names, '\x00' ∉ name.toList) : ∃ n, t.Denotes n place names last := by
  generalize hfollow : true = follow at h
  induction h with
  | arrived hnames =>
    subst hfollow
    cases comesTo_of_walkNames hnames hnull with
    | arrived h => exact ⟨0, h⟩
  | met hnames _ ih =>
    subst hfollow
    cases comesTo_of_walkNames hnames hnull with
    | met hbefore hname hlink =>
    obtain ⟨-, hnull⟩ := List.forall_mem_append.1 hnull
    obtain ⟨-, hrest⟩ := List.forall_mem_cons.1 hnull
    have htarget := noNull_of_mem_namesOf (ht.target hlink)
    obtain ⟨n, hdenotes⟩ := ih (List.forall_mem_append.2 ⟨htarget, hrest⟩)
    obtain ⟨inner, hinner, hdenotes⟩ := denotes_append_iff.1 hdenotes
    exact ⟨n + 1, (hbefore.mono (Nat.zero_le _)).append
      (.link hname hlink hinner (hdenotes.mono (Nat.le_succ n)))⟩

/-- The names of a path are read back from its text. -/
theorem namesOf_text (hp : p.Spelled) : namesOf p.text = p.names :=
  congrArg Path.names (Path.ofText_text hp)

theorem startOf_eq (text : String) (place : Place) :
    startOf text place = if (Path.ofText text).isAbsolute then [] else place := by
  have hstarts : text.startsWith "/" = (Path.ofText text).isAbsolute := by
    rw [Bool.eq_iff_iff, String.startsWith_string_iff]
    unfold Path.ofText Path.isAbsolute Path.rootOf
    cases text.toList with
    | nil => simp
    | cons c cs => split <;> simp_all [eq_comm]
  rw [startOf, hstarts]

/-- A path is followed from the place in which it begins. -/
theorem startOf_text (hp : p.Spelled) : startOf p.text t.workingPlace = t.startPlace p := by
  rw [startOf_eq, Path.ofText_text hp]
  rfl

/-- **The system comes to the real place of a path**, if it comes to a place. -/
theorem realPlace_of_locate (ht : t.Proper) (hp : p.Spelled)
    (h : t.locate true p.text = .ok place) : t.RealPlace p place := by
  obtain ⟨-, hnull, -, links, -, hleads⟩ := locate_ok_iff.1 h
  rw [startOf_text hp] at hleads
  obtain ⟨n, hdenotes⟩ := hleads.exists_denotes ht (noNull_of_mem_namesOf hnull)
  rw [namesOf_text hp] at hdenotes
  exact ⟨n, hdenotes⟩

end Leads

/-! ## Links that lead in a circle -/

/-- A link stands on the way that the target of another link spells. -/
def Meets (t : FileTree) (place next : Place) : Prop :=
  ∃ target before name after n dir, t.at? place = some (.link target) ∧
    namesOf target = before ++ name :: after ∧
      t.Denotes n (startOf target place.dropLast) before dir ∧ name ≠ ".." ∧
        next = dir ++ [name] ∧ ∃ target', t.at? next = some (.link target')

/-- No link is met again on its own way. -/
def NoLoops (t : FileTree) : Prop := ∀ place, ¬ Relation.TransGen t.Meets place place

section NoLoops

variable {t : FileTree} {place : Place} {names : List String} {p : Path} {target : String}

/-- Without circles, following links comes to an end. -/
theorem NoLoops.wellFounded (h : t.NoLoops) : WellFounded fun next place => t.Meets place next := by
  have hfinite (place : Place) : {next | Relation.TransGen t.Meets place next}.Finite := by
    refine (List.finite_toSet (t.entries.map Prod.fst)).subset fun next hnext => ?_
    obtain ⟨_, -, _, _, _, _, _, _, -, -, -, -, rfl, _, hlink⟩ :=
      Relation.TransGen.tail'_iff.1 hnext
    exact List.mem_map.2 ⟨_, mem_entries_of_at? hlink (by simp), rfl⟩
  refine Subrelation.wf (r := InvImage (· < ·) fun place =>
    {next | Relation.TransGen t.Meets place next}.ncard) ?_ (InvImage.wf _ wellFounded_lt)
  intro next place hmeets
  refine Set.ncard_lt_ncard ⟨fun later hlater => .head hmeets hlater, fun hsub => ?_⟩
    (hfinite place)
  exact h next (hsub (.single hmeets))

/-- Without circles, the target of every link has a real place. -/
theorem NoLoops.exists_target (hloops : t.NoLoops) (ht : t.Proper)
    (h : t.at? place = some (.link target)) :
    ∃ n inner, t.Denotes n (startOf target place.dropLast) (namesOf target) inner := by
  induction place using hloops.wellFounded.induction generalizing target with
  | _ place ih =>
    have hnull := noNull_of_mem_namesOf (ht.target h)
    -- one name after the other
    have hprefix : ∀ before after, namesOf target = before ++ after →
        ∃ n dir, t.Denotes n (startOf target place.dropLast) before dir := by
      intro before
      induction before using List.reverseRecOn with
      | nil => exact fun _ _ => ⟨0, _, .here⟩
      | append_singleton before name ihbefore =>
        intro after hnames
        rw [List.append_assoc, List.singleton_append] at hnames
        obtain ⟨n, dir, hdir⟩ := ihbefore _ hnames
        refine hdir.exists_snoc (hnull name (by simp [hnames])) fun target' hname hlink => ?_
        have hmeets : t.Meets place (dir ++ [name]) :=
          ⟨target, before, name, after, n, dir, h, hnames, hdir, hname, rfl, target', hlink⟩
        have hinner := ih _ hmeets hlink
        rwa [List.dropLast_concat] at hinner
    exact hprefix _ [] (by simp)

theorem NoLoops.exists_denotes (hloops : t.NoLoops) (ht : t.Proper) (place : Place)
    (hnull : ∀ name ∈ names, '\x00' ∉ name.toList) : ∃ n last, t.Denotes n place names last := by
  induction names using List.reverseRecOn with
  | nil => exact ⟨0, place, .here⟩
  | append_singleton names name ih =>
    obtain ⟨hnames, hname⟩ := List.forall_mem_append.1 hnull
    obtain ⟨n, dir, hdir⟩ := ih hnames
    refine hdir.exists_snoc (hname name (by simp)) fun target _ hlink => ?_
    have hinner := hloops.exists_target ht hlink
    rwa [List.dropLast_concat] at hinner

/-- **Without circles, a path has a real place** iff there is no zero byte in it. -/
theorem exists_realPlace_iff (ht : t.Proper) (hloops : t.NoLoops) :
    (∃ place, t.RealPlace p place) ↔ p.NoNull := by
  constructor
  · rintro ⟨place, n, h⟩
    exact h.noNull ht
  · intro hnull
    obtain ⟨n, place, h⟩ := hloops.exists_denotes ht (t.startPlace p) hnull
    exact ⟨place, n, h⟩

end NoLoops

end FileTree

end CompilerTest

import CompilerTest.Proofs.FileTree.Following
import CompilerTest.Proofs.OutputDirectories

/-!
# Where output directories are

The output directory of a file is below that of the run, and the names that lead there are those of
places: none of them leads up or somewhere else. Which names these are depends on the place of the
file alone, so files in one directory share their output directory, however the paths to them and
the directory of the tests are spelled (`outDirFor_placed`).
-/

namespace CompilerTest

namespace FileTree

/-- Whether two paths lead to one place: to the same real place, if to any. -/
def SamePlace (t : FileTree) (p q : Path) : Prop :=
  ∀ place, t.RealPlace p place ↔ t.RealPlace q place

section SamePlace

variable {t : FileTree} {p q : Path} {place : Place}

theorem samePlace_of_realPlace (hp : t.RealPlace p place) (hq : t.RealPlace q place) :
    t.SamePlace p q := by
  intro other
  constructor
  · intro h
    rwa [h.unique hp]
  · intro h
    rwa [h.unique hq]

/-- Paths that the system follows to one place lead to one place. -/
theorem samePlace_of_locate (ht : t.Proper) (hp : p.Spelled) (hq : q.Spelled)
    (hplace : t.locate true p.text = .ok place) (hplace' : t.locate true q.text = .ok place) :
    t.SamePlace p q :=
  samePlace_of_realPlace (realPlace_of_locate ht hp hplace) (realPlace_of_locate ht hq hplace')

/-- The names of a real place are those of entries. -/
theorem RealPlace.plain (ht : t.Proper) (hp : p.Spelled) (h : t.RealPlace p place) :
    ∀ name ∈ place, Path.IsPlain name := by
  obtain ⟨n, h⟩ := h
  exact (h.straight (straight_startPlace ht p) hp).plain

end SamePlace

end FileTree

namespace Config

open FileTree (SamePlace RealPlace)

variable {c : Config} {t : FileTree} {f f' root' : Path} {place : Place}

/-! ## The directory of the tests -/

theorem realRoot_of_realPlace (ht : t.Proper) (hroot : c.rootDir.Spelled)
    (h : t.RealPlace c.rootDir place) : c.realRoot t = .ok (some ⟨.single, place⟩) := by
  rw [realRoot, FileTree.realPath_of_realPlace ht hroot h]

theorem realRoot_of_null (ht : t.Proper) (hloops : t.NoLoops) (hroot : c.rootDir.Spelled)
    (h : ¬ c.rootDir.NoNull) : c.realRoot t = .ok none := by
  obtain ⟨shown, hreal⟩ := FileTree.realPath_of_null ht hloops hroot h
  rw [realRoot, hreal]

/-- The real directory of the tests is the same for all paths to it. -/
theorem exists_realRoot (ht : t.Proper) (hloops : t.NoLoops) (c : Config) :
    ∃ root, ∀ c' : Config, c'.rootDir.Spelled → t.SamePlace c.rootDir c'.rootDir →
      c'.realRoot t = .ok root := by
  by_cases hnull : c.rootDir.NoNull
  · obtain ⟨place, hplace⟩ := (FileTree.exists_realPlace_iff ht hloops).2 hnull
    refine ⟨some ⟨.single, place⟩, fun c' hroot' hsame => ?_⟩
    exact realRoot_of_realPlace ht hroot' ((hsame place).1 hplace)
  · refine ⟨none, fun c' hroot' hsame => realRoot_of_null ht hloops hroot' fun hnull' => hnull ?_⟩
    obtain ⟨place, hplace⟩ := (FileTree.exists_realPlace_iff ht hloops).2 hnull'
    exact (FileTree.exists_realPlace_iff ht hloops).1 ⟨place, (hsame place).2 hplace⟩

/-! ## Output directories -/

/-- A place below the output directory is named as the directory is. -/
theorem placeBelow_plain (root : Option Path) {d : Path}
    (hd : ∀ name ∈ d.names, Path.IsPlain name) : ∀ name ∈ placeBelow root d, Path.IsPlain name := by
  rcases placeBelow_cases root d with ⟨base, names, -, rfl, hplace⟩ | ⟨-, hplace⟩
  · rw [hplace]
    exact fun name hname => hd name (List.mem_append_right _ hname)
  · rw [hplace]
    exact List.forall_mem_cons.2 ⟨⟨⟨by decide, by decide⟩, by decide, by decide⟩, hd⟩

/-- **Output directories are below that of the run and depend on the place of the file alone.** Only
a zero byte in the path to the file stands in the way. Nothing is said about what trees and paths do
not describe: names with lone surrogates, texts that are too long for the system to follow a link
behind them, and chains of links that take more than the stack there is. -/
theorem outDirFor_placed (ht : t.Proper) (hloops : t.NoLoops) (hroot : c.rootDir.Spelled)
    (hf : f.Spelled) (hnull : f.parent.NoNull) :
    ∃ names, c.outDirFor t f = .ok (c.outDir.below names) ∧
      (∀ name ∈ names, Path.IsPlain name) ∧
      ∀ f' root' : Path, f'.Spelled → root'.Spelled → t.SamePlace f.parent f'.parent →
        t.SamePlace c.rootDir root' →
          { c with rootDir := root' }.outDirFor t f' = .ok (c.outDir.below names) := by
  obtain ⟨place, hplace⟩ := (FileTree.exists_realPlace_iff ht hloops).2 hnull
  obtain ⟨root, hrealRoot⟩ := exists_realRoot ht hloops c
  have hout : ∀ f' root' : Path, f'.Spelled → root'.Spelled → t.SamePlace f.parent f'.parent →
      t.SamePlace c.rootDir root' → { c with rootDir := root' }.outDirFor t f' =
        .ok (c.outDir.below (placeBelow root ⟨.single, place⟩)) := by
    intro f' root' hf' hroot' hsame hsame'
    have hreal := FileTree.realPath_of_realPlace ht hf'.parent ((hsame place).1 hplace)
    rw [outDirFor, hreal, hrealRoot _ hroot' hsame']
    rfl
  refine ⟨placeBelow root ⟨.single, place⟩, ?_, ?_, hout⟩
  · exact hout f c.rootDir hf hroot (fun _ => Iff.rfl) fun _ => Iff.rfl
  · exact placeBelow_plain root (hplace.plain ht hf.parent)

/-! ### A directory that is reached in two ways -/

/-- A tree with a directory of tests, a link to it, and the directory above it to work in. -/
def aliasTree : FileTree where
  entries :=
    [(["work"], .directory), (["work", "tests"], .directory), (["alias"], .link "work/tests")]
  workingPlace := ["work"]

theorem aliasTree_proper : aliasTree.Proper :=
  FileTree.proper_of_entries (by decide +kernel) rfl

theorem aliasTree_link {place : Place} {target : String}
    (h : aliasTree.at? place = some (.link target)) :
    place = ["alias"] ∧ target = "work/tests" := by
  have hne : place ≠ [] := by
    rintro rfl
    cases h
  simpa [aliasTree] using FileTree.mem_entries_of_at? h hne

/-- No link stands on the way of the link. -/
theorem aliasTree_noLoops : aliasTree.NoLoops := by
  intro place h
  obtain ⟨next, hmeets, -⟩ := Relation.TransGen.head'_iff.1 h
  obtain ⟨target, before, name, after, n, dir, hlink, hnames, -, -, rfl, target', hlink'⟩ := hmeets
  obtain ⟨hnext, -⟩ := aliasTree_link hlink'
  obtain ⟨rfl, rfl⟩ := aliasTree_link hlink
  obtain ⟨-, hname⟩ := (@List.append_singleton_inj _ name "alias" dir []).1 hnext
  have hmem : name ∈ FileTree.namesOf "work/tests" := by simp [hnames]
  rw [hname] at hmem
  revert hmem
  decide

/-- A test, in the working directory of the tree. -/
def directFile : Path := ⟨.relative, ["tests", "a.rs"]⟩

/-- The test, through the link and through directories that are not there. -/
def aliasFile : Path := ⟨.single, ["alias", "missing", "..", "a.rs"]⟩

theorem aliasFile_outDirFor :
    ∃ names, workConfig.outDirFor aliasTree directFile = .ok (workConfig.outDir.below names) ∧
      { workConfig with rootDir := ⟨.relative, ["tests", ".."]⟩ }.outDirFor aliasTree aliasFile =
        .ok (workConfig.outDir.below names) := by
  have htarget : aliasTree.Denotes 0 (FileTree.startOf "work/tests" [])
      (FileTree.namesOf "work/tests") ["work", "tests"] := by
    have hstart : FileTree.startOf "work/tests" [] = [] := by decide +kernel
    have hnames : FileTree.namesOf "work/tests" = ["work", "tests"] := by decide +kernel
    rw [hstart, hnames]
    exact .name (by decide) (by decide) (by rintro _ ⟨⟩)
      (.name (by decide) (by decide) (by rintro _ ⟨⟩) .here)
  have hdirect : aliasTree.RealPlace directFile.parent ["work", "tests"] :=
    ⟨0, .name (by decide) (by decide) (by rintro _ ⟨⟩) .here⟩
  have halias : aliasTree.RealPlace aliasFile.parent ["work", "tests"] :=
    ⟨1, .link (by decide) rfl htarget
      (.name (by decide) (by decide) (by rintro _ ⟨⟩) (.parent .here))⟩
  have hplace : aliasTree.locate true workConfig.rootDir.text = .ok ["work"] := by decide +kernel
  have hsame : aliasTree.SamePlace workConfig.rootDir ⟨.relative, ["tests", ".."]⟩ :=
    FileTree.samePlace_of_locate aliasTree_proper (by decide) (by decide) hplace
      (by decide +kernel)
  obtain ⟨names, hnames, -, hall⟩ :=
    outDirFor_placed aliasTree_proper aliasTree_noLoops (c := workConfig) (f := directFile)
      (by decide) (by decide) (by decide)
  exact ⟨names, hnames, hall _ _ (by decide) (by decide)
    (FileTree.samePlace_of_realPlace hdirect halias) hsame⟩

/-! ### A path that is none -/

/-- The directory of a file has no output directory if there is a zero byte in it. -/
theorem outDirFor_null (ht : t.Proper) (hloops : t.NoLoops) (hf : f.Spelled)
    (hnull : ¬ f.parent.NoNull) :
    ∃ shown, c.outDirFor t f = .error (.file ⟨.hasNull, shown⟩) := by
  obtain ⟨shown, hreal⟩ := FileTree.realPath_of_null ht hloops hf.parent hnull
  refine ⟨shown, ?_⟩
  rw [outDirFor, hreal]
  rfl

/-- Not every path has an output directory. -/
theorem outDirFor_not_total :
    ¬ ∀ (t : FileTree) (c : Config) (f : Path), t.Proper → t.NoLoops → c.rootDir.Spelled →
      f.Spelled → ∃ names, c.outDirFor t f = .ok (c.outDir.below names) ∧
        ∀ name ∈ names, Path.IsPlain name := by
  intro h
  have hf : (⟨.single, ["work", "a\x00b", "t.rs"]⟩ : Path).Spelled := by decide
  obtain ⟨names, hout, -⟩ := h aliasTree workConfig _ aliasTree_proper aliasTree_noLoops
    (by decide) hf
  obtain ⟨shown, hrefused⟩ := outDirFor_null (c := workConfig) aliasTree_proper aliasTree_noLoops
    hf (by decide)
  rw [hrefused] at hout
  cases hout

end Config

end CompilerTest

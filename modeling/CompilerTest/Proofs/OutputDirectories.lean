import CompilerTest.Config.Basic
import CompilerTest.Proofs.Paths

/-!
# Output directories

The artifacts of a directory of the tests go to its place as seen from there, and those of any other
directory go to its absolute place below a directory of their own. Each of these rules keeps
directories apart, but they share the output directory: a directory of the tests whose first name is
that of the directory for the others comes to where one of the others is. Main statement: this is
the only way in which two directories share an output directory (`outDirFor_eq_iff`).
-/

namespace CompilerTest

namespace Config

variable {root : Option Path} {d d₁ d₂ : Path}

/-- Whether a directory of the tests takes the place of another directory: its names go on with that
of the directory for the others and then as the names of the other directory, which is not one of
the tests. -/
def TakesPlace (root : Option Path) (inside outside : Path) : Prop :=
  ∃ base, root = some base ∧ inside = base.below (externalDir :: outside.names) ∧
    ∀ names, outside ≠ base.below names

/-- A directory has a place among the tests or among the others. -/
theorem placeBelow_cases (root : Option Path) (d : Path) :
    (∃ base names, root = some base ∧ d = base.below names ∧ placeBelow root d = names) ∨
      (∀ base names, root = some base → d ≠ base.below names) ∧
        placeBelow root d = externalDir :: d.names := by
  unfold placeBelow
  cases root with
  | none => exact .inr ⟨by simp, rfl⟩
  | some base =>
    rw [Option.bind_some]
    cases hplace : d.relativeTo? base with
    | some names => exact .inl ⟨base, names, rfl, Path.relativeTo?_eq_some_iff.1 hplace, rfl⟩
    | none =>
      refine .inr ⟨fun base' names hbase hd => ?_, rfl⟩
      cases hbase
      rw [Path.relativeTo?_eq_some_iff.2 hd] at hplace
      cases hplace

/-- Two directories at the same root have one place iff they are one or one takes the place of the
other. -/
theorem placeBelow_eq_iff (hroot : d₁.root = d₂.root) :
    placeBelow root d₁ = placeBelow root d₂ ↔
      d₁ = d₂ ∨ TakesPlace root d₁ d₂ ∨ TakesPlace root d₂ d₁ := by
  constructor
  · intro h
    rcases placeBelow_cases root d₁ with ⟨base, names₁, hbase, hd₁, hplace₁⟩ | ⟨hout₁, hplace₁⟩
    · rcases placeBelow_cases root d₂ with ⟨base₂, names₂, hbase₂, hd₂, hplace₂⟩ | ⟨hout₂, hplace₂⟩
      · left
        cases hbase.symm.trans hbase₂
        rw [hd₁, hd₂, ← hplace₁, ← hplace₂, h]
      · right; left
        refine ⟨base, hbase, ?_, fun names => hout₂ base names hbase⟩
        rw [hd₁, ← hplace₁, h, hplace₂]
    · rcases placeBelow_cases root d₂ with ⟨base, names₂, hbase, hd₂, hplace₂⟩ | ⟨hout₂, hplace₂⟩
      · right; right
        refine ⟨base, hbase, ?_, fun names => hout₁ base names hbase⟩
        rw [hd₂, ← hplace₂, ← h, hplace₁]
      · left
        rw [hplace₁, hplace₂] at h
        obtain ⟨root₁, names₁⟩ := d₁
        obtain ⟨root₂, names₂⟩ := d₂
        cases h
        cases hroot
        rfl
  · have htaken : ∀ {inside outside}, TakesPlace root inside outside →
        placeBelow root inside = placeBelow root outside := by
      rintro inside outside ⟨base, rfl, rfl, hout⟩
      have hnone : outside.relativeTo? base = none := by
        cases hplace : outside.relativeTo? base with
        | none => rfl
        | some names => exact absurd (Path.relativeTo?_eq_some_iff.1 hplace) (hout names)
      simp only [placeBelow, Option.bind_some, Path.relativeTo?_eq_some_iff.2 rfl, hnone]
    rintro (rfl | h | h)
    · rfl
    · exact htaken h
    · exact (htaken h).symm

variable {c : Config} {t : FileTree} {f₁ f₂ : Path}

/-- **Output directories keep apart**, those of files in one directory being the same, except for a
directory of the tests that takes the place of one outside. -/
theorem outDirFor_eq_iff (h₁ : t.realPath false f₁.parent = .ok d₁)
    (h₂ : t.realPath false f₂.parent = .ok d₂) (hroot : c.realRoot t = .ok root) :
    ∃ o₁ o₂, c.outDirFor t f₁ = .ok o₁ ∧ c.outDirFor t f₂ = .ok o₂ ∧
      (o₁ = o₂ ↔ d₁ = d₂ ∨ TakesPlace root d₁ d₂ ∨ TakesPlace root d₂ d₁) := by
  have hout : ∀ {f d}, t.realPath false f.parent = .ok d →
      c.outDirFor t f = .ok (c.outDir.below (placeBelow root d)) := by
    intro f d h
    rw [outDirFor, h, hroot]
    rfl
  refine ⟨_, _, hout h₁, hout h₂, ?_⟩
  have hsame : d₁.root = d₂.root :=
    (FileTree.root_of_realPath h₁).trans (FileTree.root_of_realPath h₂).symm
  rw [Path.below_inj]
  exact placeBelow_eq_iff hsame

/-! ## A directory of the tests that takes the place of another -/

/-- A configuration for tests in a directory. -/
def workConfig : Config where
  program := { program := "rustc" }
  rootDir := ⟨.single, ["work"]⟩
  outDir := ⟨.single, ["out"]⟩

/-- A file of a directory of the tests. -/
def insideFile : Path := ⟨.single, ["work", "__external__", "shared", "a.rs"]⟩

/-- A file of a directory outside. -/
def outsideFile : Path := ⟨.single, ["shared", "a.rs"]⟩

theorem outsideFile_outDirFor :
    ∃ o₁ o₂, workConfig.outDirFor default insideFile = .ok o₁ ∧
      workConfig.outDirFor default outsideFile = .ok o₂ ∧ o₁ = o₂ := by
  have h₁ : (default : FileTree).realPath false insideFile.parent =
      .ok ⟨.single, ["work", "__external__", "shared"]⟩ := by decide +kernel
  have h₂ : (default : FileTree).realPath false outsideFile.parent =
      .ok ⟨.single, ["shared"]⟩ := by decide +kernel
  have hroot : workConfig.realRoot default = .ok (some ⟨.single, ["work"]⟩) := by
    decide +kernel
  obtain ⟨o₁, o₂, ho₁, ho₂, hiff⟩ := outDirFor_eq_iff h₁ h₂ hroot
  refine ⟨o₁, o₂, ho₁, ho₂, hiff.2 (.inr (.inl ⟨_, rfl, rfl, ?_⟩))⟩
  intro names
  simp [Path.below]

/-- There are different directories whose artifacts share an output directory. -/
theorem outDirFor_not_injective :
    ¬ ∀ (c : Config) (t : FileTree) (f₁ f₂ d₁ d₂ o₁ o₂ : Path),
      t.realPath false f₁.parent = .ok d₁ → t.realPath false f₂.parent = .ok d₂ → d₁ ≠ d₂ →
      c.outDirFor t f₁ = .ok o₁ → c.outDirFor t f₂ = .ok o₂ → o₁ ≠ o₂ := by
  intro h
  exact h workConfig default insideFile outsideFile ⟨.single, ["work", "__external__", "shared"]⟩
    ⟨.single, ["shared"]⟩ ⟨.single, ["out", "__external__", "shared"]⟩
    ⟨.single, ["out", "__external__", "shared"]⟩ (by decide +kernel) (by decide +kernel) (by decide)
    (by decide +kernel) (by decide +kernel) rfl

end Config

end CompilerTest

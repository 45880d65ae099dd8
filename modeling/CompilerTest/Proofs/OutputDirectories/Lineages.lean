import CompilerTest.Case.Basic
import CompilerTest.Proofs.Outcome
import Mathlib.Data.Fin.Tuple.Basic

/-!
# Cases that share a configuration

The cases of a run refer to one configuration, and a case that is derived from another one refers to
what that one does. A configuration can be changed, and who refers to it sees the change; so a case
gets a copy of its own before its output directory is set. Here the cases that are derived from one
case are kept with what they refer to (`Family`), and a patch consists of assignments. Seen as
values, cases are patched as `Case.patchOutDir` says (`patch_sees`).

Main statement: whatever cases are derived and patched in whatever order, the shared configuration
stays as it is, and a case has the output directory for its file, looked up in the shared
configuration, if it or the case that it was derived from had been patched, and the shared one
otherwise (`config_run`).
-/

namespace CompilerTest

namespace Case

variable {k : Case}

theorem patchOutDir_of_patched (h : k.outDirPatched = true) (t : FileTree) :
    k.patchOutDir t = .ok k := by
  rw [patchOutDir, if_pos h]

theorem patchOutDir_of_unpatched (h : k.outDirPatched = false) (t : FileTree) :
    k.patchOutDir t = (k.config.outDirFor t k.path).map fun outDir =>
      { k with config := { k.config with outDir }, outDirPatched := true } := by
  rw [patchOutDir, if_neg (by simp [h])]
  rfl

end Case

/-- What a case of a family has of its own. -/
structure Member where
  /-- The number of the configuration that it refers to. -/
  config : Nat
  /-- Its revision. -/
  revision : String
  /-- Whether its output directory is already the one for its file. -/
  outDirPatched : Bool

/-- Cases that are derived from one another, with the configurations that they refer to. Number zero
is the configuration that is shared with all other cases. -/
structure Family (n : Nat) where
  /-- The configurations under their numbers. -/
  configs : Nat → Config
  /-- The number of configurations. -/
  count : Nat
  /-- The cases, in the order in which they were made. -/
  members : Fin n → Member

namespace Family

/-! ## Assignments -/

/-- A member as a value. What all members have in common is that of the first one. -/
def view {n : Nat} (c : Case) (s : Family n) (i : Fin n) : Case :=
  { c with
    config := s.configs (s.members i).config
    revision := (s.members i).revision
    outDirPatched := (s.members i).outDirPatched }

/-- The family of a case from which none was derived yet. -/
def start (c : Case) : Family 1 where
  configs _ := c.config
  count := 1
  members _ := ⟨0, c.revision, c.outDirPatched⟩

section Assignments

variable {n : Nat} (s : Family n) (i : Fin n)

/-- Lets a member refer to a copy of its configuration. -/
def copyConfig : Family n where
  configs := Function.update s.configs s.count (s.configs (s.members i).config)
  count := s.count + 1
  members := Function.update s.members i { s.members i with config := s.count }

/-- Sets the output directory in the configuration that a member refers to. -/
def setOutDir (outDir : Path) : Family n :=
  let number := (s.members i).config
  { s with configs := Function.update s.configs number { s.configs number with outDir } }

/-- Notes that the output directory of a member is the one for its file. -/
def markPatched : Family n :=
  { s with members := Function.update s.members i { s.members i with outDirPatched := true } }

/-- Sets the output directory of a member to the one for its file, unless that was done before. -/
def patch (c : Case) (t : FileTree) : Family n × Except ResolveError Unit :=
  if (s.members i).outDirPatched then (s, .ok ())
  else
    let s := s.copyConfig i
    match (s.view c i).config.outDirFor t c.path with
    | .ok outDir => ((s.setOutDir i outDir).markPatched i, .ok ())
    | .error e => (s, .error e)

/-- Derives a case from a member, under another revision. -/
def derive (revision : String) : Family (n + 1) where
  configs := s.configs
  count := s.count
  members := Fin.snoc s.members { s.members i with revision }

end Assignments

/-! ## What a patch does to values -/

/-- Whether members refer to configurations that there are. -/
structure Sound {n : Nat} (s : Family n) : Prop where
  shared : 0 < s.count
  known (i : Fin n) : (s.members i).config < s.count

/-- Whether a member refers to a configuration that nobody else refers to. -/
structure Owns {n : Nat} (s : Family n) (i : Fin n) : Prop where
  notShared : (s.members i).config ≠ 0
  alone (j : Fin n) (h : j ≠ i) : (s.members j).config ≠ (s.members i).config

section Patch

variable {n : Nat} {s : Family n} {c : Case} {t : FileTree}

@[simp] theorem view_path (c : Case) (s : Family n) (i : Fin n) : (s.view c i).path = c.path := rfl

theorem view_copyConfig (hs : s.Sound) (c : Case) (i j : Fin n) :
    (s.copyConfig i).view c j = s.view c j := by
  have hknown (j : Fin n) : (s.members j).config ≠ s.count := (hs.known j).ne
  by_cases hj : j = i
  · subst hj
    simp [view, copyConfig]
  · simp [view, copyConfig, hj, hknown j]

theorem sound_copyConfig (hs : s.Sound) (i : Fin n) : (s.copyConfig i).Sound where
  shared := Nat.succ_pos _
  known j := by
    by_cases hj : j = i
    · subst hj
      simp [copyConfig]
    · simpa [copyConfig, hj] using Nat.lt_succ_of_lt (hs.known j)

theorem owns_copyConfig (hs : s.Sound) (i : Fin n) : (s.copyConfig i).Owns i where
  notShared := by simpa [copyConfig] using hs.shared.ne'
  alone j hj := by simpa [copyConfig, hj] using (hs.known j).ne

theorem view_setOutDir {i : Fin n} (h : s.Owns i) (c : Case) (outDir : Path) (j : Fin n) :
    (s.setOutDir i outDir).view c j =
      if j = i then { s.view c i with config := { (s.view c i).config with outDir } }
      else s.view c j := by
  split
  next hj =>
    subst hj
    simp [view, setOutDir]
  next hj => simp [view, setOutDir, h.alone j hj]

theorem view_markPatched (c : Case) (i j : Fin n) :
    (s.markPatched i).view c j =
      if j = i then { s.view c i with outDirPatched := true } else s.view c j := by
  split
  next hj =>
    subst hj
    simp [view, markPatched]
  next hj => simp [view, markPatched, hj]

/-- What can be seen of a patch: it is that of the value, and nothing else is changed. -/
structure Sees (c : Case) (t : FileTree) (s : Family n) (i : Fin n)
    (outcome : Family n × Except ResolveError Unit) : Prop where
  sound : outcome.1.Sound
  shared : outcome.1.configs 0 = s.configs 0
  others (j : Fin n) (h : j ≠ i) : outcome.1.view c j = s.view c j
  own : (outcome.2.map fun _ => outcome.1.view c i) = (s.view c i).patchOutDir t
  refused (e : ResolveError) (h : outcome.2 = .error e) : outcome.1.view c i = s.view c i

/-- **A patch is seen as the patch of a value.** -/
theorem patch_sees (hs : s.Sound) (c : Case) (t : FileTree) (i : Fin n) :
    Sees c t s i (s.patch i c t) := by
  have hview := view_copyConfig hs c i
  have hshared : (s.copyConfig i).configs 0 = s.configs 0 := by
    simp [copyConfig, hs.shared.ne]
  unfold patch
  split
  next hdone =>
    refine ⟨hs, rfl, fun _ _ => rfl, ?_, fun _ _ => rfl⟩
    rw [Case.patchOutDir_of_patched hdone]
    rfl
  next hnew =>
    have hpatch := Case.patchOutDir_of_unpatched
      (Bool.eq_false_of_not_eq_true hnew : (s.view c i).outDirPatched = false) t
    have howns := owns_copyConfig hs i
    have hsound := sound_copyConfig hs i
    dsimp only
    rw [hview]
    cases hout : (s.view c i).config.outDirFor t c.path with
    | error e =>
      refine ⟨hsound, hshared, fun j _ => hview j, ?_, fun _ _ => hview i⟩
      rw [hpatch, view_path, hout]
      rfl
    | ok outDir =>
      refine ⟨⟨hsound.shared, fun j => ?_⟩, ?_, fun j hj => ?_, ?_, fun _ h => by cases h⟩
      · by_cases hj : j = i
        · subst hj
          simpa [markPatched, setOutDir] using hsound.known j
        · simpa [markPatched, setOutDir, hj] using hsound.known j
      · simpa [markPatched, setOutDir, howns.notShared.symm] using hshared
      · rw [view_markPatched, if_neg hj, view_setOutDir howns, if_neg hj, hview]
      · rw [hpatch, view_path, hout]
        simp [view_markPatched, view_setOutDir howns, hview, Except.map]

end Patch

/-! ## What deriving does to values -/

section Derive

variable {n : Nat} {s : Family n}

/-- What is derived is seen as derived from a value. -/
theorem view_derive_last (c : Case) (s : Family n) (i : Fin n) (revision : String) :
    (s.derive i revision).view c (Fin.last n) = (s.view c i).withRevision revision := by
  simp [view, derive, Case.withRevision]

theorem view_derive_castSucc (c : Case) (s : Family n) (i j : Fin n) (revision : String) :
    (s.derive i revision).view c j.castSucc = s.view c j := by
  simp [view, derive]

theorem sound_derive (hs : s.Sound) (i : Fin n) (revision : String) :
    (s.derive i revision).Sound where
  shared := hs.shared
  known j := by
    cases j using Fin.lastCases with
    | last => simpa [derive] using hs.known i
    | cast j => simpa [derive] using hs.known j

end Derive

/-! ## Runs -/

/-- What is done with a case and the cases that are derived from it. -/
inductive History : Nat → Type where
  /-- There is one case. -/
  | start : History 1
  /-- The output directory of a case is patched. -/
  | patch {n : Nat} (h : History n) (i : Fin n) : History n
  /-- A case is derived from a case. -/
  | derive {n : Nat} (h : History n) (i : Fin n) (revision : String) : History (n + 1)

/-- The family after a history, in a file tree. -/
def run (c : Case) (t : FileTree) : {n : Nat} → History n → Family n
  | _, .start => start c
  | _, .patch h i => ((run c t h).patch i c t).1
  | _, .derive h i revision => (run c t h).derive i revision

/-- Whether a case or, when it was derived, the case that it was derived from had been patched. A
patch that is refused does not count. -/
def Patched (c : Case) (t : FileTree) : {n : Nat} → History n → Fin n → Prop
  | _, .start, _ => False
  | _, .patch h i, j =>
    Patched c t h j ∨ j = i ∧ ∃ outDir, c.config.outDirFor t c.path = .ok outDir
  | _, .derive h i _, j => Fin.snoc (α := fun _ => Prop) (Patched c t h) (Patched c t h i) j

/-- A case as it is made of the shared configuration. -/
structure MadeFrom (c : Case) (t : FileTree) (patched : Prop) (k : Case) : Prop where
  unpatched (h : ¬ patched) : k.config = c.config ∧ k.outDirPatched = false
  patched (h : patched) : ∃ outDir, c.config.outDirFor t c.path = .ok outDir ∧
    k.config = { c.config with outDir } ∧ k.outDirPatched = true

section Run

variable {n : Nat} {s : Family n} {c : Case} {t : FileTree}

/-- A patch looks the output directory up in the shared configuration, and only once. -/
theorem MadeFrom.patch {patched : Prop} {k : Case} (h : MadeFrom c t patched k)
    (hpath : k.path = c.path) :
    (∃ k', k.patchOutDir t = .ok k' ∧ MadeFrom c t True k') ∨
      ∃ e, k.patchOutDir t = .error e ∧ c.config.outDirFor t c.path = .error e := by
  by_cases hpatched : patched
  · have hdone := h.patched hpatched
    obtain ⟨-, -, -, hflag⟩ := hdone
    exact .inl ⟨k, Case.patchOutDir_of_patched hflag t, by simp, fun _ => h.patched hpatched⟩
  · obtain ⟨hconfig, hflag⟩ := h.unpatched hpatched
    rw [Case.patchOutDir_of_unpatched hflag, hconfig, hpath]
    cases hout : c.config.outDirFor t c.path with
    | error e => exact .inr ⟨e, rfl, rfl⟩
    | ok outDir => exact .inl ⟨_, rfl, by simp, fun _ => ⟨outDir, hout, rfl, rfl⟩⟩

theorem MadeFrom.withRevision {patched : Prop} {k : Case} (h : MadeFrom c t patched k)
    (revision : String) : MadeFrom c t patched (k.withRevision revision) where
  unpatched := h.unpatched
  patched := h.patched

theorem MadeFrom.congr {p q : Prop} {k : Case} (h : MadeFrom c t p k) (hpq : p ↔ q) :
    MadeFrom c t q k := propext hpq ▸ h

/-- What is patched is made of the shared configuration with the output directory for its file, and
what is not is as it was. -/
theorem Sees.madeFrom {patched : Prop} {i : Fin n} {outcome : Family n × Except ResolveError Unit}
    (h : Sees c t s i outcome) (hi : MadeFrom c t patched (s.view c i)) :
    MadeFrom c t (patched ∨ ∃ outDir, c.config.outDirFor t c.path = .ok outDir)
      (outcome.1.view c i) := by
  obtain ⟨s', result⟩ := outcome
  have hown := h.own
  rcases hi.patch (view_path c s i) with ⟨k', hpatch, hk'⟩ | ⟨e, hpatch, hout⟩
  · rw [hpatch] at hown
    cases result with
    | error e => cases hown
    | ok =>
      obtain rfl := Except.ok.inj hown
      obtain ⟨outDir, hout, -⟩ := hk'.patched trivial
      exact hk'.congr ⟨fun _ => .inr ⟨outDir, hout⟩, fun _ => trivial⟩
  · rw [hpatch] at hown
    cases result with
    | ok => cases hown
    | error e' =>
      rw [h.refused e' rfl]
      exact hi.congr (by simp [hout])

/-- What holds of a family after every history. -/
structure Kept (c : Case) (t : FileTree) (patched : Fin n → Prop) (s : Family n) : Prop where
  sound : s.Sound
  shared : s.configs 0 = c.config
  madeFrom (i : Fin n) : MadeFrom c t (patched i) (s.view c i)

theorem Kept.patch {patched : Fin n → Prop} (h : Kept c t patched s) (i : Fin n) :
    Kept c t (fun j => patched j ∨ j = i ∧ ∃ outDir, c.config.outDirFor t c.path = .ok outDir)
      (s.patch i c t).1 := by
  have hsees := patch_sees h.sound c t i
  refine ⟨hsees.sound, hsees.shared.trans h.shared, fun j => ?_⟩
  by_cases hj : j = i
  · subst hj
    simpa using hsees.madeFrom (h.madeFrom j)
  · rw [hsees.others j hj]
    exact (h.madeFrom j).congr (by simp [hj])

theorem Kept.derive {patched : Fin n → Prop} (h : Kept c t patched s) (i : Fin n)
    (revision : String) :
    Kept c t (Fin.snoc (α := fun _ => Prop) patched (patched i)) (s.derive i revision) := by
  refine ⟨sound_derive h.sound i revision, h.shared, fun j => ?_⟩
  cases j using Fin.lastCases with
  | last =>
    rw [view_derive_last, Fin.snoc_last]
    exact (h.madeFrom i).withRevision revision
  | cast j =>
    rw [view_derive_castSucc, Fin.snoc_castSucc]
    exact h.madeFrom j

theorem kept_run (hc : c.outDirPatched = false) (t : FileTree) (h : History n) :
    Kept c t (Patched c t h) (run c t h) := by
  induction h with
  | start =>
    refine ⟨⟨Nat.one_pos, fun _ => Nat.one_pos⟩, rfl, fun _ => ⟨fun _ => ⟨rfl, hc⟩, ?_⟩⟩
    intro hpatched
    cases hpatched
  | patch h i ih => exact ih.patch i
  | derive h i revision ih => exact ih.derive i revision

/-- What becomes of a case and of the cases that are derived from it. -/
structure Configured (c : Case) (t : FileTree) (h : History n) : Prop where
  /-- The shared configuration is never changed. -/
  shared : (run c t h).configs 0 = c.config
  /-- A case that is not patched has the shared configuration. -/
  unpatched (i : Fin n) (hi : ¬ Patched c t h i) : ((run c t h).view c i).config = c.config
  /-- A case that is patched has the output directory for its file, as the shared configuration
  says, and all else as it is in the shared configuration. -/
  patched (i : Fin n) (hi : Patched c t h i) : ∃ outDir,
    c.config.outDirFor t c.path = .ok outDir ∧
      ((run c t h).view c i).config = { c.config with outDir }
  /-- It is not patched again, even if files have changed. -/
  once (i : Fin n) (hi : Patched c t h i) (t' : FileTree) :
    (run c t h).patch i c t' = (run c t h, .ok ())
  /-- A patch is seen as the patch of a case, and no other case is changed. -/
  patch (i : Fin n) :
    (((run c t h).patch i c t).2.map fun _ => (run c t (h.patch i)).view c i) =
      ((run c t h).view c i).patchOutDir t ∧
    ∀ j ≠ i, (run c t (h.patch i)).view c j = (run c t h).view c j
  /-- What is derived is seen as derived from a case, and no other case is changed. -/
  derive (i : Fin n) (revision : String) :
    (run c t (h.derive i revision)).view c (Fin.last n) =
      ((run c t h).view c i).withRevision revision ∧
    ∀ j : Fin n, (run c t (h.derive i revision)).view c j.castSucc = (run c t h).view c j

/-- **The output directory is set once and the shared configuration is never changed.** -/
theorem config_run (hc : c.outDirPatched = false) (t : FileTree) (h : History n) :
    Configured c t h where
  shared := (kept_run hc t h).shared
  unpatched i hi := (((kept_run hc t h).madeFrom i).unpatched hi).1
  patched i hi := by
    obtain ⟨outDir, hout, hconfig, -⟩ := ((kept_run hc t h).madeFrom i).patched hi
    exact ⟨outDir, hout, hconfig⟩
  once i hi t' := by
    obtain ⟨-, -, -, hflag⟩ := ((kept_run hc t h).madeFrom i).patched hi
    exact if_pos hflag
  patch i := by
    have hsees := patch_sees (kept_run hc t h).sound c t i
    exact ⟨hsees.own, hsees.others⟩
  derive i revision :=
    ⟨view_derive_last c _ i revision, fun j => view_derive_castSucc c _ i j revision⟩

/-! ### Cases of one file -/

/-- A test of a nested directory, with a configuration that is shared. -/
def nestedCase : Case where
  config :=
    { program := { program := "rustc" }, rootDir := ⟨.single, ["work"]⟩,
      outDir := ⟨.single, ["work", "target"]⟩ }
  revision := ""
  directives := default
  path := ⟨.single, ["work", "nested", "foo.rs"]⟩
  auxDir := ⟨.single, ["work", "auxiliary"]⟩

/-- A case is derived before the first one is patched, another one after that, and the latter is
patched again. -/
def nestedHistory : History 3 := (((History.start.derive 0 "a").patch 0).derive 0 "b").patch 2

theorem nestedCase_configs :
    (run nestedCase default nestedHistory).configs 0 = nestedCase.config ∧
      ((run nestedCase default nestedHistory).view nestedCase 1).config = nestedCase.config ∧
      ∃ outDir, nestedCase.config.outDirFor default nestedCase.path = .ok outDir ∧
        ((run nestedCase default nestedHistory).view nestedCase 2).config =
          { nestedCase.config with outDir } := by
  have hconfigured := config_run (c := nestedCase) rfl default nestedHistory
  have hout : nestedCase.config.outDirFor default nestedCase.path =
      .ok ⟨.single, ["work", "target", "nested"]⟩ := by decide +kernel
  have hnot : ¬ Patched nestedCase default nestedHistory 1 := by
    simp [nestedHistory, Patched, Fin.snoc]
  have hpatched : Patched nestedCase default nestedHistory 2 := .inr ⟨rfl, _, hout⟩
  exact ⟨hconfigured.shared, hconfigured.unpatched 1 hnot, hconfigured.patched 2 hpatched⟩

end Run

end Family

end CompilerTest

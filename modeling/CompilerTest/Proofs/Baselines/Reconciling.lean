import CompilerTest.Proofs.Baselines.Edits
import CompilerTest.Proofs.Baselines.RoundTrip
import CompilerTest.Proofs.Builds.Request

/-!
# Each output and its own file

Reconciling output with the expected output goes wrong before it changes a file, or completes with a
single edit of the file of its own. So what it does is not seen by a call for another file, and two
calls can change places (`checkOutput_apart`).
-/

namespace CompilerTest

namespace Run

variable {α β : Type}

/-- A step that goes wrong leaves everything as it was. -/
def AllOrNothing (x : Run α) : Prop := ∀ ⦃s s' e⦄, outcome x s = (.error e, s') → s' = s

theorem Leaves.allOrNothing {x : Run α} (hx : Leaves id x) : AllOrNothing x := by
  intro s s' e h
  have hsame := hx s
  rwa [h] at hsame

theorem Leaves.bind_allOrNothing {x : Run α} {f : α → Run β} (hx : Leaves id x)
    (hf : ∀ a, AllOrNothing (f a)) : AllOrNothing (x >>= f) := by
  intro s s' e h
  have hsame := hx s
  rw [outcome_bind] at h
  rcases hfirst : outcome x s with ⟨fault | a, u⟩ <;> rw [hfirst] at h hsame <;> cases hsame
  · cases h
    rfl
  · exact hf a h

/-- Two steps that complete in either order give the same results and leave the same files. -/
def CommuteAt (s : Session) (x : Run α) (y : Run β) : Prop :=
  ∀ ⦃a a' b b' u v u' v'⦄, outcome x s = (.ok a, u) → outcome y u = (.ok b, v) →
    outcome y s = (.ok b', u') → outcome x u' = (.ok a', v') →
    a = a' ∧ b = b' ∧ FileTree.SameEntries v.tree v'.tree

end Run

namespace Case

open FileTree

/-! ## A call and its edit -/

section Edit

variable {t t' u u' : FileTree} {path : Path} {output : Bytes} {handling : ConflictHandling}

/-- Reconciling changes nothing unless it blesses, and then it is an edit. -/
theorem Reconciled.change (h : Reconciled path output handling t t') :
    ∃ change : Change, t' = change.apply t ∧
      (change = none ∨ Edit t path.text output change) := by
  cases h with
  | compared | absent | ignored => exact ⟨none, rfl, .inl rfl⟩
  | blessed h =>
    obtain ⟨change, happly, hedit⟩ := edit_of_blessed h
    exact ⟨change, happly, .inr hedit⟩

/-- Reconciling spares what does not lead to the same file. -/
theorem Reconciled.spares {other : String} (h : Reconciled path output handling t t')
    (ha : t.Apart path.text other) : Spared t t' other := by
  obtain ⟨change, rfl, rfl | hedit⟩ := h.change
  · exact .refl t other
  · exact hedit.spares ha

/-- What is spared is reconciled by the same change as before. -/
theorem Reconciled.again (h : Reconciled path output handling t t') (hs : Spared t u path.text)
    (h' : Reconciled path output handling u u') :
    ∃ change : Change, t' = change.apply t ∧ u' = change.apply u ∧
      (change = none ∨ Edit t path.text output change) := by
  cases h with
  | compared | absent => cases h' <;> exact ⟨none, rfl, rfl, .inl rfl⟩
  | ignored =>
    cases h'
    exact ⟨none, rfl, rfl, .inl rfl⟩
  | blessed h =>
    cases h' with
    | blessed h' =>
      obtain ⟨change, happly, hedit⟩ := edit_of_blessed h
      obtain ⟨change', happly', hedit'⟩ := edit_of_blessed h'
      rw [hedit.again hs hedit'] at happly'
      exact ⟨change, happly, happly', .inr hedit⟩

/-- What is spared is compared with the same expected output as before. -/
theorem baseline_of_spared (hs : Spared t u path.text) (h : Reconciled path output .error t t')
    (h' : Reconciled path output .error u u') : baseline u path = baseline t path := by
  cases h with
  | compared hread => rw [baseline, baseline, hread, hs.read_iff.2 hread]
  | absent hread =>
    cases h' with
    | compared hread' =>
      rw [hs.read_iff.1 hread'] at hread
      cases hread
    | absent hread' => rw [baseline, baseline, hread, hread']

end Edit

/-! ## What one call does -/

section Call

variable {c : Case} {output : Bytes} {kind : String} {s s' : Session} {path : Path}
  {result : Path × List Discrepancy}

theorem allOrNothing_bless (path : Path) (output : Bytes) :
    Run.AllOrNothing (bless path output) := by
  intro s s' e h
  rcases hblessed : blessed s.tree path output with problem | t
  · rw [bless, outcome_bind_of_ok (Run.outcome_tree s), outcome_bind, hblessed] at h
    cases h
    rfl
  · obtain ⟨_, -, hok⟩ := outcome_bless hblessed
    rw [h] at hok
    cases hok

theorem allOrNothing_checkOutput (c : Case) (output : Bytes) (kind : String) :
    Run.AllOrNothing (c.checkOutput output kind) := by
  unfold checkOutput
  refine (Run.leaves_lift _).bind_allOrNothing fun normalized =>
    (Run.leaves_lift _).bind_allOrNothing fun path => ?_
  split
  · refine Run.Leaves.allOrNothing (Run.leaves_tree.bind fun t =>
      (Run.leaves_liftFile _).bind fun expected => ?_)
    split
    · exact Run.leaves_pure _
    · exact Run.leaves_pure _
  · intro s s' e h
    rw [outcome_bind] at h
    rcases hbless : outcome (bless path normalized) s with ⟨fault | _, u⟩ <;> rw [hbless] at h
    · cases h
      exact allOrNothing_bless path normalized hbless
    · cases h
  · exact (Run.leaves_pure _).allOrNothing

/-- A call that completes has reconciled the output with its own file. -/
theorem checkOutput_ok (h : outcome (c.checkOutput output kind) s = (.ok result, s')) :
    ∃ path normalized, c.outputPath kind = .ok path ∧ c.normalize output kind = .ok normalized ∧
      Reconciled path normalized c.config.handling s.tree s'.tree ∧
      result = (path, outputConflict c s.tree path normalized) := by
  obtain ⟨path, normalized, hp, hn, hr⟩ := reconciled_of_checkOutput h
  obtain ⟨u, -, hu⟩ := outcome_checkOutput hn hp hr
  rw [h] at hu
  cases hu
  exact ⟨path, normalized, hp, hn, hr, rfl⟩

/-- A call that reconciles output touches the file of its own kind alone. -/
structure TouchesOwn (c : Case) (output : Bytes) (kind : String) (s : Session) : Prop where
  /-- A call that goes wrong has changed nothing. -/
  failed {e : Fault} {s' : Session}
    (h : outcome (c.checkOutput output kind) s = (.error e, s')) : s' = s
  /-- A call goes wrong if the output cannot be normalized. -/
  unnormalized {e : Fault} (h : c.normalize output kind = .error e) :
    outcome (c.checkOutput output kind) s = (.error e, s)
  /-- Unless differences are blessed, no file is changed. -/
  unblessed (h : c.config.handling ≠ .bless) :
    (outcome (c.checkOutput output kind) s).2.tree = s.tree
  /-- Nothing changes but the file. -/
  elsewhere {path : Path} (hpath : c.outputPath kind = .ok path)
    (hlink : ¬ s.tree.IsLink path.text) {place : Place}
    (hplace : s.tree.locate false path.text ≠ .ok place) :
    (outcome (c.checkOutput output kind) s).2.tree.at? place = s.tree.at? place
  /-- The working directory stays. -/
  workingPlace_eq :
    (outcome (c.checkOutput output kind) s).2.tree.workingPlace = s.tree.workingPlace
  /-- Blessing that completes leaves the normalized output in the file, or no file for none. -/
  blessed {path : Path} (hpath : c.outputPath kind = .ok path)
    (hlink : ¬ s.tree.IsLink path.text) (hbless : c.config.handling = .bless)
    {result : Path × List Discrepancy} {s' : Session}
    (h : outcome (c.checkOutput output kind) s = (.ok result, s')) :
    result = (path, []) ∧
      ∃ normalized, c.normalize output kind = .ok normalized ∧ Settled s'.tree path normalized

/-- A call leaves the files as they are, or it blesses. -/
theorem tree_checkOutput (c : Case) (output : Bytes) (kind : String) (s : Session) :
    (outcome (c.checkOutput output kind) s).2.tree = s.tree ∨
    c.config.handling = .bless ∧ ∃ path normalized, c.outputPath kind = .ok path ∧
      Case.blessed s.tree path normalized =
        .ok (outcome (c.checkOutput output kind) s).2.tree := by
  rcases houtcome : outcome (c.checkOutput output kind) s with ⟨e | result, u⟩
  · exact .inl (congrArg Session.tree (allOrNothing_checkOutput c output kind houtcome))
  · obtain ⟨path, normalized, hp, -, hr⟩ := reconciled_of_checkOutput houtcome
    generalize c.config.handling = handling at hr ⊢
    generalize u.tree = after at hr ⊢
    cases hr with
    | compared | absent | ignored => exact .inl rfl
    | blessed h => exact .inr ⟨rfl, path, normalized, hp, h⟩

theorem touchesOwn_checkOutput (c : Case) (output : Bytes) (kind : String) (s : Session) :
    c.TouchesOwn output kind s where
  failed h := allOrNothing_checkOutput c output kind h
  unnormalized h := by
    rw [checkOutput, h]
    rfl
  unblessed h := by
    obtain hsame | ⟨hbless, -⟩ := tree_checkOutput c output kind s
    · exact hsame
    · exact absurd hbless h
  elsewhere {path} hpath hlink {place} hplace := by
    obtain hsame | ⟨-, path', normalized, hpath', hbless⟩ := tree_checkOutput c output kind s
    · rw [hsame]
    · rw [hpath] at hpath'
      cases hpath'
      exact at?_of_blessed hlink hbless hplace
  workingPlace_eq := by
    obtain hsame | ⟨-, path, normalized, -, hbless⟩ := tree_checkOutput c output kind s
    · rw [hsame]
    · obtain ⟨change, happly, -⟩ := edit_of_blessed hbless
      rw [happly, workingPlace_apply]
  blessed {path} hpath hlink hbless {result s'} h := by
    obtain ⟨path', normalized, hpath', hn, hr, hresult⟩ := checkOutput_ok h
    rw [hpath] at hpath'
    cases hpath'
    rw [hbless] at hr
    refine ⟨by simp [hresult, outputConflict, hbless], normalized, hn, ?_⟩
    exact settled_of_blessed hlink (blessed_of_reconciled hr)

end Call

/-! ## Calls for different files -/

section Commute

variable {c d : Case} {output output' : Bytes} {kind kind' : String} {s : Session}
  {path path' : Path}

theorem outputConflict_of_spared {t u t' u' : FileTree} {output : Bytes}
    (hs : Spared t u path.text) (h : Reconciled path output c.config.handling t t')
    (h' : Reconciled path output c.config.handling u u') :
    outputConflict c u path output = outputConflict c t path output := by
  by_cases herror : c.config.handling = .error
  · rw [herror] at h h'
    rw [outputConflict, outputConflict, baseline_of_spared hs h h']
  · simp [outputConflict, herror]

/-- Changes that spare each other can be made in either order. -/
theorem sameEntries_of_reconciled {t u v u' v' : FileTree} {handling handling' : ConflictHandling}
    (ha : t.Apart path.text path'.text)
    (hu : Reconciled path output handling t u) (hv : Reconciled path' output' handling' u v)
    (hu' : Reconciled path' output' handling' t u') (hv' : Reconciled path output handling u' v') :
    Spared t u path'.text ∧ Spared t u' path.text ∧ SameEntries v v' := by
  have hspared := hu.spares ha
  have hspared' := hu'.spares ha.symm
  obtain ⟨change, rfl, rfl, hedit⟩ := hu.again hspared' hv'
  obtain ⟨change', rfl, rfl, hedit'⟩ := hu'.again hspared hv
  refine ⟨hspared, hspared', ?_⟩
  rcases change with _ | ⟨place, entry⟩
  · exact .refl _
  rcases change' with _ | ⟨place', entry'⟩
  · exact .refl _
  obtain hnone | hedit := hedit
  · cases hnone
  obtain hnone | hedit' := hedit'
  · cases hnone
  obtain ⟨follow, hplace'⟩ := hedit'.located
  refine apply_comm hedit.ne_nil hedit'.ne_nil ?_ entry entry' t
  rintro rfl
  exact hedit.place_ne ha follow hplace'

theorem commuteAt_checkOutput (hpath : c.outputPath kind = .ok path)
    (hpath' : d.outputPath kind' = .ok path') (ha : s.tree.Apart path.text path'.text) :
    Run.CommuteAt s (c.checkOutput output kind) (d.checkOutput output' kind') := by
  intro a a' b b' u v u' v' hu hv hu' hv'
  obtain ⟨_, normalized, hp, hn, hru, rfl⟩ := checkOutput_ok hu
  obtain ⟨_, normalized', hp', hn', hrv, rfl⟩ := checkOutput_ok hv
  obtain ⟨_, _, hp₂', hn₂', hru', rfl⟩ := checkOutput_ok hu'
  obtain ⟨_, _, hp₂, hn₂, hrv', rfl⟩ := checkOutput_ok hv'
  cases hpath.symm.trans hp
  cases hpath'.symm.trans hp'
  cases hp.symm.trans hp₂
  cases hp'.symm.trans hp₂'
  cases hn.symm.trans hn₂
  cases hn'.symm.trans hn₂'
  obtain ⟨hspared, hspared', hsame⟩ := sameEntries_of_reconciled ha hru hrv hru' hrv'
  rw [outputConflict_of_spared hspared hru' hrv, outputConflict_of_spared hspared' hru hrv']
  exact ⟨rfl, rfl, hsame⟩

end Commute

/-- **Each call touches its own file.** -/
theorem checkOutput_apart (c d : Case) (output output' : Bytes) (kind kind' : String)
    (s : Session) :
    c.TouchesOwn output kind s ∧
    ∀ path path', c.outputPath kind = .ok path → d.outputPath kind' = .ok path' →
      s.tree.Apart path.text path'.text →
      Run.CommuteAt s (c.checkOutput output kind) (d.checkOutput output' kind') :=
  ⟨touchesOwn_checkOutput c output kind s, fun _ _ => commuteAt_checkOutput⟩

/-- Files with expected error output behind a link, and without expected output. -/
def sharedTree : FileTree where
  entries := [
    (["shared"], .directory),
    (["shared", "old.stderr"], .file (Bytes.ofText "error: old\n") false),
    (["t.stderr"], .link "shared/old.stderr")]
  workingPlace := []

theorem apart_sharedTree : sharedTree.Apart "t.stdout" "t.stderr" := by
  have hstdout : sharedTree.locate true "t.stdout" = .ok ["t.stdout"] := by decide +kernel
  have hstderr : sharedTree.locate true "t.stderr" = .ok ["shared", "old.stderr"] := by
    decide +kernel
  exact apart_of_files (resolves_of_locate hstdout) (resolves_of_locate hstderr) (by decide)
    (by decide) (by decide)

/-- Blessing output puts a file there, and blessing the lack of error output takes the link away. -/
theorem shared_checkOutput_apart :
    ∃ u v u' v' : Session,
      outcome ((outdated.under .bless).checkOutput (Bytes.ofText "done\n") "stdout")
        { tree := sharedTree } = (.ok (⟨.relative, ["t.stdout"]⟩, []), u) ∧
      outcome ((outdated.under .bless).checkOutput [] "stderr") u =
        (.ok (⟨.relative, ["t.stderr"]⟩, []), v) ∧
      outcome ((outdated.under .bless).checkOutput [] "stderr") { tree := sharedTree } =
        (.ok (⟨.relative, ["t.stderr"]⟩, []), u') ∧
      outcome ((outdated.under .bless).checkOutput (Bytes.ofText "done\n") "stdout") u' =
        (.ok (⟨.relative, ["t.stdout"]⟩, []), v') ∧
      Settled u.tree ⟨.relative, ["t.stdout"]⟩ (Bytes.ofText "done\n") ∧
      u.tree.at? ["t.stderr"] = some (.link "shared/old.stderr") ∧
      SameEntries v.tree v'.tree ∧ v.tree.at? ["t.stderr"] = none := by
  have hcall (output : Bytes) (kind : String) (path : Path) (s : Session) (t' : FileTree)
      (hn : (outdated.under .bless).normalize output kind = .ok output)
      (hp : (outdated.under .bless).outputPath kind = .ok path)
      (hb : blessed s.tree path output = .ok t') : ∃ s', s'.tree = t' ∧
        outcome ((outdated.under .bless).checkOutput output kind) s = (.ok (path, []), s') := by
    obtain ⟨s', hs', h⟩ := outcome_checkOutput hn hp (.blessed hb)
    rw [outputConflict_bless] at h
    exact ⟨s', hs', h⟩
  let done := Bytes.ofText "done\n"
  let file := Entry.file done false
  obtain ⟨u, hu, hstdout⟩ := hcall done "stdout" _ { tree := sharedTree }
    (sharedTree.put ["t.stdout"] file) rfl rfl (by decide +kernel)
  obtain ⟨v, hv, hstderr⟩ := hcall [] "stderr" _ u
    ((sharedTree.put ["t.stdout"] file).erase ["t.stderr"]) rfl rfl (by rw [hu]; decide +kernel)
  obtain ⟨u', hu', hstderr'⟩ := hcall [] "stderr" _ { tree := sharedTree }
    (sharedTree.erase ["t.stderr"]) rfl rfl (by decide +kernel)
  obtain ⟨v', hv', hstdout'⟩ := hcall done "stdout" _ u'
    ((sharedTree.erase ["t.stderr"]).put ["t.stdout"] file) rfl rfl (by rw [hu']; decide +kernel)
  obtain ⟨htouches, hcommute⟩ := checkOutput_apart (outdated.under .bless)
    (outdated.under .bless) done [] "stdout" "stderr" { tree := sharedTree }
  have hlink : ¬ sharedTree.IsLink "t.stdout" := by
    have hfind : sharedTree.find false "t.stdout" = .error .notFound := by decide +kernel
    rintro ⟨place, target, h⟩
    rw [hfind] at h
    cases h
  obtain ⟨-, normalized, hn, hsettled⟩ := htouches.blessed rfl hlink rfl hstdout
  cases hn
  have hplace : sharedTree.locate false "t.stdout" ≠ .ok ["t.stderr"] := by decide +kernel
  have helsewhere := htouches.elsewhere rfl hlink hplace
  rw [hstdout] at helsewhere
  obtain ⟨-, -, hsame⟩ :=
    hcommute _ _ rfl rfl apart_sharedTree hstdout hstderr hstderr' hstdout'
  exact ⟨u, v, u', v', hstdout, hstderr, hstderr', hstdout', hsettled, helsewhere, hsame,
    by rw [hv]; decide +kernel⟩

end Case

end CompilerTest

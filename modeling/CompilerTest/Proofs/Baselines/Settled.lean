import CompilerTest.Proofs.Baselines.Beside
import CompilerTest.Proofs.Baselines.Edits

/-!
# Settled baselines

Blessing and comparing meet at a description of the files: a baseline is settled if its file holds
the output, or if the output is empty and there is no file. Blessing settles a baseline
(`settled_of_blessed`); a settled baseline is read as the output that it is settled for, and
blessing it again changes nothing. Blessing the baseline of another output of the same test leaves
it settled (`Settled.blessed_beside`), since the two lie in one directory under different names.
-/

namespace CompilerTest

namespace Case

open FileTree

/-- The file of expected output holds `output`; no file stands for no output. -/
inductive Settled (t : FileTree) (path : Path) : Bytes → Prop where
  /-- There is no output and no file. -/
  | absent (h : t.find false path.text = .error .notFound) : Settled t path []
  /-- There is output, and it is in the file. -/
  | present {output : Bytes} {place : Place} {executable : Bool} (hne : output ≠ [])
      (h : t.find false path.text = .ok (place, .file output executable)) : Settled t path output

/-! ## Reading and writing a settled baseline -/

section Settled

variable {t : FileTree} {path : Path} {output : Bytes}

theorem Settled.not_isLink (h : Settled t path output) : ¬ t.IsLink path.text := by
  rintro ⟨place, target, hlink⟩
  cases h with
  | absent h => rw [h] at hlink; cases hlink
  | present _ h => rw [h] at hlink; cases hlink

/-- A settled baseline is read as the output that it is settled for. -/
theorem Settled.expectedOutput_eq (h : Settled t path output) :
    expectedOutput t path = .ok output := by
  have hfind := find_follow h.not_isLink
  cases h with
  | absent h =>
    have hread : t.read path = .error ⟨.notFound, Text.quote path.text⟩ := by
      rw [FileTree.read, content, hfind, h]
      rfl
    rw [expectedOutput, hread]
  | present hne h =>
    have hread : t.read path = .ok output := by
      rw [FileTree.read, content, hfind, h]
      rfl
    rw [expectedOutput, hread]

/-- Blessing a settled baseline changes nothing. -/
theorem Settled.blessed_eq (h : Settled t path output) : blessed t path output = .ok t := by
  have hlocate := locate_follow h.not_isLink
  cases h with
  | absent h =>
    have hunlink : t.unlink path.text = .error .notFound := by
      rw [unlink, h]
      rfl
    rw [blessed, List.isEmpty_nil, if_pos rfl, remove, hunlink]
  | @present _ place executable hne h =>
    obtain ⟨hplace, hfile⟩ := find_ok_iff.1 h
    have hupdate : t.update path.text (fun _ => output) =
        .ok (t.put place (.file output executable)) := by
      rw [update_of_locate (hlocate.trans hplace), hfile]
    rw [blessed, if_neg (by simpa using hne), write, hupdate,
      put_of_at? (ne_nil_of_file hfile) hfile]
    rfl

end Settled

/-! ## Blessing settles -/

section Blessing

variable {t t' : FileTree} {path : Path} {output : Bytes}

/-- What blessing does to the files: nothing, if there is neither output nor a file; otherwise it
takes away or replaces what is at the place of the file, through which nothing could be followed. -/
theorem blessed_cases (hlink : ¬ t.IsLink path.text) (h : blessed t path output = .ok t') :
    (output = [] ∧ t.find false path.text = .error .notFound ∧ t' = t) ∨
    ∃ place, t.locate false path.text = .ok place ∧ t.route? place = none ∧
      ((output = [] ∧ t' = t.erase place) ∨
        (output ≠ [] ∧ ∃ executable, t' = t.put place (.file output executable))) := by
  obtain ⟨change, rfl, hedit⟩ := edit_of_blessed h
  rcases change with _ | ⟨place, entry⟩
  · cases hedit with
    | absent hfind => exact .inl ⟨rfl, hfind, rfl⟩
  have hplace : t.locate false path.text = .ok place := by
    obtain ⟨follow, hlocate⟩ := hedit.located
    cases follow with
    | true => rwa [locate_follow hlink] at hlocate
    | false => exact hlocate
  have hroute : t.route? place = none := by
    refine route?_eq_none_iff.2 ⟨hedit.not_directory, fun target hat => ?_⟩
    exact hlink ⟨place, target, find_ok_iff.2 ⟨hplace, hat⟩⟩
  refine .inr ⟨place, hplace, hroute, ?_⟩
  cases hedit with
  | removed => exact .inl ⟨rfl, rfl⟩
  | @written _ _ executable hne => exact .inr ⟨hne, executable, rfl⟩

/-- Blessing leaves directories and links as they are. -/
theorem sameRoutes_of_blessed (hlink : ¬ t.IsLink path.text) (h : blessed t path output = .ok t') :
    SameRoutes t t' := by
  obtain ⟨-, -, rfl⟩ | ⟨place, -, hroute, ⟨-, rfl⟩ | ⟨-, executable, rfl⟩⟩ := blessed_cases hlink h
  · exact .refl _
  · exact sameRoutes_erase hroute
  · exact sameRoutes_put hroute output executable

/-- **Blessing settles.** -/
theorem settled_of_blessed (hlink : ¬ t.IsLink path.text) (h : blessed t path output = .ok t') :
    Settled t' path output := by
  have hroutes := sameRoutes_of_blessed hlink h
  obtain ⟨rfl, hfind, rfl⟩ | ⟨place, hlocate, hroute, hafter⟩ := blessed_cases hlink h
  · exact .absent hfind
  have hlocate' : t'.locate false path.text = .ok place :=
    (ok_iff_of_blur_eq (hroutes.locate_eq false path.text)).2 hlocate
  have hplace := ne_nil_of_route? hroute
  obtain ⟨rfl, rfl⟩ | ⟨hne, executable, rfl⟩ := hafter
  · have hat : (t.erase place).at? place = none := by rw [at?_erase t hplace, if_pos rfl]
    exact .absent (find_notFound_iff.2 (.inr ⟨place, hlocate', hat⟩))
  · have hat : (t.put place (.file output executable)).at? place =
        some (.file output executable) := by
      rw [at?_put t hplace, if_pos rfl]
    exact .present hne (find_ok_iff.2 ⟨hlocate', hat⟩)

/-- Blessing changes nothing at a place that the file is not located at. -/
theorem at?_of_blessed (hlink : ¬ t.IsLink path.text) (h : blessed t path output = .ok t')
    {place : Place} (hplace : t.locate false path.text ≠ .ok place) :
    t'.at? place = t.at? place := by
  obtain ⟨-, -, rfl⟩ | ⟨here, hlocate, hroute, hafter⟩ := blessed_cases hlink h
  · rfl
  have hne : place ≠ here := by
    rintro rfl
    exact hplace hlocate
  obtain ⟨-, rfl⟩ | ⟨-, executable, rfl⟩ := hafter
  · rw [at?_erase t (ne_nil_of_route? hroute), if_neg hne]
  · rw [at?_put t (ne_nil_of_route? hroute), if_neg hne]

/-- Blessing the file beside a settled one leaves the latter settled. -/
theorem Settled.blessed_beside {other : Path} {otherOutput : Bytes} (h : Settled t path output)
    (hbeside : Beside path.text other.text) (hlink : ¬ t.IsLink other.text)
    (hbless : blessed t other otherOutput = .ok t') : Settled t' path output := by
  have hroutes := sameRoutes_of_blessed hlink hbless
  obtain ⟨-, -, rfl⟩ | ⟨otherPlace, hother, -⟩ := blessed_cases hlink hbless
  · exact h
  -- the directory is there, so the file is located at the same place before and after
  have hkeep {place : Place} (hplace : t.locate false path.text = .ok place) :
      t'.locate false path.text = .ok place ∧ t'.at? place = t.at? place := by
    refine ⟨(ok_iff_of_blur_eq (hroutes.locate_eq false path.text)).2 hplace,
      at?_of_blessed hlink hbless fun heq => ?_⟩
    obtain ⟨here, hne, hhere⟩ | hlong := hbeside.locate hother
    · exact hne (Except.ok.inj ((hhere.symm.trans hplace).trans (heq.symm.trans hother)))
    · rw [hlong] at hplace
      cases hplace
  cases h with
  | absent h =>
    obtain hnowhere | ⟨place, hplace, hat⟩ := find_notFound_iff.1 h
    · obtain ⟨here, -, hhere⟩ | hlong := hbeside.locate hother
      · rw [hhere] at hnowhere
        cases hnowhere
      · rw [hlong] at hnowhere
        cases hnowhere
    · obtain ⟨hplace', hat'⟩ := hkeep hplace
      exact .absent (find_notFound_iff.2 (.inr ⟨place, hplace', hat'.trans hat⟩))
  | present hne h =>
    obtain ⟨hplace, hat⟩ := find_ok_iff.1 h
    obtain ⟨hplace', hat'⟩ := hkeep hplace
    exact .present hne (find_ok_iff.2 ⟨hplace', hat'.trans hat⟩)

end Blessing

end Case

end CompilerTest

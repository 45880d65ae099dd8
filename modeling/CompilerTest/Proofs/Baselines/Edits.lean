import CompilerTest.Case.Baseline
import CompilerTest.Proofs.FileTree.Links
import CompilerTest.Proofs.Outcome

/-!
# Edits of expected output

Blessing changes the files at one place at most (`Edit`): the file is taken away by its own name,
and it is written where the name leads, through links. Names that do not lead to one file are edited
apart from each other: an edit of one spares what can be seen under the other (`Edit.spares`), and
an edit of the other is then the same as it was before (`Edit.again`).
-/

namespace CompilerTest

namespace FileTree

/-! ## Changes -/

/-- A change of the files: the place that changes, and what is there afterwards. -/
abbrev Change := Option (Place × Option Entry)

/-- The files after a change. -/
def Change.apply : Change → FileTree → FileTree
  | none, t => t
  | some (place, none), t => t.erase place
  | some (place, some entry), t => t.put place entry

/-- Two trees have the same entries, whatever their order. -/
structure SameEntries (t t' : FileTree) : Prop where
  workingPlace_eq : t'.workingPlace = t.workingPlace
  at?_eq (place : Place) : t'.at? place = t.at? place

section Changes

variable {t : FileTree} {p q : Place}

theorem SameEntries.refl (t : FileTree) : SameEntries t t := ⟨rfl, fun _ => rfl⟩

theorem workingPlace_apply (change : Change) (t : FileTree) :
    (change.apply t).workingPlace = t.workingPlace := by
  rcases change with _ | ⟨place, _ | entry⟩ <;> rfl

theorem at?_apply (hp : p ≠ []) (entry : Option Entry) (t : FileTree) (place : Place) :
    (Change.apply (some (p, entry)) t).at? place = if place = p then entry else t.at? place := by
  cases entry with
  | none => exact at?_erase t hp place
  | some entry => exact at?_put t hp entry place

/-- Changes of different places commute. -/
theorem apply_comm (hp : p ≠ []) (hq : q ≠ []) (hne : p ≠ q) (entry entry' : Option Entry)
    (t : FileTree) :
    SameEntries (Change.apply (some (q, entry')) (Change.apply (some (p, entry)) t))
      (Change.apply (some (p, entry)) (Change.apply (some (q, entry')) t)) where
  workingPlace_eq := by simp only [workingPlace_apply]
  at?_eq place := by
    rw [at?_apply hp, at?_apply hq, at?_apply hq, at?_apply hp]
    by_cases hplace : place = p
    · rw [if_pos hplace, if_neg (hplace ▸ hne), if_pos hplace]
    · rw [if_neg hplace, if_neg hplace]

end Changes

/-! ## Edits -/

/-- Whether the file that is written over an entry is executable; nothing is written over a
directory or a program. -/
def overwritten? : Option Entry → Option Bool
  | some (.file _ executable) => some executable
  | some .directory => none
  | some (.program _) => none
  | _ => some false

/-- What changes when a text is to name a file that holds `output`, or no file if there is none. -/
inductive Edit (t : FileTree) (text : String) : Bytes → Change → Prop where
  /-- There is neither output nor a file. -/
  | absent (h : t.find false text = .error .notFound) : Edit t text [] none
  /-- There is no output, and the file is taken away. -/
  | removed {place : Place} {entry : Entry} (h : t.find false text = .ok (place, entry))
      (hentry : entry ≠ .directory) : Edit t text [] (some (place, none))
  /-- There is output, and it is written. -/
  | written {output : Bytes} {place : Place} {executable : Bool} (hne : output ≠ [])
      (h : t.locate true text = .ok place)
      (hplace : overwritten? (t.at? place) = some executable) :
      Edit t text output (some (place, some (.file output executable)))

section Edits

variable {t t' : FileTree} {text : String} {output : Bytes} {place : Place} {entry : Option Entry}

theorem edit_of_update (hne : output ≠ []) (h : t.update text (fun _ => output) = .ok t') :
    ∃ change : Change, t' = change.apply t ∧ Edit t text output change := by
  rcases hlocate : t.locate true text with problem | place
  · rw [update, hlocate] at h
    cases h
  · rw [update_of_locate hlocate] at h
    have hedit {executable : Bool} (hplace : overwritten? (t.at? place) = some executable) :
        Edit t text output (some (place, some (.file output executable))) :=
      .written hne hlocate hplace
    rcases hat : t.at? place with _ | ⟨old, executable⟩ | _ | target | name <;> rw [hat] at h hedit
      <;> cases h
    · exact ⟨_, rfl, hedit rfl⟩
    · exact ⟨_, rfl, hedit rfl⟩
    · exact ⟨_, rfl, hedit rfl⟩

theorem edit_of_unlink (h : t.unlink text = .ok t') :
    ∃ change : Change, t' = change.apply t ∧ Edit t text [] change := by
  rcases hfind : t.find false text with problem | ⟨place, entry⟩
  · rw [unlink, hfind] at h
    cases h
  · rw [unlink, hfind] at h
    cases entry with
    | directory => cases h
    | file | link | program =>
      cases h
      exact ⟨some (place, none), rfl, .removed hfind (by simp)⟩

theorem route?_eq_none_iff :
    t.route? place = none ↔
      t.at? place ≠ some .directory ∧ ∀ target, t.at? place ≠ some (.link target) := by
  rw [route?]
  rcases t.at? place with _ | ⟨_ | _ | _ | _⟩ <;> simp [Entry.leads]

theorem Edit.not_directory (h : Edit t text output (some (place, entry))) :
    t.at? place ≠ some .directory := by
  intro hdir
  cases h with
  | removed h hentry =>
    rw [(find_ok_iff.1 h).2] at hdir
    cases hdir
    exact hentry rfl
  | written _ _ hplace =>
    rw [hdir] at hplace
    cases hplace

theorem Edit.ne_nil (h : Edit t text output (some (place, entry))) : place ≠ [] := by
  rintro rfl
  exact h.not_directory rfl

theorem Edit.located (h : Edit t text output (some (place, entry))) :
    ∃ follow, t.locate follow text = .ok place := by
  cases h with
  | removed h _ => exact ⟨false, (find_ok_iff.1 h).1⟩
  | written _ h _ => exact ⟨true, h⟩

/-- An edit leaves directories and links as they are, if it does not change a link. -/
theorem Edit.sameRoutes (h : Edit t text output (some (place, entry)))
    (hlink : ∀ target, t.at? place ≠ some (.link target)) :
    SameRoutes t (Change.apply (some (place, entry)) t) := by
  have hroute : t.route? place = none := route?_eq_none_iff.2 ⟨h.not_directory, hlink⟩
  cases h with
  | removed => exact sameRoutes_erase hroute
  | written => exact sameRoutes_put hroute _ _

end Edits

/-! ## Texts that do not lead to one file -/

/-- If a text names a link, then it leads to a file, or to where a file could be. -/
def FileIfLink (t : FileTree) (text : String) : Prop :=
  t.IsLink text → ∃ place, t.Resolves text place ∧ t.route? place = none

/-- Two texts do not lead to one place, and what they name is no link to a directory. -/
structure Apart (t : FileTree) (text other : String) : Prop where
  ne {place : Place} (h : t.Resolves text place) : ¬ t.Resolves other place
  left : t.FileIfLink text
  right : t.FileIfLink other

section Apart

variable {t : FileTree} {text other : String} {place P F : Place} {target : String} {follow : Bool}

theorem Apart.symm (h : t.Apart text other) : t.Apart other text :=
  ⟨fun hother htext => h.ne htext hother, h.right, h.left⟩

/-- Texts that lead to different files are apart. -/
theorem apart_of_files (hP : t.Resolves text P) (hF : t.Resolves other F) (hne : P ≠ F)
    (hfile : t.route? P = none) (hfile' : t.route? F = none) : t.Apart text other where
  ne h h' := hne ((hP.unique h).trans (h'.unique hF))
  left _ := ⟨P, hP, hfile⟩
  right _ := ⟨F, hF, hfile'⟩

/-- A text that is followed through links does not lead to a link. -/
theorem FileIfLink.not_link (hfile : t.FileIfLink text) (h : t.locate true text = .ok place) :
    t.at? place ≠ some (.link target) := by
  intro hlink
  by_cases hname : t.IsLink text
  · obtain ⟨file, hresolves, hroute⟩ := hfile hname
    rw [hresolves.unique (resolves_of_locate h)] at hroute
    simp [route?, hlink, Entry.leads] at hroute
  · rw [locate_follow hname] at h
    exact hname ⟨place, target, find_ok_iff.2 ⟨h, hlink⟩⟩

/-- A text leads to what it names, if that is no link. -/
theorem locate_of_not_link (h : t.locate follow text = .ok place)
    (hplace : ∀ target, t.at? place ≠ some (.link target)) : t.locate true text = .ok place := by
  cases follow with
  | true => exact h
  | false =>
    rw [locate_follow, h]
    rintro ⟨here, target, hfind⟩
    obtain ⟨hhere, hlink⟩ := find_ok_iff.1 hfind
    rw [h] at hhere
    cases hhere
    exact hplace target hlink

/-- A text that names a link to a file leads to where the link leads. -/
theorem FileIfLink.behind (hfile : t.FileIfLink text) (h : t.locate false text = .ok P)
    (hP : t.at? P = some (.link target)) :
    ∃ F k, t.Resolves text F ∧ t.route? F = none ∧
      t.Leads true k (startOf target P.dropLast) (namesOf target) F := by
  obtain ⟨F, hF, hroute⟩ := hfile ⟨P, target, find_ok_iff.2 ⟨h, hP⟩⟩
  obtain ⟨-, -, -, _, -, hleads⟩ := locate_ok_iff.1 h
  obtain ⟨_, hfollowed⟩ := hF.leads
  obtain rfl | ⟨k, hk⟩ := hleads.link hP hfollowed
  · simp [route?, hP, Entry.leads] at hroute
  · exact ⟨F, k, hF, hroute, hk⟩

end Apart

/-! ## What an edit spares -/

/-- A text leads to the same places as before, and the same is there. -/
structure Spared (t t' : FileTree) (text : String) : Prop where
  locate_iff {follow : Bool} {place : Place} :
    t'.locate follow text = .ok place ↔ t.locate follow text = .ok place
  at?_eq {follow : Bool} {place : Place} (h : t.locate follow text = .ok place) :
    t'.at? place = t.at? place

section Spared

variable {t t' : FileTree} {text other : String} {output : Bytes} {place : Place} {follow : Bool}
  {change change' : Change}

/-- An edit changes no place that the other text leads to. -/
theorem Edit.place_ne {entry : Option Entry} (h : Edit t text output (some (place, entry)))
    (ha : t.Apart text other) (follow : Bool) : t.locate follow other ≠ .ok place := by
  intro hother
  obtain ⟨follow', htext⟩ := h.located
  by_cases hlink : ∃ target, t.at? place = some (.link target)
  · obtain ⟨target, hlink⟩ := hlink
    cases follow' with
    | true => exact ha.left.not_link htext hlink
    | false =>
      cases follow with
      | true => exact ha.right.not_link hother hlink
      | false =>
        obtain ⟨F, _, hF, -, hleads⟩ := ha.left.behind htext hlink
        obtain ⟨G, _, hG, -, hleads'⟩ := ha.right.behind hother hlink
        rw [hleads.unique hleads'] at hF
        exact ha.ne hF hG
  · rw [not_exists] at hlink
    exact ha.ne (resolves_of_locate (locate_of_not_link htext hlink))
      (resolves_of_locate (locate_of_not_link hother hlink))

/-- What is under another text can be seen after an edit as before. -/
theorem spared_of_locate (h : Edit t text output change) (ha : t.Apart text other)
    (hlocate : ∀ {follow place}, (change.apply t).locate follow other = .ok place ↔
      t.locate follow other = .ok place) : Spared t (change.apply t) other where
  locate_iff := hlocate
  at?_eq {follow place} hplace := by
    rcases change with _ | ⟨changed, entry⟩
    · rfl
    · rw [at?_apply h.ne_nil, if_neg]
      rintro rfl
      exact h.place_ne ha follow hplace

/-- Taking away a link to a file spares the texts that do not lead to this file. -/
theorem locate_erase_iff {P F : Place} {target : String} {k : Nat}
    (hP : t.at? P = some (.link target))
    (hF : t.Leads true k (startOf target P.dropLast) (namesOf target) F)
    (hfile : t.route? F = none) (hother : ¬ t.Resolves other F) :
    (t.erase P).locate follow other = .ok place ↔ t.locate follow other = .ok place := by
  rw [locate_ok_iff, locate_ok_iff]
  refine and_congr_right fun _ => and_congr_right fun hnull => and_congr_right fun hempty =>
    exists_congr fun links => and_congr_right fun _ => ⟨fun h => ?_, fun h => ?_⟩
  · obtain h | ⟨-, more, h⟩ := leads_of_erase h hP hF
    · exact h
    · exact absurd ⟨hnull, hempty, more, h⟩ hother
  · refine h.erase hP hF hfile ?_
    rintro rfl rfl
    exact hother ⟨hnull, hempty, links, h⟩

/-- **An edit spares what does not lead to the same file.** -/
theorem Edit.spares (h : Edit t text output change) (ha : t.Apart text other) :
    Spared t (change.apply t) other := by
  refine spared_of_locate h ha fun {follow place} => ?_
  rcases change with _ | ⟨changed, entry⟩
  · exact Iff.rfl
  by_cases hlink : ∃ target, t.at? changed = some (.link target)
  -- a link is only ever taken away; what is written is written to the file behind it
  · obtain ⟨target, hlink⟩ := hlink
    cases h with
    | removed hfind =>
      obtain ⟨F, k, hF, hfile, hleads⟩ := ha.left.behind (find_ok_iff.1 hfind).1 hlink
      exact locate_erase_iff hlink hleads hfile (ha.ne hF)
    | written _ hlocate => exact absurd hlink (ha.left.not_link hlocate)
  · have hroutes := h.sameRoutes (not_exists.1 hlink)
    exact ok_iff_of_blur_eq (hroutes.locate_eq follow other)

theorem Spared.refl (t : FileTree) (text : String) : Spared t t text := ⟨Iff.rfl, fun _ => rfl⟩

theorem Spared.find_iff (hs : Spared t t' text) {found : Place × Entry} :
    t'.find follow text = .ok found ↔ t.find follow text = .ok found := by
  obtain ⟨place, entry⟩ := found
  rw [find_ok_iff, find_ok_iff, hs.locate_iff]
  exact and_congr_right fun h => by rw [hs.at?_eq h]

/-- A file that is spared is read as before. -/
theorem Spared.read_iff {path : Path} (hs : Spared t t' path.text) {bytes : Bytes} :
    t'.read path = .ok bytes ↔ t.read path = .ok bytes := by
  have hread (t : FileTree) : t.read path = .ok bytes ↔ t.content path.text = .ok bytes := by
    rw [FileTree.read]
    cases t.content path.text <;> simp [about]
  rw [hread, hread, content, content, bind_ok_iff, bind_ok_iff]
  simp only [hs.find_iff]

/-- An edit of what is spared is the same as before. -/
theorem Edit.again (h : Edit t text output change) (hs : Spared t t' text)
    (h' : Edit t' text output change') : change' = change := by
  cases h with
  | absent hfind =>
    cases h' with
    | absent => rfl
    | removed hfind' =>
      rw [hs.find_iff.1 hfind'] at hfind
      cases hfind
    | written hne => exact absurd rfl hne
  | removed hfind =>
    have hsame := hs.find_iff.2 hfind
    cases h' with
    | absent hfind' =>
      rw [hsame] at hfind'
      cases hfind'
    | removed hfind' =>
      rw [hsame] at hfind'
      cases hfind'
      rfl
    | written hne => exact absurd rfl hne
  | written hne hlocate hplace =>
    cases h' with
    | absent => exact absurd rfl hne
    | removed => exact absurd rfl hne
    | written _ hlocate' hplace' =>
      rw [hs.locate_iff.2 hlocate] at hlocate'
      cases hlocate'
      rw [hs.at?_eq hlocate, hplace] at hplace'
      cases hplace'
      rfl

end Spared

end FileTree

namespace Case

open FileTree

/-- Blessing is an edit. -/
theorem edit_of_blessed {t t' : FileTree} {path : Path} {output : Bytes}
    (h : blessed t path output = .ok t') :
    ∃ change : Change, t' = change.apply t ∧ Edit t path.text output change := by
  by_cases hempty : output = []
  · subst hempty
    rw [blessed, List.isEmpty_nil, if_pos rfl, remove] at h
    rcases hunlink : t.unlink path.text with problem | after
    · rw [hunlink] at h
      cases problem with
      | notFound =>
        cases h
        exact ⟨none, rfl, .absent (find_of_unlink_notFound hunlink)⟩
      | _ => cases h
    · rw [hunlink] at h
      cases h
      exact edit_of_unlink hunlink
  · rw [blessed, if_neg (by simpa using hempty), write] at h
    rcases hupdate : t.update path.text (fun _ => output) with problem | after
    · rw [hupdate] at h
      cases h
    · rw [hupdate] at h
      cases h
      exact edit_of_update hempty hupdate

end Case

end CompilerTest

import CompilerTest.Proofs.FileTree.Changes

/-!
# Ways through links

The system follows only so many links. Where names lead does not depend on how many these are
(`Leads`): with too few links a way is refused, and with enough it leads to the one place
(`Leads.walk_eq`).

A link that is taken away shortens some ways and cuts others off: who followed it at the end of a
way now stays at its place, and what was behind it cannot be reached any more. If the link leads to
no directory, nothing was behind it, so a way that does not lead to the same file as the link stays
as it was (`Leads.erase`), and no other way is new (`leads_of_erase`).
-/

namespace CompilerTest

namespace FileTree

/-- Names lead from a place to another one, through so many links. -/
inductive Leads (t : FileTree) (follow : Bool) : Nat → Place → List String → Place → Prop where
  /-- There is no link on the way. -/
  | arrived {place last : Place} {names : List String}
      (h : t.walkNames follow place names = .ok (.arrived last)) : Leads t follow 0 place names last
  /-- The way goes through a link. -/
  | met {links : Nat} {place here last : Place} {names rest : List String} {target : String}
      (h : t.walkNames follow place names = .ok (.met here target rest))
      (hrest : Leads t follow links (startOf target here) (namesOf target ++ rest) last) :
      Leads t follow (links + 1) place names last

/-- A text leads to a place, however many links there are on the way. -/
structure Resolves (t : FileTree) (text : String) (place : Place) : Prop where
  noNull : '\x00' ∉ text.toList
  ne_empty : text ≠ ""
  leads : ∃ links, t.Leads true links (startOf text t.workingPlace) (namesOf text) place

/-! ## The number of links -/

section Limit

variable {t : FileTree} {follow : Bool} {links links' limit : Nat} {place last last' : Place}
  {names : List String} {text : String}

theorem walk_eq (t : FileTree) (follow : Bool) (links : Nat) (place : Place)
    (names : List String) :
    t.walk follow links place names =
      match t.walkNames follow place names with
      | .error problem => .error problem
      | .ok (.arrived last) => .ok last
      | .ok (.met here target rest) =>
        match links with
        | 0 => .error .tooManyLinks
        | links + 1 => t.walk follow links (startOf target here) (namesOf target ++ rest) := by
  cases links <;> rw [walk] <;>
    rcases t.walkNames follow place names with problem | ⟨last⟩ | ⟨here, target, rest⟩ <;> rfl

/-- A way is followed to its end unless it has too many links. -/
theorem Leads.walk_eq (h : t.Leads follow links place names last) (limit : Nat) :
    t.walk follow limit place names =
      if links ≤ limit then .ok last else .error .tooManyLinks := by
  induction h generalizing limit with
  | arrived hnames =>
    rw [FileTree.walk_eq, hnames, if_pos (Nat.zero_le _)]
  | met hnames _ ih =>
    rw [FileTree.walk_eq, hnames]
    cases limit with
    | zero => rfl
    | succ limit =>
      simp only [Nat.add_le_add_iff_right]
      exact ih limit

theorem walk_ok_iff :
    t.walk follow limit place names = .ok last ↔
      ∃ links ≤ limit, t.Leads follow links place names last := by
  constructor
  · intro h
    induction limit generalizing place names with
    | zero =>
      rw [walk_eq] at h
      rcases hnames : t.walkNames follow place names with problem | ⟨here⟩ | ⟨here, target, rest⟩
        <;> rw [hnames] at h <;> cases h
      exact ⟨0, Nat.zero_le _, .arrived hnames⟩
    | succ limit ih =>
      rw [walk_eq] at h
      rcases hnames : t.walkNames follow place names with problem | ⟨here⟩ | ⟨here, target, rest⟩
        <;> rw [hnames] at h
      · cases h
      · cases h
        exact ⟨0, Nat.zero_le _, .arrived hnames⟩
      · obtain ⟨links, hle, hrest⟩ := ih h
        exact ⟨links + 1, Nat.succ_le_succ hle, .met hnames hrest⟩
  · rintro ⟨links, hle, h⟩
    rw [h.walk_eq, if_pos hle]

theorem Leads.unique (h : t.Leads follow links place names last)
    (h' : t.Leads follow links' place names last') : last = last' := by
  have hlast := h.walk_eq (max links links')
  rw [h'.walk_eq, if_pos (Nat.le_max_left ..), if_pos (Nat.le_max_right ..)] at hlast
  exact (Except.ok.inj hlast).symm

theorem Resolves.unique (h : t.Resolves text last) (h' : t.Resolves text last') : last = last' := by
  obtain ⟨_, hleads⟩ := h.leads
  obtain ⟨_, hleads'⟩ := h'.leads
  exact hleads.unique hleads'

theorem trace_ok_iff :
    t.trace follow text = .ok place ↔
      '\x00' ∉ text.toList ∧ text ≠ "" ∧ ∃ links ≤ linkLimit,
        t.Leads follow links (startOf text t.workingPlace) (namesOf text) place := by
  rw [← walk_ok_iff, trace]
  split
  next hnull => simp [List.contains_iff_mem.1 hnull]
  next hnull =>
    rw [List.contains_iff_mem] at hnull
    split
    next hempty => simp [hempty]
    next hempty => simp [hnull, hempty]

theorem locate_ok_iff :
    t.locate follow text = .ok place ↔
      isTooLong text = false ∧ '\x00' ∉ text.toList ∧ text ≠ "" ∧ ∃ links ≤ linkLimit,
        t.Leads follow links (startOf text t.workingPlace) (namesOf text) place := by
  rw [locate_eq_ok_iff, trace_ok_iff]

theorem resolves_of_locate (h : t.locate true text = .ok place) : t.Resolves text place := by
  obtain ⟨-, hnull, hempty, links, -, hleads⟩ := locate_ok_iff.1 h
  exact ⟨hnull, hempty, links, hleads⟩

end Limit

/-! ## Ways that go on -/

section Append

variable {t : FileTree} {follow : Bool} {place last : Place} {names rest : List String}
  {name : String} {links : Nat}

/-- Names are followed in directories only. -/
theorem directory_of_walkNames {walked : Walked}
    (h : t.walkNames follow place (name :: rest) = .ok walked) :
    t.route? place = some .directory := by
  rw [← blur_eq_ok_iff, blur_walkNames_cons] at h
  split at h
  next hdir => exact hdir
  next => cases h

/-- A way that goes on leads through a directory. -/
theorem Leads.directory (h : t.Leads follow links place (names ++ name :: rest) last) :
    ∃ links dir, t.Leads true links place names dir ∧ t.route? dir = some .directory := by
  generalize hall : names ++ name :: rest = all at h
  induction h generalizing names rest with
  | arrived hnames =>
    subst hall
    rw [walkNames_append] at hnames
    rcases hdirs : t.walkNames true _ names with problem | ⟨dir⟩ | ⟨here, target, left⟩ <;>
      rw [hdirs] at hnames
    · cases hnames
    · exact ⟨0, dir, .arrived hdirs, directory_of_walkNames hnames⟩
    · cases hnames
  | met hnames _ ih =>
    subst hall
    rw [walkNames_append] at hnames
    rcases hdirs : t.walkNames true _ names with problem | ⟨dir⟩ | ⟨here, target, left⟩ <;>
      rw [hdirs] at hnames
    · cases hnames
    · exact ⟨0, dir, .arrived hdirs, directory_of_walkNames hnames⟩
    · cases hnames
      obtain ⟨links, dir, hdir, hroute⟩ := ih (List.append_assoc ..)
      exact ⟨links + 1, dir, .met hdirs hdir, hroute⟩

end Append

/-! ## The last link of a way -/

section Last

variable {t : FileTree} {place P F : Place} {names : List String} {target : String}

/-- A link at the end of a way is met by who would follow it. -/
theorem walkNames_link (h : t.walkNames false place names = .ok (.arrived P))
    (hP : t.at? P = some (.link target)) :
    t.walkNames true place names = .ok (.arrived P) ∨
      t.walkNames true place names = .ok (.met P.dropLast target []) := by
  induction names generalizing place with
  | nil => exact .inl h
  | cons name rest ih =>
    have hdir := directory_of_walkNames h
    simp only [← blur_eq_ok_iff (x := t.walkNames _ _ _)] at h ih ⊢
    rw [blur_walkNames_cons, hdir] at h ⊢
    simp only at h ⊢
    by_cases hname : name = ".."
    · rw [if_pos hname] at h ⊢
      exact ih h
    rw [if_neg hname] at h ⊢
    by_cases hlong : (Bytes.ofText name).length > nameLimit
    · rw [if_pos hlong] at h
      cases h
    rw [if_neg hlong] at h ⊢
    rcases hhere : t.route? (place ++ [name]) with _ | ⟨_ | _ | other | _⟩ <;>
      simp only [hhere] at h ⊢
    · exact .inl h
    · exact ih h
    · exact ih h
    · cases rest with
      | cons => cases h
      | nil =>
        cases h
        rw [route?, hP] at hhere
        cases hhere
        exact .inr (by simp)
    · exact ih h

/-- Who follows the link at the end of a way is led to where the link leads. -/
theorem Leads.link {links links' : Nat} (h : t.Leads false links place names P)
    (hP : t.at? P = some (.link target)) (hF : t.Leads true links' place names F) :
    F = P ∨ ∃ left, t.Leads true left (startOf target P.dropLast) (namesOf target) F := by
  induction h generalizing links' with
  | arrived hnames =>
    rcases walkNames_link hnames hP with hsame | hmet
    · exact .inl (hF.unique (.arrived hsame))
    · cases hF with
      | arrived hnames' =>
        rw [hmet] at hnames'
        cases hnames'
      | met hnames' hrest =>
        rw [hmet] at hnames'
        cases hnames'
        rw [List.append_nil] at hrest
        exact .inr ⟨_, hrest⟩
  | @met _ place _ _ names _ _ hnames _ ih =>
    have hsame : t.walkNames true place names = t.walkNames false place names := by
      refine walkNames_follow fun _ _ harrived => ?_
      rw [hnames] at harrived
      cases harrived
    rw [hnames] at hsame
    cases hF with
    | arrived hnames' =>
      rw [hsame] at hnames'
      cases hnames'
    | met hnames' hrest =>
      rw [hsame] at hnames'
      cases hnames'
      exact ih hP hrest

end Last

/-! ## A link that is taken away -/

section Erase

variable {t : FileTree} {follow : Bool} {place P F last : Place} {names : List String}
  {target text : String} {links k : Nat}

theorem ne_nil_of_link (hP : t.at? P = some (.link target)) : P ≠ [] := by
  rintro rfl
  simp [at?] at hP

theorem route?_erase (t : FileTree) (h : P ≠ []) (place : Place) :
    (t.erase P).route? place = if place = P then none else t.route? place := by
  rw [route?, at?_erase t h]
  split
  · rfl
  · rfl

/-- Names are followed as before, except that the link is not met any more: a way ends at its place,
or is cut off. -/
theorem walkNames_erase (hP : t.at? P = some (.link target)) (follow : Bool) (place : Place)
    (names : List String) :
    blur ((t.erase P).walkNames follow place names) = blur (t.walkNames follow place names) ∨
    ∃ rest, t.walkNames follow place names = .ok (.met P.dropLast target rest) ∧
      (rest = [] ∧ follow = true ∧ (t.erase P).walkNames follow place names = .ok (.arrived P) ∨
        rest ≠ [] ∧ blur ((t.erase P).walkNames follow place names) = .error .notFound) := by
  have hne := ne_nil_of_link hP
  have hroute : t.route? P = some (.link target) := by simp [route?, hP, Entry.leads]
  induction names generalizing place with
  | nil => exact .inl rfl
  | cons name rest ih =>
    simp only [← blur_eq_ok_iff (x := t.walkNames _ _ _),
      ← blur_eq_ok_iff (x := (t.erase P).walkNames _ _ _)] at ih ⊢
    rw [blur_walkNames_cons, blur_walkNames_cons, route?_erase t hne, route?_erase t hne]
    by_cases hplace : place = P
    · rw [if_pos hplace, hplace, hroute]
      exact .inl rfl
    rw [if_neg hplace]
    split
    next hdir =>
      split
      · exact ih _
      · split
        · exact .inl rfl
        · by_cases hhere : place ++ [name] = P
          · have hlast : P.dropLast = place := by rw [← hhere, List.dropLast_concat]
            rw [if_pos hhere, hhere, hroute, hlast]
            cases rest <;> cases follow <;> simp
          · rw [if_neg hhere]
            split
            · exact .inl rfl
            · exact ih _
            · exact .inl rfl
    · exact .inl rfl

/-- A way that does not lead to the file that the link leads to stays as it was. -/
theorem Leads.erase (h : t.Leads follow links place names last)
    (hP : t.at? P = some (.link target))
    (hF : t.Leads true k (startOf target P.dropLast) (namesOf target) F)
    (hfile : t.route? F = none) (hne : follow = true → last ≠ F) :
    (t.erase P).Leads follow links place names last := by
  induction h with
  | @arrived place last names hnames =>
    rcases walkNames_erase hP follow place names with hsame | ⟨rest, hmet, -⟩
    · exact .arrived ((ok_iff_of_blur_eq hsame).2 hnames)
    · rw [hnames] at hmet
      cases hmet
  | @met links place here last names rest next hnames hrest ih =>
    rcases walkNames_erase hP follow place names with hsame | ⟨left, hmet, hend⟩
    · exact .met ((ok_iff_of_blur_eq hsame).2 hnames) (ih hne)
    · rw [hnames] at hmet
      cases hmet
      obtain ⟨rfl, rfl, -⟩ | ⟨hgoes, -⟩ := hend
      · rw [List.append_nil] at hrest
        exact absurd (hrest.unique hF) (hne rfl)
      · obtain ⟨name, left, rfl⟩ := List.exists_cons_of_ne_nil hgoes
        obtain ⟨_, dir, hdir, hroute⟩ := hrest.directory
        rw [hdir.unique hF, hfile] at hroute
        cases hroute

/-- A way that is new leads to the place of the link, and led to the file behind it. -/
theorem leads_of_erase (h : (t.erase P).Leads follow links place names last)
    (hP : t.at? P = some (.link target))
    (hF : t.Leads true k (startOf target P.dropLast) (namesOf target) F) :
    t.Leads follow links place names last ∨
      follow = true ∧ ∃ more, t.Leads true more place names F := by
  induction h with
  | @arrived place last names hnames =>
    rcases walkNames_erase hP follow place names with hsame | ⟨rest, hmet, hend⟩
    · exact .inl (.arrived ((ok_iff_of_blur_eq hsame).1 hnames))
    · obtain ⟨rfl, rfl, -⟩ | ⟨-, hcut⟩ := hend
      · rw [← List.append_nil (namesOf target)] at hF
        exact .inr ⟨rfl, k + 1, .met hmet hF⟩
      · rw [hnames] at hcut
        cases hcut
  | @met links place here last names rest next hnames hrest ih =>
    rcases walkNames_erase hP follow place names with hsame | ⟨left, -, hend⟩
    · have hmet := (ok_iff_of_blur_eq hsame).1 hnames
      obtain hleads | ⟨rfl, more, hmore⟩ := ih
      · exact .inl (.met hmet hleads)
      · exact .inr ⟨rfl, more + 1, .met hmet hmore⟩
    · obtain ⟨-, -, harrived⟩ | ⟨-, hcut⟩ := hend
      · rw [hnames] at harrived
        cases harrived
      · rw [hnames] at hcut
        cases hcut

end Erase

end FileTree

end CompilerTest

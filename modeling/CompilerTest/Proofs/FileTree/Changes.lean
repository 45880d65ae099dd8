import CompilerTest.Proofs.FileTree.Routes

/-!
# Changes of regular files

Writing a file puts an entry at a place and removing one takes it away. As long as nothing could be
followed through the place before, the tree keeps its routes, so every other text leads where it
led before.
-/

namespace CompilerTest

namespace FileTree

/-! ## Entries after a change -/

section Entries

variable {t : FileTree} {place : Place} {entry : Entry}

theorem at?_of_ne_nil (t : FileTree) (h : place ≠ []) : t.at? place = t.entries.lookup place := by
  simp [at?, h]

theorem lookup_cons_of_ne {p q : Place} (h : q ≠ p) (entry : Entry)
    (entries : List (Place × Entry)) : ((p, entry) :: entries).lookup q = entries.lookup q := by
  rw [List.lookup_cons, beq_eq_false_iff_ne.2 h]

theorem lookup_putEntry (place q : Place) (entry : Entry) (entries : List (Place × Entry)) :
    (putEntry place entry entries).lookup q =
      if q = place then some entry else entries.lookup q := by
  induction entries with
  | nil =>
    by_cases hq : q = place
    · simp [putEntry, hq]
    · rw [putEntry, lookup_cons_of_ne hq, if_neg hq]
  | cons head rest ih =>
    obtain ⟨p, e⟩ := head
    by_cases hp : p = place
    · by_cases hq : q = place
      · simp [putEntry, hp, hq]
      · rw [putEntry, if_pos hp, hp, lookup_cons_of_ne hq, lookup_cons_of_ne hq, if_neg hq]
    · by_cases hq : q = p
      · simp [putEntry, hq, hp]
      · rw [putEntry, if_neg hp, lookup_cons_of_ne hq, lookup_cons_of_ne hq, ih]

theorem at?_put (t : FileTree) (h : place ≠ []) (entry : Entry) (q : Place) :
    (t.put place entry).at? q = if q = place then some entry else t.at? q := by
  by_cases hq : q = []
  · simp [at?, hq, h.symm]
  · rw [at?_of_ne_nil _ hq, at?_of_ne_nil _ hq]
    exact lookup_putEntry ..

theorem lookup_filter_ne (place q : Place) (entries : List (Place × Entry)) :
    (entries.filter fun (p, _) => p ≠ place).lookup q =
      if q = place then none else entries.lookup q := by
  induction entries with
  | nil => simp
  | cons head rest ih =>
    obtain ⟨p, e⟩ := head
    by_cases hp : p = place
    · rw [List.filter_cons, if_neg (by simpa using hp), ih]
      split
      · rfl
      next hq => rw [hp, lookup_cons_of_ne hq]
    · rw [List.filter_cons, if_pos (by simpa using hp)]
      by_cases hq : q = p
      · simp [hq, hp]
      · rw [lookup_cons_of_ne hq, lookup_cons_of_ne hq, ih]

theorem at?_erase (t : FileTree) (h : place ≠ []) (q : Place) :
    (t.erase place).at? q = if q = place then none else t.at? q := by
  by_cases hq : q = []
  · simp [at?, hq, h.symm]
  · rw [at?_of_ne_nil _ hq, at?_of_ne_nil _ hq]
    exact lookup_filter_ne ..

theorem putEntry_of_lookup {entries : List (Place × Entry)}
    (h : entries.lookup place = some entry) : putEntry place entry entries = entries := by
  induction entries with
  | nil => cases h
  | cons head rest ih =>
    obtain ⟨p, e⟩ := head
    by_cases hp : p = place
    · simp only [hp, List.lookup_cons_self, Option.some.injEq] at h
      simp [putEntry, hp, h]
    · rw [lookup_cons_of_ne (Ne.symm hp)] at h
      rw [putEntry, if_neg hp, ih h]

/-- Putting at a place what is there already changes nothing. -/
theorem put_of_at? (hplace : place ≠ []) (h : t.at? place = some entry) :
    t.put place entry = t := by
  rw [at?_of_ne_nil t hplace] at h
  rw [put, putEntry_of_lookup h]

end Entries

/-! ## Routes after a change -/

section Changes

variable {t : FileTree} {place : Place}

theorem ne_nil_of_route? (h : t.route? place = none) : place ≠ [] := by
  rintro rfl
  simp [route?, at?, Entry.leads] at h

/-- Whether there is a link at a place. -/
def hasLink (t : FileTree) (place : Place) : Bool :=
  match t.route? place with
  | some (.link _) => true
  | _ => false

theorem linkCount_eq (t : FileTree) :
    t.linkCount = t.entries.countP fun (place, _) => t.hasLink place := by
  rw [linkCount]
  congr 1
  funext ⟨place, _⟩
  simp only [hasLink, route?]
  rcases t.at? place with _ | ⟨_ | _ | _ | _⟩ <;> rfl

theorem countP_putEntry (entry : Entry) (p : Place → Bool) (h : p place = false)
    (entries : List (Place × Entry)) :
    (putEntry place entry entries).countP (fun (q, _) => p q) =
      entries.countP fun (q, _) => p q := by
  induction entries with
  | nil => simp [putEntry, h]
  | cons head rest ih =>
    obtain ⟨q, e⟩ := head
    by_cases hq : q = place
    · simp [putEntry, hq, h]
    · simp only [putEntry, if_neg hq, List.countP_cons, ih]

theorem countP_filter_ne (p : Place → Bool) (h : p place = false)
    (entries : List (Place × Entry)) :
    (entries.filter fun (q, _) => q ≠ place).countP (fun (q, _) => p q) =
      entries.countP fun (q, _) => p q := by
  rw [List.countP_filter]
  congr 1
  funext ⟨q, _⟩
  by_cases hq : q = place
  · simp [hq, h]
  · simp [hq]

/-- A change at one place leaves the routes as they are, if nothing can be followed through it
before and afterwards. -/
theorem sameRoutes_of_at? {t' : FileTree} {entry : Option Entry} (h : t.route? place = none)
    (hentry : entry.filter Entry.leads = none) (hworking : t'.workingPlace = t.workingPlace)
    (hat : ∀ q, t'.at? q = if q = place then entry else t.at? q)
    (hcount : ∀ p : Place → Bool, p place = false →
      t'.entries.countP (fun (q, _) => p q) = t.entries.countP fun (q, _) => p q) :
    SameRoutes t t' := by
  have hroute (q : Place) : t'.route? q = t.route? q := by
    rw [route?, hat]
    split
    next hq => rw [hentry, hq, h]
    next => rfl
  refine ⟨hworking, hroute, ?_⟩
  rw [linkCount_eq, linkCount_eq]
  simp only [hasLink, hroute]
  exact hcount (fun q => t.hasLink q) (by simp [hasLink, h])

/-- A file in a place through which nothing could be followed leaves the routes as they are. -/
theorem sameRoutes_put (h : t.route? place = none) (content : Bytes) (executable : Bool) :
    SameRoutes t (t.put place (.file content executable)) :=
  sameRoutes_of_at? h rfl rfl (at?_put t (ne_nil_of_route? h) _)
    fun p hp => countP_putEntry _ p hp t.entries

/-- Taking away what nothing could be followed through leaves the routes as they are. -/
theorem sameRoutes_erase (h : t.route? place = none) : SameRoutes t (t.erase place) :=
  sameRoutes_of_at? h rfl rfl (at?_erase t (ne_nil_of_route? h))
    fun p hp => countP_filter_ne p hp t.entries

theorem SameRoutes.refl (t : FileTree) : SameRoutes t t := ⟨rfl, fun _ => rfl, rfl⟩

theorem SameRoutes.trans {t t' t'' : FileTree} (h : SameRoutes t t') (h' : SameRoutes t' t'') :
    SameRoutes t t'' :=
  ⟨h'.workingPlace_eq.trans h.workingPlace_eq,
    fun place => (h'.route?_eq place).trans (h.route?_eq place),
    h'.linkCount_eq.trans h.linkCount_eq⟩

end Changes

/-! ## The last link of a path -/

section Links

variable {t t' : FileTree} {text : String}

/-- A text names a symbolic link. -/
def IsLink (t : FileTree) (text : String) : Prop :=
  ∃ place target, t.find false text = .ok (place, .link target)

theorem isLink_iff_outline :
    t.IsLink text ↔ ∃ target, outline (t.find false text) = .ok (some (.link target)) := by
  rcases h : t.find false text with problem | ⟨place, entry⟩
  · cases problem <;> simp [IsLink, h, outline]
  · cases entry <;> simp [IsLink, h, outline, Entry.leads]

theorem SameRoutes.isLink_iff (h : SameRoutes t t') : t'.IsLink text ↔ t.IsLink text := by
  rw [isLink_iff_outline, isLink_iff_outline, h.outline_find]

/-- Unless a link is the last thing on the way, it does not matter whether it would be followed. -/
theorem walkNames_follow {place : Place} {names : List String}
    (h : ∀ here target, t.walkNames false place names = .ok (.arrived here) →
      t.at? here ≠ some (.link target)) :
    t.walkNames true place names = t.walkNames false place names := by
  induction names generalizing place with
  | nil => rfl
  | cons name rest ih =>
    rw [walkNames] at h ⊢
    rw [walkNames]
    cases hplace : t.at? place with
    | none => rfl
    | some entry =>
      cases entry with
      | file | link | program => rfl
      | directory =>
        simp only [hplace] at h ⊢
        split
        next hname => exact ih (by simpa [hname] using h)
        next hname =>
          split
          · rfl
          next hlimit =>
            simp only [if_neg hname, if_neg hlimit] at h
            cases hhere : t.at? (place ++ [name]) with
            | none => rfl
            | some entry =>
              cases entry with
              | file | directory | program =>
                simp only [hhere] at h
                exact ih h
              | link target =>
                simp only [hhere] at h ⊢
                cases rest with
                | cons => rfl
                | nil => exact absurd hhere (h _ _ rfl)

theorem walk_follow {links : Nat} {place : Place} {names : List String}
    (h : ∀ here target, t.walk false links place names = .ok here →
      t.at? here ≠ some (.link target)) :
    t.walk true links place names = t.walk false links place names := by
  induction links generalizing place names with
  | zero =>
    rw [walk] at h ⊢
    rw [walk, walkNames_follow]
    intro here target harrived
    rw [harrived] at h
    exact h here target rfl
  | succ links ih =>
    rw [walk] at h ⊢
    rw [walk, walkNames_follow]
    · rcases hwalk : t.walkNames false place names with problem | ⟨here⟩ | ⟨here, target, rest⟩
      · rfl
      · rfl
      · rw [hwalk] at h
        exact ih h
    · intro here target harrived
      rw [harrived] at h
      exact h here target rfl

theorem locate_follow (h : ¬ t.IsLink text) : t.locate true text = t.locate false text := by
  simp only [IsLink, find_ok_iff] at h
  rw [locate, trace] at h ⊢
  rw [locate, trace]
  split
  · rfl
  next hlong =>
    split
    · rfl
    next hnull =>
      split
      · rfl
      next hempty =>
        rw [if_neg hlong, if_neg hnull, if_neg hempty] at h
        exact walk_follow fun here target hwalk hlink => h ⟨here, target, hwalk, hlink⟩

theorem find_follow (h : ¬ t.IsLink text) : t.find true text = t.find false text := by
  rw [find, find, locate_follow h]

end Links

/-! ## The last name of a path -/

section LastName

variable {t : FileTree}

/-- The way along names leads to where the first of them lead, and on from there. -/
theorem walkNames_append (t : FileTree) (follow : Bool) (place : Place) (dirs : List String)
    (name : String) (rest : List String) :
    t.walkNames follow place (dirs ++ name :: rest) =
      match t.walkNames true place dirs with
      | .ok (.arrived dir) => t.walkNames follow dir (name :: rest)
      | .ok (.met here target left) => .ok (.met here target (left ++ name :: rest))
      | .error problem => .error problem := by
  induction dirs generalizing place with
  | nil => rfl
  | cons dir dirs ih =>
    have hne : (dirs ++ name :: rest).isEmpty = false := by simp
    rw [List.cons_append, walkNames, walkNames]
    cases hplace : t.at? place with
    | none => rfl
    | some entry =>
      cases entry with
      | file | link | program => rfl
      | directory =>
        simp only
        split
        · exact ih _
        · split
          · rfl
          · cases hhere : t.at? (place ++ [dir]) with
            | none =>
              cases dirs with
              | nil => simp [walkNames, hhere]
              | cons => rfl
            | some entry =>
              cases entry with
              | file | directory | program => exact ih _
              | link target => simp [hne]

/-- Where a last name leads to from a place. -/
def enter (t : FileTree) (dir : Place) (name : String) : Except FileProblem Place :=
  match t.at? dir with
  | none => .error .notFound
  | some .directory =>
    if (Bytes.ofText name).length > nameLimit then .error .nameTooLong else .ok (dir ++ [name])
  | some _ => .error .notDirectory

theorem walkNames_singleton (t : FileTree) (dir : Place) {name : String} (h : name ≠ "..") :
    t.walkNames false dir [name] = (t.enter dir name).map .arrived := by
  rw [walkNames, enter]
  cases hdir : t.at? dir with
  | none => rfl
  | some entry =>
    cases entry with
    | file | link | program => rfl
    | directory =>
      simp only [if_neg h]
      split
      · rfl
      · rcases hhere : t.at? (dir ++ [name]) with _ | ⟨_ | _ | _ | _⟩ <;> rfl

theorem walk_append (t : FileTree) (links : Nat) (place : Place) (dirs : List String)
    {name : String} (h : name ≠ "..") :
    t.walk false links place (dirs ++ [name]) =
      (t.walk true links place dirs).bind (t.enter · name) := by
  have harrived (dir : Place) (next : Walked → Except FileProblem Place)
      (hnext : ∀ place, next (.arrived place) = .ok place) :
      (t.walkNames false dir [name] >>= next) = t.enter dir name := by
    rw [walkNames_singleton t dir h]
    cases t.enter dir name with
    | error problem => rfl
    | ok place => exact hnext place
  induction links generalizing place dirs with
  | zero =>
    rw [walk, walk, walkNames_append]
    rcases t.walkNames true place dirs with problem | ⟨dir⟩ | ⟨here, target, rest⟩
    · rfl
    · exact harrived dir _ fun _ => rfl
    · rfl
  | succ links ih =>
    rw [walk, walk, walkNames_append]
    rcases t.walkNames true place dirs with problem | ⟨dir⟩ | ⟨here, target, rest⟩
    · rfl
    · exact harrived dir _ fun _ => rfl
    · show t.walk false links (startOf target here) (namesOf target ++ (rest ++ [name])) = _
      rw [← List.append_assoc, ih]
      rfl

end LastName

/-! ## Operations -/

section Operations

variable {t t' : FileTree} {text : String} {place : Place}

theorem ne_nil_of_file {content : Bytes} {executable : Bool}
    (h : t.at? place = some (.file content executable)) : place ≠ [] := by
  rintro rfl
  simp [at?] at h

theorem update_of_locate (h : t.locate true text = .ok place) (change : Bytes → Bytes) :
    t.update text change = match t.at? place with
      | some (.file content executable) => .ok (t.put place (.file (change content) executable))
      | some .directory => .error .isDirectory
      | some (.program _) => .error .denied
      | _ => .ok (t.put place (.file (change []) false)) := by
  rw [update, h]
  rfl

theorem find_of_unlink_notFound (h : t.unlink text = .error .notFound) :
    t.find false text = .error .notFound := by
  rcases hfind : t.find false text with problem | ⟨place, entry⟩
  · rw [unlink, hfind] at h
    cases h
    rfl
  · rw [unlink, hfind] at h
    cases entry <;> cases h

end Operations

end FileTree

end CompilerTest

import CompilerTest.FileTree.Resolve
import Mathlib.Tactic.Common

/-!
# Routes

Who follows names goes through directories and links; of any other entry it only matters that it
ends the way. So two trees with the same directories and links lead a text to the same place, and a
path has the same real path in both (`SameRoutes.realPath_eq`). What may differ is the reason why a
way ends: there is nothing, or there is something that is no directory.
-/

namespace CompilerTest

/-- Whether names can be followed through an entry. -/
def Entry.leads : Entry → Bool
  | directory => true
  | link _ => true
  | _ => false

namespace FileTree

/-- What names can be followed through at a place. -/
def route? (t : FileTree) (place : Place) : Option Entry := (t.at? place).filter Entry.leads

/-- Whether two trees have the same directories and links. -/
structure SameRoutes (t t' : FileTree) : Prop where
  workingPlace_eq : t'.workingPlace = t.workingPlace
  route?_eq (place : Place) : t'.route? place = t.route? place
  linkCount_eq : t'.linkCount = t.linkCount

/-! ## Where a way ends -/

/-- A result in which it does not matter whether there is nothing where a way ends, or something
that is no directory. -/
def blur {α : Type} : Except FileProblem α → Except FileProblem α
  | .error .notDirectory => .error .notFound
  | x => x

section Blur

variable {α β : Type} {x y : Except FileProblem α} {a : α}

@[simp] theorem blur_ok (a : α) : blur (.ok a : Except FileProblem α) = .ok a := rfl

theorem blur_bind (x : Except FileProblem α) (f : α → Except FileProblem β) :
    blur (x >>= f) = blur x >>= fun a => blur (f a) := by
  cases x with
  | ok a => rfl
  | error p => cases p <;> rfl

theorem blur_eq_ok_iff : blur x = .ok a ↔ x = .ok a := by
  cases x with
  | ok b => exact Iff.rfl
  | error p => cases p <;> simp [blur]

theorem ok_iff_of_blur_eq (h : blur x = blur y) : x = .ok a ↔ y = .ok a := by
  rw [← blur_eq_ok_iff, h, blur_eq_ok_iff]

end Blur

/-! ## Following names -/

section Walk

variable {t t' : FileTree}

/-- A name is followed by what names can be followed through. -/
theorem blur_walkNames_cons (t : FileTree) (follow : Bool) (place : Place) (name : String)
    (rest : List String) :
    blur (t.walkNames follow place (name :: rest)) = match t.route? place with
      | some .directory =>
        if name = ".." then blur (t.walkNames follow place.dropLast rest)
        else if (Bytes.ofText name).length > nameLimit then .error .nameTooLong
        else match t.route? (place ++ [name]) with
          | some (.link target) =>
            if rest.isEmpty && !follow then .ok (.arrived (place ++ [name]))
            else .ok (.met place target rest)
          | some _ => blur (t.walkNames follow (place ++ [name]) rest)
          | none => if rest.isEmpty then .ok (.arrived (place ++ [name])) else .error .notFound
      | _ => .error .notFound := by
  rw [walkNames, route?]
  cases hplace : t.at? place with
  | none => rfl
  | some entry =>
    cases entry with
    | file | link | program => rfl
    | directory =>
      simp only [Option.filter_some, Entry.leads, if_true]
      split
      · rfl
      · split
        · rfl
        · rw [route?]
          cases hhere : t.at? (place ++ [name]) with
          | none => cases rest <;> rfl
          | some entry =>
            cases entry with
            | directory => rfl
            | link target => cases rest <;> cases follow <;> rfl
            | file | program =>
              cases rest with
              | nil => rfl
              | cons name' rest =>
                rw [walkNames, hhere]
                rfl

theorem SameRoutes.walkNames_eq (h : SameRoutes t t') (follow : Bool) (place : Place)
    (names : List String) :
    blur (t'.walkNames follow place names) = blur (t.walkNames follow place names) := by
  induction names generalizing place with
  | nil => rfl
  | cons name rest ih =>
    rw [blur_walkNames_cons, blur_walkNames_cons, h.route?_eq, h.route?_eq]
    simp only [ih]

theorem SameRoutes.walk_eq (h : SameRoutes t t') (follow : Bool) (links : Nat) (place : Place)
    (names : List String) :
    blur (t'.walk follow links place names) = blur (t.walk follow links place names) := by
  induction links generalizing place names with
  | zero =>
    rw [walk, walk, blur_bind, blur_bind, h.walkNames_eq]
  | succ links ih =>
    rw [walk, walk, blur_bind, blur_bind, h.walkNames_eq]
    congr 1
    funext walked
    cases walked with
    | arrived place => rfl
    | met place target rest => exact ih _ _

theorem SameRoutes.trace_eq (h : SameRoutes t t') (follow : Bool) (text : String) :
    blur (t'.trace follow text) = blur (t.trace follow text) := by
  rw [trace, trace, h.workingPlace_eq]
  split
  · rfl
  · split
    · rfl
    · exact h.walk_eq ..

theorem SameRoutes.locate_eq (h : SameRoutes t t') (follow : Bool) (text : String) :
    blur (t'.locate follow text) = blur (t.locate follow text) := by
  rw [locate, locate]
  split
  · rfl
  · exact h.trace_eq ..

end Walk

/-! ## What a text leads to -/

section Find

variable {t : FileTree} {text : String} {follow : Bool} {place : Place}

theorem withEntry_ok (t : FileTree) (place : Place) :
    t.withEntry (.ok place) = match t.at? place with
      | some entry => .ok (place, entry)
      | none => .error .notFound :=
  rfl

/-- The system comes to where a text leads, if it does not refuse the text for its length. -/
theorem locate_eq_ok_iff :
    t.locate follow text = .ok place ↔
      isTooLong text = false ∧ t.trace follow text = .ok place := by
  rw [locate]
  split
  next hlong => simp [hlong]
  next hlong => simp [hlong]

theorem find_eq_of_locate (h : t.locate follow text = .ok place) :
    t.find follow text = match t.at? place with
      | some entry => .ok (place, entry)
      | none => .error .notFound := by
  rw [find, h, withEntry_ok]

theorem find_eq_of_locate_error {problem : FileProblem}
    (h : t.locate follow text = .error problem) : t.find follow text = .error problem := by
  rw [find, h]
  rfl

theorem find_ok_iff {entry : Entry} :
    t.find follow text = .ok (place, entry) ↔
      t.locate follow text = .ok place ∧ t.at? place = some entry := by
  cases h : t.locate follow text with
  | error problem => simp [find_eq_of_locate_error h]
  | ok here =>
    rw [find_eq_of_locate h]
    cases hhere : t.at? here with
    | none =>
      simp only [reduceCtorEq, Except.ok.injEq, false_iff, not_and]
      rintro rfl
      simp [hhere]
    | some found =>
      simp only [Except.ok.injEq, Prod.mk.injEq]
      constructor
      · rintro ⟨rfl, rfl⟩
        exact ⟨rfl, hhere⟩
      · rintro ⟨rfl, h⟩
        exact ⟨rfl, Option.some.inj (hhere.symm.trans h)⟩

theorem find_notFound_iff :
    t.find follow text = .error .notFound ↔
      t.locate follow text = .error .notFound ∨
        ∃ place, t.locate follow text = .ok place ∧ t.at? place = none := by
  cases h : t.locate follow text with
  | error problem => simp [find_eq_of_locate_error h]
  | ok here =>
    rw [find_eq_of_locate h]
    cases hhere : t.at? here <;> simp [hhere]

end Find

/-- What is found, as far as names can be followed through it. -/
def outline : Except FileProblem (Place × Entry) → Except FileProblem (Option Entry)
  | .ok (_, entry) => .ok (some entry |>.filter Entry.leads)
  | .error .notFound => .ok none
  | .error .notDirectory => .ok none
  | .error problem => .error problem

section Outline

variable {t t' : FileTree}

theorem outline_withEntry (t : FileTree) (found : Except FileProblem Place) :
    outline (t.withEntry found) = match blur found with
      | .ok place => .ok (t.route? place)
      | .error .notFound => .ok none
      | .error problem => .error problem := by
  cases found with
  | error problem => cases problem <;> rfl
  | ok place =>
    rw [withEntry_ok]
    simp only [blur_ok, route?]
    cases t.at? place <;> rfl

theorem SameRoutes.outline_withEntry (h : SameRoutes t t') {found found' : Except FileProblem Place}
    (hfound : blur found' = blur found) :
    outline (t'.withEntry found') = outline (t.withEntry found) := by
  rw [FileTree.outline_withEntry, FileTree.outline_withEntry, hfound]
  simp only [h.route?_eq]

theorem SameRoutes.outline_find (h : SameRoutes t t') (follow : Bool) (text : String) :
    outline (t'.find follow text) = outline (t.find follow text) :=
  h.outline_withEntry (h.locate_eq follow text)

theorem SameRoutes.outline_seek (h : SameRoutes t t') (follow : Bool) (text : String) :
    outline (t'.seek false follow text) = outline (t.seek false follow text) :=
  h.outline_withEntry (h.trace_eq follow text)

end Outline

/-! ## Real paths -/

section Real

variable {t t' : FileTree}

/-- Where parts of a path need not be there, a real path depends only on what names can be followed
through. -/
theorem realNames_cons (t : FileTree)
    (follow : Path → List String → Links → Except ResolveError Progress) (path : Path)
    (name : String) (rest : List String) (links : Links) :
    t.realNames false follow path (name :: rest) links =
      if name = ".." then t.realNames false follow (ascend path) rest links
      else match outline (t.seek false false (path.below [name]).text) with
        | .error .hasNull => .error (.file ⟨.hasNull, Text.quote (path.below [name]).text⟩)
        | .ok (some (.link target)) =>
          match links.lookup (path.below [name]) with
          | some (some real) => t.realNames false follow real rest links
          | some none => .ok ⟨(path.below [name]).below rest, false, links⟩
          | none => do
            let start := if target.startsWith "/" then ⟨.single, []⟩ else path
            let inner ← follow start (namesOf target) ((path.below [name], none) :: links)
            if inner.complete then
              t.realNames false follow inner.path rest
                ((path.below [name], some inner.path) :: inner.links)
            else .ok ⟨inner.path.below rest, false, inner.links⟩
        | _ => t.realNames false follow (path.below [name]) rest links := by
  simp only [realNames]
  split
  · rfl
  · rcases t.seek false false (path.below [name]).text with problem | ⟨place, entry⟩
    · cases problem <;> rfl
    · cases entry <;> rfl

theorem SameRoutes.realNames_eq (h : SameRoutes t t')
    (follow : Path → List String → Links → Except ResolveError Progress) (path : Path)
    (names : List String) (links : Links) :
    t'.realNames false follow path names links = t.realNames false follow path names links := by
  induction names generalizing path links with
  | nil => rfl
  | cons name rest ih =>
    rw [realNames_cons, realNames_cons, h.outline_seek]
    simp only [ih]

theorem SameRoutes.realFrom_eq (h : SameRoutes t t') (depth : Nat) :
    t'.realFrom false depth = t.realFrom false depth := by
  induction depth with
  | zero => rfl
  | succ depth ih =>
    funext path names links
    rw [realFrom, realFrom, ih, h.realNames_eq]

theorem SameRoutes.absolute_eq (h : SameRoutes t t') (p : Path) : t'.absolute p = t.absolute p := by
  rw [absolute, absolute, workingDirectory, workingDirectory, h.workingPlace_eq]

/-- A real path is refused only for a reason other than that there is nothing. -/
theorem realPath_eq_outline (t : FileTree) (p : Path) :
    t.realPath false p = (do
      let start : Path := if p.isAbsolute then ⟨.single, []⟩ else ⟨.relative, []⟩
      let progress ← t.realFrom false (2 * t.linkCount + 2) start p.names []
      let real := t.absolute progress.path
      match outline (t.seek false true real.text) with
      | .error .tooManyLinks => .error (.loop (Text.quote real.text))
      | .error .hasNull => .error (.file ⟨.hasNull, Text.quote real.text⟩)
      | _ => .ok real) := by
  simp only [realPath]
  congr 1
  funext progress
  rcases t.seek false true (t.absolute progress.path).text with problem | ⟨place, entry⟩
  · cases problem <;> rfl
  · rfl

/-- **Real paths depend on directories and links alone.** -/
theorem SameRoutes.realPath_eq (h : SameRoutes t t') (p : Path) :
    t'.realPath false p = t.realPath false p := by
  rw [realPath_eq_outline, realPath_eq_outline]
  simp only [h.realFrom_eq, h.linkCount_eq, h.absolute_eq, h.outline_seek]

end Real

end FileTree

end CompilerTest

import CompilerTest.Proofs.FileTree.Routes
import CompilerTest.Proofs.Outcome
import Mathlib.Data.List.Induction

/-!
# What real paths are made of

A real path begins at the single root, and its names are names of the working directory, of the path
that it was asked for, or of the target of a link; none of them is that of a parent
(`root_of_realPath`, `names_of_realPath`). Where parts of a path need not be there, a path has a
real path unless a zero byte is met or its links lead in a circle (`realPath_false_cases`).
-/

namespace CompilerTest

/-! ## Paths with names of a kind -/

/-- Whether a path does not begin at a root of its own, and has names of a kind. -/
structure Path.MadeOf (N : String → Prop) (p : Path) : Prop where
  root_ne : p.root ≠ .double
  names : ∀ n ∈ p.names, N n

theorem Path.MadeOf.below {N : String → Prop} {p : Path} (h : p.MadeOf N) {names : List String}
    (hnames : ∀ n ∈ names, N n) : (p.below names).MadeOf N where
  root_ne := h.root_ne
  names := by
    intro n hn
    rcases List.mem_append.1 hn with hn | hn
    · exact h.names n hn
    · exact hnames n hn

namespace FileTree

/-- A kind of names that following does not leave: that of a parent is of the kind, and so are those
in the target of any link. -/
structure IsKind (N : String → Prop) : Prop where
  parent : N ".."
  target (text : String) : ∀ n ∈ namesOf text, N n

/-- Whether all links that have been followed lead to paths with names of a kind. -/
def LinksMadeOf (N : String → Prop) (links : Links) : Prop :=
  ∀ here real, links.lookup here = some (some real) → real.MadeOf N

section Kind

variable {N : String → Prop} {t : FileTree} {strict : Bool} {p real : Path}

theorem madeOf_ascend (hN : IsKind N) (h : p.MadeOf N) : (ascend p).MadeOf N := by
  unfold ascend
  split
  · split
    · exact h
    · exact ⟨h.root_ne, by simpa using hN.parent⟩
  · exact h.below (by simpa using hN.parent)
  · exact ⟨h.root_ne, fun n hn => h.names n (List.dropLast_subset _ hn)⟩

theorem LinksMadeOf.cons {links : Links} (h : LinksMadeOf N links) (here : Path)
    {real? : Option Path} (hreal : ∀ r, real? = some r → r.MadeOf N) :
    LinksMadeOf N ((here, real?) :: links) := by
  intro q r hq
  rw [List.lookup_cons] at hq
  split at hq
  · exact hreal r (Option.some.inj hq)
  · exact h q r hq

/-- What following comes to from paths and names of a kind is of the kind. -/
def StaysIn (N : String → Prop)
    (follow : Path → List String → Links → Except ResolveError Progress) : Prop :=
  ∀ p names links progress, p.MadeOf N → (∀ n ∈ names, N n) → LinksMadeOf N links →
    follow p names links = .ok progress → progress.path.MadeOf N ∧ LinksMadeOf N progress.links

theorem staysIn_realNames (hN : IsKind N)
    {follow : Path → List String → Links → Except ResolveError Progress}
    (hfollow : StaysIn N follow) : StaysIn N (t.realNames strict follow) := by
  intro p names links progress hp hnames hlinks h
  induction names generalizing p links with
  | nil =>
    cases h
    exact ⟨hp, hlinks⟩
  | cons name rest ih =>
    obtain ⟨hname, hrest⟩ := List.forall_mem_cons.1 hnames
    have hhere : (p.below [name]).MadeOf N := hp.below (by simpa using hname)
    unfold realNames at h
    split at h
    case isTrue => exact ih _ _ (madeOf_ascend hN hp) hrest hlinks h
    case isFalse =>
      dsimp only at h
      split at h
      · cases h
      · split at h
        · cases h
        · exact ih _ _ hhere hrest hlinks h
      next target _ =>
        split at h
        next real hreal => exact ih _ _ (hlinks _ real hreal) hrest hlinks h
        · split at h
          · cases h
          · cases h
            exact ⟨hhere.below hrest, hlinks⟩
        · -- the target is followed first, and what it leads to takes the place of the link
          obtain ⟨inner, hinner, h⟩ := bind_ok_iff.1 h
          have hstart : (if target.startsWith "/" then (⟨.single, []⟩ : Path) else p).MadeOf N := by
            split
            · exact ⟨by decide, by simp⟩
            · exact hp
          obtain ⟨hpath, hmet⟩ := hfollow _ _ _ inner hstart (hN.target target)
            (hlinks.cons _ (by simp)) hinner
          split at h
          · exact ih _ _ hpath hrest (hmet.cons _ (by simpa using hpath)) h
          · cases h
            exact ⟨hpath.below hrest, hmet⟩
      · exact ih _ _ hhere hrest hlinks h

theorem staysIn_realFrom (hN : IsKind N) (depth : Nat) : StaysIn N (t.realFrom strict depth) := by
  induction depth with
  | zero =>
    intro p names links progress hp hnames hlinks h
    cases h
    exact ⟨hp.below hnames, hlinks⟩
  | succ depth ih => exact staysIn_realNames hN ih

/-! ## Real paths -/

theorem mem_collapse {names : List String} {n : String} (h : n ∈ collapse names) :
    n ∈ names ∧ n ≠ ".." := by
  unfold collapse at h
  induction names using List.reverseRecOn with
  | nil => cases h
  | append_singleton names name ih =>
    rw [List.foldl_append, List.foldl_cons, List.foldl_nil] at h
    split at h
    next =>
      obtain ⟨hmem, hne⟩ := ih (List.dropLast_subset _ h)
      exact ⟨List.mem_append_left _ hmem, hne⟩
    next hname =>
      rcases List.mem_append.1 h with h | h
      · obtain ⟨hmem, hne⟩ := ih h
        exact ⟨List.mem_append_left _ hmem, hne⟩
      · obtain rfl := List.mem_singleton.1 h
        exact ⟨List.mem_append_right _ h, hname⟩

/-- A real path is what following comes to, as an absolute path. -/
theorem exists_progress_of_realPath (h : t.realPath strict p = .ok real) :
    ∃ progress, t.realFrom strict (2 * t.linkCount + 2)
        (if p.isAbsolute then ⟨.single, []⟩ else ⟨.relative, []⟩) p.names [] = .ok progress ∧
      real = t.absolute progress.path := by
  obtain ⟨progress, hprogress, h⟩ := bind_ok_iff.1 h
  refine ⟨progress, hprogress, ?_⟩
  dsimp only at h
  split at h
  · cases h
    rfl
  · split at h
    · cases h
    · cases h
    · cases h
      rfl

/-- Following a path with names of a kind comes to a path with names of the kind. -/
theorem exists_madeOf_of_realPath (hN : IsKind N) (hp : ∀ n ∈ p.names, N n)
    (h : t.realPath strict p = .ok real) : ∃ q : Path, q.MadeOf N ∧ real = t.absolute q := by
  obtain ⟨progress, hprogress, rfl⟩ := exists_progress_of_realPath h
  have hstart : (if p.isAbsolute then (⟨.single, []⟩ : Path) else ⟨.relative, []⟩).MadeOf N := by
    split
    · exact ⟨by decide, by simp⟩
    · exact ⟨by decide, by simp⟩
  have hnone : LinksMadeOf N [] := by
    intro here real hlookup
    cases hlookup
  exact ⟨_, (staysIn_realFrom hN _ _ _ _ _ hstart hp hnone hprogress).1, rfl⟩

/-- A real path begins at the single root. -/
theorem root_of_realPath (h : t.realPath strict p = .ok real) : real.root = .single := by
  have hany : IsKind fun _ => True := ⟨trivial, fun _ _ _ => trivial⟩
  obtain ⟨q, hq, rfl⟩ := exists_madeOf_of_realPath hany (fun _ _ => trivial) h
  obtain ⟨root, names⟩ := q
  cases root with
  | relative => rfl
  | single => rfl
  | double => exact absurd rfl hq.root_ne

/-- The names of a real path are of the kind of those that it was made from, and none of them is
that of a parent. -/
theorem names_of_realPath (hN : IsKind N) (hworking : ∀ n ∈ t.workingPlace, N n)
    (hp : ∀ n ∈ p.names, N n) (h : t.realPath strict p = .ok real) :
    ∀ n ∈ real.names, N n ∧ n ≠ ".." := by
  obtain ⟨q, hq, rfl⟩ := exists_madeOf_of_realPath hN hp h
  intro n hn
  obtain ⟨hmem, hne⟩ := mem_collapse hn
  refine ⟨?_, hne⟩
  unfold Path.join at hmem
  split at hmem
  · exact hq.names n hmem
  · rcases List.mem_append.1 hmem with hmem | hmem
    · exact hworking n hmem
    · exact hq.names n hmem

end Kind

/-! ## Paths without a real path -/

/-- The reasons why a path has no real path even if its parts need not be there: a zero byte, or
links that lead in a circle. -/
inductive IsFatal : ResolveError → Prop where
  /-- There is a zero byte. -/
  | hasNull (shown : String) : IsFatal (.file ⟨.hasNull, shown⟩)
  /-- Links lead in a circle. -/
  | loop (shown : String) : IsFatal (.loop shown)

section Fatal

variable {t : FileTree} {e : ResolveError}

theorem isFatal_of_realNames {follow : Path → List String → Links → Except ResolveError Progress}
    (hfollow : ∀ p names links e, follow p names links = .error e → IsFatal e) {p : Path}
    {names : List String} {links : Links} (h : t.realNames false follow p names links = .error e) :
    IsFatal e := by
  induction names generalizing p links with
  | nil => cases h
  | cons name rest ih =>
    rw [realNames_cons] at h
    split at h
    · exact ih h
    · split at h
      · cases h
        exact .hasNull _
      · split at h
        · exact ih h
        · cases h
        · rcases bind_error_iff.1 h with hinner | ⟨inner, -, h⟩
          · exact hfollow _ _ _ _ hinner
          · split at h
            · exact ih h
            · cases h
      · exact ih h

theorem isFatal_of_realFrom {depth : Nat} {p : Path} {names : List String} {links : Links}
    (h : t.realFrom false depth p names links = .error e) : IsFatal e := by
  induction depth generalizing p names links e with
  | zero => cases h
  | succ depth ih => exact isFatal_of_realNames (fun _ _ _ _ => ih) h

/-- Where parts of a path need not be there, it has a real path unless a zero byte is met or links
lead in a circle. -/
theorem realPath_false_cases (t : FileTree) (p : Path) :
    (∃ real, t.realPath false p = .ok real) ∨ ∃ e, t.realPath false p = .error e ∧ IsFatal e := by
  cases h : t.realPath false p with
  | ok real => exact .inl ⟨real, rfl⟩
  | error e =>
    refine .inr ⟨e, rfl, ?_⟩
    rcases bind_error_iff.1 h with hprogress | ⟨progress, -, h⟩
    · exact isFatal_of_realFrom hprogress
    · dsimp only at h
      rw [if_neg (by simp)] at h
      split at h
      · cases h
        exact .loop _
      · cases h
        exact .hasNull _
      · cases h

end Fatal

end FileTree

end CompilerTest

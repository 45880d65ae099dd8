import CompilerTest.Proofs.FileTree.Straight

/-!
# Following to real places

A real path is found by asking the system about one name after the other, with a memo of the links
that were met, and with a bound on how deep links are followed into one another. None of this can be
seen from outside: the real path of a path is its real place, however it is spelled
(`realPath_of_realPlace`). Where links do not lead in a circle, every path without a zero byte has a
real path therefore, and no other path has one (`realPath_of_null`).
-/

namespace CompilerTest

namespace FileTree

variable {t : FileTree}

/-! ## Following one name -/

section Names

variable {depth : Nat} {p q real : Path} {place : Place} {name target : String}
  {rest : List String} {links links' : Links}

theorem realFrom_nil (hdepth : 0 < depth) :
    t.realFrom false depth p [] links = .ok ⟨p, true, links⟩ := by
  obtain ⟨depth, rfl⟩ := Nat.exists_eq_succ_of_ne_zero hdepth.ne'
  rfl

theorem realFrom_parent :
    t.realFrom false (depth + 1) p (".." :: rest) links =
      t.realFrom false (depth + 1) (ascend p) rest links := by
  rw [realFrom, realNames_cons, if_pos rfl]

/-- A name at which there is no link is kept. -/
theorem realFrom_name (ht : t.Proper) (hp : t.Stands p place) (hplace : t.Straight true place)
    (hname : Path.IsPlain name) (hlink : ∀ target, t.at? (place ++ [name]) ≠ some (.link target)) :
    t.realFrom false (depth + 1) p (name :: rest) links =
      t.realFrom false (depth + 1) (p.below [name]) rest links := by
  have hroute : ∀ target, t.route? (place ++ [name]) ≠ some (.link target) := by
    intro target hroute
    exact hlink target (Option.mem_filter_iff.1 hroute).1
  have hhere : t.Straight false (place ++ [name]) := hplace.snoc hname (by simp)
  rw [realFrom, realNames_cons, if_neg hname.ne_parent]
  rcases (hp.below [name]).outline_cases ht hhere with houtline | ⟨-, problem, houtline, hnull, -⟩
  · rw [houtline]
    split
    next hnull => cases hnull
    next target hthere => exact absurd (Except.ok.inj hthere) (hroute target)
    next => rfl
  · rw [houtline]
    split
    next hsame => exact absurd (Except.error.inj hsame) hnull
    next hsame => cases hsame
    next => rfl

theorem outline_seek_link (ht : t.Proper) (hp : t.Stands p place) (hplace : t.Straight true place)
    (hlink : t.at? (place ++ [name]) = some (.link target)) :
    outline (t.seek false false (p.below [name]).text) = .ok (some (.link target)) := by
  have hroute : t.route? (place ++ [name]) = some (.link target) := by
    rw [route?, hlink, Option.filter_some_pos rfl]
  have hhere : t.Straight false (place ++ [name]) :=
    hplace.snoc (ht.entry hlink).2.toIsPlain (by simp)
  rcases (hp.below [name]).outline_cases ht hhere with houtline | ⟨hnone, -⟩
  · rw [houtline, hroute]
  · rw [hroute] at hnone
    cases hnone

/-- A link that was followed before leads to where it led then. -/
theorem realFrom_link_again (ht : t.Proper) (hp : t.Stands p place) (hplace : t.Straight true place)
    (hlink : t.at? (place ++ [name]) = some (.link target))
    (hlookup : links.lookup (p.below [name]) = some (some real)) :
    t.realFrom false (depth + 1) p (name :: rest) links =
      t.realFrom false (depth + 1) real rest links := by
  rw [realFrom, realNames_cons, if_neg (ht.entry hlink).2.ne_parent,
    outline_seek_link ht hp hplace hlink]
  simp only [hlookup]

/-- A link that is new leads to where its target is followed to. -/
theorem realFrom_link_new (ht : t.Proper) (hp : t.Stands p place) (hplace : t.Straight true place)
    (hlink : t.at? (place ++ [name]) = some (.link target))
    (hlookup : links.lookup (p.below [name]) = none)
    (hfollow : t.realFrom false depth (if target.startsWith "/" then ⟨.single, []⟩ else p)
      (namesOf target) ((p.below [name], none) :: links) = .ok ⟨q, true, links'⟩) :
    t.realFrom false (depth + 1) p (name :: rest) links =
      t.realFrom false (depth + 1) q rest ((p.below [name], some q) :: links') := by
  rw [realFrom, realNames_cons, if_neg (ht.entry hlink).2.ne_parent,
    outline_seek_link ht hp hplace hlink]
  simp only [hlookup, hfollow]
  rfl

/-- A name with a zero byte is refused. -/
theorem realFrom_null (hname : name ≠ "..") (hnull : '\x00' ∈ (p.below [name]).text.toList) :
    t.realFrom false (depth + 1) p (name :: rest) links =
      .error (.file ⟨.hasNull, Text.quote (p.below [name]).text⟩) := by
  have htrace : t.trace false (p.below [name]).text = .error .hasNull := by
    rw [trace, if_pos (List.contains_iff_mem.2 hnull)]
  rw [realFrom, realNames_cons, if_neg hname, seek_false, outline_withEntry, htrace]
  rfl

end Names

/-! ## The memo -/

/-- What the memo says of links: those that were followed lead to their real places, and of the
others it is known that they are being followed. -/
structure Knows (t : FileTree) (links : Links) (pending : List Path) : Prop where
  followed {here real : Path} (h : links.lookup here = some (some real)) :
    ∃ dir name target n inner, t.Stands here (dir ++ [name]) ∧ ".." ∉ dir ++ [name] ∧
      t.at? (dir ++ [name]) = some (.link target) ∧
        t.Denotes n (startOf target dir) (namesOf target) inner ∧ t.Stands real inner
  following {here : Path} (h : links.lookup here = some none) : here ∈ pending

/-- Links that are being followed: they are different ones, and none of them leads anywhere less
than `n` deep. -/
structure Pending (t : FileTree) (n : Nat) (pending : List Path) : Prop where
  different : (pending.map t.absolute).Nodup
  deep {here : Path} (h : here ∈ pending) :
    ∃ dir name target, t.Stands here (dir ++ [name]) ∧ ".." ∉ dir ++ [name] ∧
      t.at? (dir ++ [name]) = some (.link target) ∧
        ∀ m < n, ∀ inner, ¬ t.Denotes m (startOf target dir) (namesOf target) inner

section Memo

variable {n m depth : Nat} {pending : List Path} {links : Links} {p here real : Path}
  {place dir inner : Place} {name target : String}

theorem knows_nil (t : FileTree) (pending : List Path) : t.Knows [] pending where
  followed h := by cases h
  following h := by cases h

/-- A link that is met becomes one that is being followed. -/
theorem Knows.meet (h : t.Knows links pending) (here : Path) :
    t.Knows ((here, none) :: links) (here :: pending) where
  followed {other real} hother := by
    rw [List.lookup_cons] at hother
    split at hother
    · cases hother
    · exact h.followed hother
  following {other} hother := by
    rw [List.lookup_cons] at hother
    split at hother
    next hsame => exact List.mem_cons.2 (.inl (beq_iff_eq.1 hsame))
    next => exact List.mem_cons_of_mem _ (h.following hother)

/-- A link that was followed is none of those that are being followed. -/
theorem Knows.leave (h : t.Knows links (here :: pending)) (hhere : t.Stands here (dir ++ [name]))
    (hnames : ".." ∉ dir ++ [name]) (hlink : t.at? (dir ++ [name]) = some (.link target))
    (hinner : t.Denotes n (startOf target dir) (namesOf target) inner)
    (hreal : t.Stands real inner) :
    t.Knows ((here, some real) :: links) pending where
  followed {other real'} hother := by
    rw [List.lookup_cons] at hother
    split at hother
    next hsame =>
      obtain rfl := beq_iff_eq.1 hsame
      obtain rfl := Option.some.inj (Option.some.inj hother)
      exact ⟨dir, name, target, n, inner, hhere, hnames, hlink, hinner, hreal⟩
    next => exact h.followed hother
  following {other} hother := by
    rw [List.lookup_cons] at hother
    split at hother
    next => cases hother
    next hother' =>
      refine (List.mem_cons.1 (h.following hother)).resolve_left ?_
      rintro rfl
      simp at hother'

theorem Stands.unique (ht : t.Proper) (h : t.Stands p place) (h' : t.Stands p dir)
    (hplace : ".." ∉ place) (hdir : ".." ∉ dir) : place = dir := by
  have hworking := (straight_workingPlace ht).ne_parent
  have hsame := h.absolute_eq hworking hplace
  rw [h'.absolute_eq hworking hdir] at hsame
  cases hsame
  rfl

theorem Pending.mono (h : t.Pending n pending) (hle : m ≤ n) : t.Pending m pending where
  different := h.different
  deep hhere := by
    obtain ⟨dir, name, target, hstands, hnames, hlink, hdeep⟩ := h.deep hhere
    exact ⟨dir, name, target, hstands, hnames, hlink, fun k hk => hdeep k (by omega)⟩

/-- A link that leads somewhere is none of those that are being followed. -/
theorem Pending.notMem (ht : t.Proper) (h : t.Pending n pending)
    (hhere : t.Stands here (dir ++ [name])) (hnames : ".." ∉ dir ++ [name])
    (hlink : t.at? (dir ++ [name]) = some (.link target)) (hlt : m < n)
    (hinner : t.Denotes m (startOf target dir) (namesOf target) inner) :
    ∀ p ∈ pending, t.absolute p ≠ t.absolute here := by
  intro p hp hsame
  obtain ⟨dir', name', target', hstands, hnames', hlink', hdeep⟩ := h.deep hp
  have hworking := (straight_workingPlace ht).ne_parent
  rw [hstands.absolute_eq hworking hnames', hhere.absolute_eq hworking hnames] at hsame
  obtain ⟨rfl, hname⟩ := List.append_inj' (congrArg Path.names hsame) rfl
  cases hname
  cases hlink.symm.trans hlink'
  exact hdeep m hlt inner hinner

/-- A link can be followed after the others if it leads nowhere less deep. -/
theorem Pending.cons (ht : t.Proper) (h : t.Pending n pending)
    (hhere : t.Stands here (dir ++ [name])) (hnames : ".." ∉ dir ++ [name])
    (hlink : t.at? (dir ++ [name]) = some (.link target)) (hlt : m < n)
    (hinner : t.Denotes m (startOf target dir) (namesOf target) inner)
    (hdeep : ∀ k < m, ∀ inner, ¬ t.Denotes k (startOf target dir) (namesOf target) inner) :
    t.Pending m (here :: pending) where
  different := by
    rw [List.map_cons, List.nodup_cons]
    refine ⟨fun hmem => ?_, h.different⟩
    obtain ⟨p, hp, hsame⟩ := List.mem_map.1 hmem
    exact h.notMem ht hhere hnames hlink hlt hinner p hp hsame
  deep {p} hp := by
    rcases List.mem_cons.1 hp with rfl | hp
    · exact ⟨dir, name, target, hhere, hnames, hlink, hdeep⟩
    · exact (h.mono hlt.le).deep hp

/-- There are not more links being followed than there are links. -/
theorem Pending.length_le (ht : t.Proper) (h : t.Pending n pending) :
    pending.length ≤ t.linkCount := by
  have hsub : pending.map (fun p => (t.absolute p).names) ⊆
      (t.entries.filter fun entry => t.hasLink entry.1).map Prod.fst := by
    intro place hplace
    obtain ⟨p, hp, rfl⟩ := List.mem_map.1 hplace
    obtain ⟨dir, name, target, hstands, hnames, hlink, -⟩ := h.deep hp
    rw [hstands.absolute_eq (straight_workingPlace ht).ne_parent hnames]
    have hentry := mem_entries_of_at? hlink (by simp)
    refine List.mem_map.2 ⟨_, List.mem_filter.2 ⟨hentry, ?_⟩, rfl⟩
    have hroute : t.route? (dir ++ [name]) = some (.link target) := by
      rw [route?, hlink, Option.filter_some_pos rfl]
    simp [hasLink, hroute]
  have hnodup : (pending.map (fun p => (t.absolute p).names)).Nodup := by
    refine List.Nodup.of_map (fun names => (⟨.single, names⟩ : Path)) ?_
    rw [List.map_map]
    refine (List.map_congr_left fun p hp => ?_) ▸ h.different
    obtain ⟨dir, name, target, hstands, hnames, -⟩ := h.deep hp
    rw [Function.comp_apply, hstands.absolute_eq (straight_workingPlace ht).ne_parent hnames]
  have hle := (List.subperm_of_subset hnodup hsub).length_le
  rw [List.length_map, List.length_map, ← List.countP_eq_length_filter] at hle
  rwa [linkCount_eq]

end Memo

/-! ## Following names -/

section Follow

variable {n depth : Nat} {pending : List Path} {links : Links} {p q : Path} {place last : Place}
  {names : List String}

/-- What leads to a place at all does so through as few links inside one another as possible. -/
theorem Denotes.exists_least (h : t.Denotes n place names last) :
    ∃ m ≤ n, t.Denotes m place names last ∧ ∀ k < m, ∀ other, ¬ t.Denotes k place names other := by
  classical
  have hexists : ∃ m, t.Denotes m place names last := ⟨n, h⟩
  refine ⟨Nat.find hexists, Nat.find_min' hexists h, Nat.find_spec hexists, ?_⟩
  intro k hk other hother
  obtain rfl := hother.unique h
  exact Nat.find_min hexists hk hother

/-- **Following names comes to a path that stands for their real place**, and goes on from there.
The induction is on how deep links lead through one another and, for one depth, on the names. A link
is followed at the least depth at which it leads anywhere, so none that is met on the way is being
followed already. -/
theorem exists_realFrom_eq (ht : t.Proper) (h : t.Denotes n place names last)
    (hparts : ∀ name ∈ names, Path.IsPart name) (hp : t.Stands p place)
    (hplace : t.Straight true place) (hpending : t.Pending n pending)
    (hknows : t.Knows links pending) (hdepth : t.linkCount < depth + pending.length)
    (rest : List String) :
    ∃ q links', t.Stands q last ∧ t.Knows links' pending ∧
      t.realFrom false depth p (names ++ rest) links = t.realFrom false depth q rest links' := by
  induction n using Nat.strong_induction_on generalizing depth place last names p pending links rest
    with | _ n ihdeep =>
  have hfewer := hpending.length_le ht
  obtain ⟨depth, rfl⟩ : ∃ d, depth = d + 1 := Nat.exists_eq_succ_of_ne_zero (by omega)
  induction names generalizing place p links with
  | nil =>
    cases h
    exact ⟨p, links, hp, hknows, rfl⟩
  | cons name names ih =>
    obtain ⟨hpart, hrest⟩ := List.forall_mem_cons.1 hparts
    rw [List.cons_append]
    cases h with
    | parent h =>
      have hup := hplace.of_prefix (List.dropLast_prefix _)
      rw [realFrom_parent]
      exact ih h hrest (hp.ascend hplace.ne_parent) hup hknows
    | name hname hnull hlink h =>
      have hplain : Path.IsPlain name := ⟨hpart, hname, hnull⟩
      rw [realFrom_name ht hp hplace hplain hlink]
      exact ih h hrest (hp.below [name]) (hplace.snoc hplain fun _ => hlink) hknows
    | @link n _ inner _ _ target _ hname hlink htarget h =>
      have hhere := hp.below [name]
      have hplain : ".." ∉ place ++ [name] := by simpa using ⟨hplace.ne_parent, Ne.symm hname⟩
      have hparts' : ∀ name ∈ namesOf target, Path.IsPart name :=
        fun _ => Path.isPart_of_mem_namesOf
      have hstart := straight_startOf hplace target
      have hinner := htarget.straight hstart hparts'
      rcases hlookup : links.lookup (p.below [name]) with _ | _ | real
      · -- it is new
        obtain ⟨m, hle, hleast, hdeep⟩ := htarget.exists_least
        have hlt := Nat.lt_succ_of_le hle
        have hpending' := hpending.cons ht hhere hplain hlink hlt hleast hdeep
        have hfewer' := hpending'.length_le ht
        rw [List.length_cons] at hfewer'
        obtain ⟨q, links', hq, hknows', hfollow⟩ := ihdeep m hlt hleast hparts'
          (hp.startOf target) hstart hpending' (hknows.meet _)
          (by rw [List.length_cons]; omega : t.linkCount < depth + _) []
        rw [List.append_nil, realFrom_nil (by omega)] at hfollow
        rw [realFrom_link_new ht hp hplace hlink hlookup hfollow]
        exact ih h hrest hq hinner (hknows'.leave hhere hplain hlink hleast hq)
      · -- it is being followed
        exact absurd rfl (hpending.notMem ht hhere hplain hlink (Nat.lt_succ_self n) htarget _
          (hknows.following hlookup))
      · -- it was followed before
        obtain ⟨dir, name', target', m, inner', hstands, hplain', hlink', htarget', hreal⟩ :=
          hknows.followed hlookup
        obtain ⟨rfl, hname'⟩ := List.append_inj' (hhere.unique ht hstands hplain hplain') rfl
        cases hname'
        cases hlink.symm.trans hlink'
        obtain rfl := htarget.unique htarget'
        rw [realFrom_link_again ht hp hplace hlink hlookup]
        exact ih h hrest hreal hinner hknows

end Follow

/-! ## Real paths -/

section Real

variable {p : Path} {place : Place} {names rest : List String} {n : Nat}

/-- Names are followed to a path that stands for their real place, whatever comes after them. -/
theorem exists_realFrom_of_denotes (ht : t.Proper) (hp : p.Spelled)
    (hnames : p.names = names ++ rest) (h : t.Denotes n (t.startPlace p) names place) :
    ∃ q links, t.Stands q place ∧ t.Straight true place ∧
      t.realFrom false (2 * t.linkCount + 2)
          (if p.isAbsolute then ⟨.single, []⟩ else ⟨.relative, []⟩) p.names [] =
        t.realFrom false (2 * t.linkCount + 2) q rest links := by
  have hparts : ∀ name ∈ names, Path.IsPart name :=
    fun name hname => hp name (hnames ▸ List.mem_append_left rest hname)
  have hstart := straight_startPlace ht p
  have hnone : t.Pending n [] := ⟨by simp, by simp⟩
  obtain ⟨q, links, hq, -, hsame⟩ := exists_realFrom_eq ht h hparts (stands_start t p) hstart hnone
    (knows_nil t []) (by rw [List.length_nil]; omega : t.linkCount < 2 * t.linkCount + 2 + _) rest
  exact ⟨q, links, hq, h.straight hstart hparts, hnames ▸ hsame⟩

/-- **The real path of a path is its real place.** -/
theorem realPath_of_realPlace (ht : t.Proper) (hp : p.Spelled) (h : t.RealPlace p place) :
    t.realPath false p = .ok ⟨.single, place⟩ := by
  obtain ⟨n, h⟩ := h
  obtain ⟨q, links, hq, hplace, hprogress⟩ :=
    exists_realFrom_of_denotes ht hp (List.append_nil p.names).symm h
  rw [realFrom_nil (by omega)] at hprogress
  have habsolute := hq.absolute_eq (straight_workingPlace ht).ne_parent hplace.ne_parent
  rw [realPath_eq_outline]
  dsimp only
  rw [hprogress]
  dsimp only [bind, Except.bind]
  rw [habsolute]
  rcases (Stands.absolute place).outline_cases ht hplace with houtline |
    ⟨-, problem, houtline, hnull, hmany⟩
  · rw [houtline]
  · rw [houtline]
    split
    next hsame => exact absurd (Except.error.inj hsame) hmany
    next hsame => exact absurd (Except.error.inj hsame) hnull
    next => rfl

/-- **A path with a zero byte has no real path**: the names before the zero byte are followed, and
the system refuses to be asked about it. -/
theorem realPath_of_null (ht : t.Proper) (hloops : t.NoLoops) (hp : p.Spelled) (h : ¬ p.NoNull) :
    ∃ shown, t.realPath false p = .error (.file ⟨.hasNull, shown⟩) := by
  have hsome : (p.names.find? fun name => '\x00' ∈ name.toList).isSome := by
    simpa [Path.NoNull] using h
  obtain ⟨name, hname⟩ := Option.isSome_iff_exists.1 hsome
  obtain ⟨hnull, before, after, hnames, hbefore⟩ := List.find?_eq_some_iff_append.1 hname
  rw [decide_eq_true_eq] at hnull
  obtain ⟨n, place, hplace⟩ := hloops.exists_denotes ht (t.startPlace p)
    (fun name hname => by simpa using hbefore name hname : ∀ name ∈ before, '\x00' ∉ name.toList)
  obtain ⟨q, links, hq, hstraight, hprogress⟩ := exists_realFrom_of_denotes ht hp hnames hplace
  have hspelled : (q.below [name]).Spelled := by
    intro other hother
    rcases List.mem_append.1 hother with hother | hother
    · exact hq.spelled hstraight.plain other hother
    · obtain rfl := List.mem_singleton.1 hother
      exact hp other (by simp [hnames])
  have htext : '\x00' ∈ (q.below [name]).text.toList := by
    by_contra hnone
    exact (null_notMem_text_iff hspelled).1 hnone name (by simp [Path.below]) hnull
  have hparent : name ≠ ".." := by
    rintro rfl
    revert hnull
    decide
  rw [realFrom_null hparent htext] at hprogress
  refine ⟨Text.quote (q.below [name]).text, ?_⟩
  rw [realPath_eq_outline]
  dsimp only
  rw [hprogress]
  rfl

/-- A path that the system follows to a place has a real path. -/
theorem realPath_of_locate (ht : t.Proper) (hp : p.Spelled) (h : t.locate true p.text = .ok place) :
    t.realPath false p = .ok ⟨.single, place⟩ :=
  realPath_of_realPlace ht hp (realPlace_of_locate ht hp h)

end Real

end FileTree

end CompilerTest

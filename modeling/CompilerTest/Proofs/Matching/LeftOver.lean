import CompilerTest.Proofs.Matching.Check
import Mathlib.Data.List.Nodup

/-!
# Messages that are left over

Unless the mode asks for nothing, a check reports the messages that it has left at or above the
required level, bucket by bucket. Main statement: every message is assigned to one expectation, or
left below that level, or listed in one report (`checkAnnotations_exhaustive`).
-/

namespace CompilerTest

namespace Matching

/-! ## The required level -/

/-- The levels of the expected patterns; a code has no level of its own. -/
def patternLevels (ms : List ErrorMatch) : List Level :=
  ms.filterMap fun m => match m.kind with
    | .pattern _ level => some level
    | .code _ => none

/-- Whether a level is the lowest of some levels. -/
def IsLowest (level : Level) (levels : List Level) : Prop :=
  level ∈ levels ∧ ∀ l ∈ levels, level.rank ≤ l.rank

theorem isLowest_foldl_lower (level : Level) (levels : List Level) :
    IsLowest (levels.foldl (fun a l => l.lower a) level) (level :: levels) := by
  induction levels generalizing level with
  | nil => simp [IsLowest]
  | cons l levels ih =>
    obtain ⟨hmem, hle⟩ := ih (l.lower level)
    have hl := hle (l.lower level) List.mem_cons_self
    rw [List.foldl_cons]
    by_cases hlt : l.rank < level.rank
    · rw [Level.lower, if_pos hlt] at hmem hle hl ⊢
      refine ⟨List.mem_cons_of_mem _ hmem, fun l' hl' => ?_⟩
      rcases List.mem_cons.1 hl' with rfl | hl'
      · omega
      · exact hle l' hl'
    · rw [Level.lower, if_neg hlt] at hmem hle hl ⊢
      refine ⟨?_, fun l' hl' => ?_⟩
      · rcases List.mem_cons.1 hmem with hmem | hmem
        · rw [hmem]; exact List.mem_cons_self
        · exact List.mem_cons_of_mem _ (List.mem_cons_of_mem _ hmem)
      · rcases List.mem_cons.1 hl' with rfl | hl'
        · exact hl
        · rcases List.mem_cons.1 hl' with rfl | hl'
          · omega
          · exact hle l' (List.mem_cons_of_mem _ hl')

/-- The level that matching computes is the lowest one of errors and the expected patterns. -/
theorem isLowest_lowestLevel (ms : List ErrorMatch) :
    IsLowest (lowestLevel ms) (.error :: patternLevels ms) := by
  have h : lowestLevel ms = (patternLevels ms).foldl (fun a l => l.lower a) .error := by
    rw [lowestLevel, patternLevels, List.foldl_filterMap]
    congr 1
    funext a m
    cases m.kind <;> rfl
  rw [h]
  exact isLowest_foldl_lower _ _

/-! ## Reports about what is left -/

/-- Messages of one bucket that are reported as left over, by their positions at the start. -/
structure Remainder where
  /-- The line of the bucket. -/
  line : Option Nat
  /-- The positions of the messages. -/
  indices : List Nat

namespace Remainder

/-- The messages that are reported. -/
def messages (start : Matching) (r : Remainder) : List Message :=
  r.indices.filterMap fun i => (start.bucket r.line)[i]?

/-- The report. -/
def report (start : Matching) (file : Path) (r : Remainder) : Discrepancy :=
  .unexpectedMessages (r.messages start) (r.line.map fun n => ⟨file, ⟨some file, some (.int n)⟩⟩)

/-- Whether the message at a spot is reported. -/
def lists (r : Remainder) (p : Spot) : Bool := r.line = p.line && r.indices.contains p.index

end Remainder

/-- The lines of a state, after the place of the messages without one. -/
def places (s : Matching) : List (Option Nat) := none :: (List.range s.lines.length).map some

/-- The positions of messages that are not assigned and not below a level. -/
def leftIndices (start : Matching) (level : Level) (spots : List (Option Spot))
    (line : Option Nat) : List Nat :=
  ((start.bucket line).zipIdx.filter fun x =>
    x.1.level.atLeast level && stays spots line x.2).map Prod.snd

/-- What is reported as left over. -/
def remainders (start : Matching) (level : Level) (spots : List (Option Spot)) : List Remainder :=
  (start.places.map fun line => ⟨line, leftIndices start level spots line⟩).filter
    fun r => !r.indices.isEmpty

theorem places_pairwise (s : Matching) : s.places.Pairwise (· < ·) := by
  rw [places, List.pairwise_cons, List.pairwise_map]
  refine ⟨fun line hline => ?_, List.pairwise_lt_range.imp fun h => by simpa using h⟩
  obtain ⟨n, -, rfl⟩ := List.mem_map.1 hline
  simp

theorem places_nodup (s : Matching) : s.places.Nodup := by
  refine s.places_pairwise.imp fun {line line'} hlt heq => ?_
  subst heq
  cases line <;> simp at hlt

theorem mem_places_of_bucket {s : Matching} {line : Option Nat} (h : s.bucket line ≠ []) :
    line ∈ s.places := by
  cases line with
  | none => simp [places]
  | some n => simpa [places] using lt_length_of_bucket h

theorem leftOnLines_eq (file : Path) (level : Level) (b : Nat → List Message) (n : Nat)
    (lines : List (List Message)) (h : ∀ i (hi : i < lines.length), lines[i] = b (n + i)) :
    leftOnLines file level n lines =
      ((List.range' n lines.length).filter fun k => !(atLevel level (b k)).isEmpty).map fun k =>
        .unexpectedMessages (atLevel level (b k)) (some ⟨file, ⟨some file, some (.int k)⟩⟩) := by
  induction lines generalizing n with
  | nil => simp [leftOnLines]
  | cons bucket lines ih =>
    have hn : bucket = b n := h 0 (by simp)
    have hrest := ih (n + 1) fun i hi => by
      rw [Nat.add_right_comm n 1 i]
      exact h (i + 1) (by simpa using hi)
    rw [leftOnLines, hrest, List.length_cons, List.range'_succ, hn]
    by_cases he : (atLevel level (b n)).isEmpty
    · simp [he]
    · simp [he]

/-- The reports, one for each place that has something left. -/
theorem leftOver_eq (file : Path) (level : Level) (s : Matching) :
    leftOver file level s =
      (s.places.filter fun line => !(atLevel level (s.bucket line)).isEmpty).map fun line =>
        .unexpectedMessages (atLevel level (s.bucket line))
          (line.map fun n => ⟨file, ⟨some file, some (.int n)⟩⟩) := by
  have hlines := leftOnLines_eq file level (fun k => s.bucket (some k)) 0 s.lines fun i hi => by
    rw [bucket_some, Nat.zero_add, List.getD_eq_getElem _ _ hi]
  rw [leftOver, hlines, places, ← List.range_eq_range']
  by_cases he : (atLevel level s.unknown).isEmpty
  · simp [he, List.filter_map, Function.comp_def]
  · simp [he, List.filter_map, Function.comp_def]

/-! ## Positions of what is left -/

section Indices

variable {codePrefix : String} {start left : Matching} {ws : List Wanted} {level : Level}
  {spots : List (Option Spot)} {line : Option Nat}

theorem mem_leftIndices {i : Nat} :
    i ∈ leftIndices start level spots line ↔
      ∃ m, (start.bucket line)[i]? = some m ∧ m.level.atLeast level = true ∧
        stays spots line i = true := by
  simp only [leftIndices, List.mem_map, List.mem_filter, Prod.exists, exists_eq_right,
    List.mem_zipIdx_iff_getElem?, Bool.and_eq_true]

/-- The positions stand in the order of the bucket. -/
theorem leftIndices_pairwise (start : Matching) (level : Level) (spots : List (Option Spot))
    (line : Option Nat) : (leftIndices start level spots line).Pairwise (· < ·) := by
  refine List.Pairwise.sublist (List.filter_sublist.map _) ?_
  rw [List.zipIdx_map_snd]
  exact List.pairwise_lt_range'

/-- The messages at the positions are those that matching leaves at or above the level. -/
theorem messages_leftIndices (h : Assigned codePrefix start ws spots left) (level : Level)
    (line : Option Nat) :
    Remainder.messages start ⟨line, leftIndices start level spots line⟩ =
      atLevel level (left.bucket line) := by
  rw [Remainder.messages, leftIndices, List.filterMap_map, h.bucket_eq, atLevel, keepAt,
    List.filter_map, List.filter_filter]
  rw [List.filterMap_congr (g := fun x => some x.1) fun x hx => ?_, List.filterMap_eq_map']
  · rfl
  · exact List.mem_zipIdx_iff_getElem?.1 (List.mem_of_mem_filter hx)

theorem leftIndices_isEmpty (h : Assigned codePrefix start ws spots left) (level : Level)
    (line : Option Nat) :
    (leftIndices start level spots line).isEmpty = (atLevel level (left.bucket line)).isEmpty := by
  rw [h.bucket_eq, atLevel, keepAt, List.filter_map, List.filter_filter, leftIndices,
    List.isEmpty_map, List.isEmpty_map]
  rfl

/-- The reports of a check are those about the positions that are left. -/
theorem leftOver_eq_remainders (h : Assigned codePrefix start ws spots left) (file : Path)
    (level : Level) :
    leftOver file level left =
      (remainders start level spots).map (Remainder.report start file) := by
  have hplaces : left.places = start.places := by rw [places, h.lines_length, places]
  rw [leftOver_eq, hplaces, remainders, List.filter_map, List.map_map]
  simp only [Function.comp_def, leftIndices_isEmpty h, Remainder.report, messages_leftIndices h]

/-- A message is listed by one report if its position is left, and by none otherwise. -/
theorem countP_lists (start : Matching) (level : Level) (spots : List (Option Spot)) (p : Spot) :
    (remainders start level spots).countP (·.lists p) =
      if p.index ∈ leftIndices start level spots p.line then 1 else 0 := by
  rw [remainders, List.countP_filter, List.countP_map]
  split
  · rename_i hmem
    have hplace : p.line ∈ start.places := by
      refine mem_places_of_bucket fun he => ?_
      obtain ⟨m, hm, -⟩ := mem_leftIndices.1 hmem
      simp [he] at hm
    have hnodup := start.places_nodup
    have hcount : start.places.countP (· == p.line) = 1 := List.count_eq_one_of_mem hnodup hplace
    rw [← hcount]
    refine List.countP_congr fun line _ => ?_
    simp only [Function.comp_def, Remainder.lists]
    constructor
    · intro hl
      simp_all
    · intro hl
      obtain rfl : line = p.line := by simpa using hl
      have hne : leftIndices start level spots p.line ≠ [] := List.ne_nil_of_mem hmem
      simp [hmem, hne]
  · rename_i hmem
    rw [List.countP_eq_zero]
    intro line _ hl
    simp only [Function.comp_def, Remainder.lists, Bool.and_eq_true, decide_eq_true_eq,
      List.contains_iff_mem] at hl
    exact hmem (hl.1.1 ▸ hl.1.2)

end Indices

/-! ## The account of all messages -/

/-- What has become of the messages of `start` when the expectations have the entries `spots`, the
state is `final`, and `rs` is reported as left over. -/
structure Accounted (start final : Matching) (level : Level) (spots : List (Option Spot))
    (rs : List Remainder) : Prop where
  /-- The messages without a line come first, and the lines ascend. -/
  ascending : rs.Pairwise fun r r' => r.line < r'.line
  /-- There is a report for each bucket that keeps a message at the level or above. -/
  exists_iff : ∀ line, (∃ r ∈ rs, r.line = line) ↔
    ∃ m ∈ final.bucket line, m.level.atLeast level = true
  /-- A report lists its positions in the order of the bucket. -/
  sorted : ∀ r ∈ rs, r.indices.Pairwise (· < ·)
  /-- A report lists the messages that are left at the level or above. -/
  messages_eq : ∀ r ∈ rs, r.messages start = atLevel level (final.bucket r.line)
  /-- A message is assigned once, or left below the level, or listed once. -/
  fate : ∀ p m, start.message? p = some m →
    spots.count (some p) = 1 ∧ rs.countP (·.lists p) = 0 ∨
    spots.count (some p) = 0 ∧ m.level.atLeast level = false ∧ rs.countP (·.lists p) = 0 ∨
    spots.count (some p) = 0 ∧ m.level.atLeast level = true ∧ rs.countP (·.lists p) = 1

theorem mem_remainders {start : Matching} {level : Level} {spots : List (Option Spot)}
    {r : Remainder} :
    r ∈ remainders start level spots ↔
      r.indices = leftIndices start level spots r.line ∧ r.indices ≠ [] := by
  obtain ⟨line, indices⟩ := r
  simp only [remainders, List.mem_filter, List.mem_map, Remainder.mk.injEq]
  constructor
  · rintro ⟨⟨line, -, rfl, rfl⟩, hne⟩
    exact ⟨rfl, by simpa using hne⟩
  · rintro ⟨rfl, hne⟩
    obtain ⟨i, hi⟩ := List.exists_mem_of_ne_nil _ hne
    obtain ⟨m, hm, -⟩ := mem_leftIndices.1 hi
    refine ⟨⟨line, mem_places_of_bucket fun he => ?_, rfl, rfl⟩, by simpa using hne⟩
    simp [he] at hm

theorem stays_eq_true_iff {spots : List (Option Spot)} {line : Option Nat} {i : Nat} :
    stays spots line i = true ↔ spots.count (some ⟨line, i⟩) = 0 := by
  rw [stays, decide_eq_true_eq, List.count_eq_zero]

/-- The account that a check gives of all messages. -/
theorem Assigned.accounted {codePrefix : String} {start left : Matching} {ws : List Wanted}
    {spots : List (Option Spot)} (h : Assigned codePrefix start ws spots left) (level : Level) :
    Accounted start left level spots (remainders start level spots) where
  ascending := List.Pairwise.filter _ (List.pairwise_map.2 start.places_pairwise)
  exists_iff line := by
    simp only [mem_remainders, h.bucket_eq, mem_keepAt]
    constructor
    · rintro ⟨r, ⟨hr, hne⟩, rfl⟩
      obtain ⟨i, hi⟩ := List.exists_mem_of_ne_nil _ hne
      obtain ⟨m, hm, hlevel, hstays⟩ := mem_leftIndices.1 (hr ▸ hi)
      exact ⟨m, ⟨i, hm, hstays⟩, hlevel⟩
    · rintro ⟨m, ⟨i, hm, hstays⟩, hlevel⟩
      have hi : i ∈ leftIndices start level spots line := mem_leftIndices.2 ⟨m, hm, hlevel, hstays⟩
      exact ⟨⟨line, leftIndices start level spots line⟩, ⟨rfl, List.ne_nil_of_mem hi⟩, rfl⟩
  sorted r hr := (mem_remainders.1 hr).1 ▸ leftIndices_pairwise start level spots r.line
  messages_eq r hr := by
    rw [← messages_leftIndices h level r.line, ← (mem_remainders.1 hr).1]
  fate p m hm := by
    have hmem : p.index ∈ leftIndices start level spots p.line ↔
        m.level.atLeast level = true ∧ spots.count (some p) = 0 := by
      rw [mem_leftIndices]
      constructor
      · rintro ⟨m', hm', hlevel, hstays⟩
        obtain rfl : m' = m := Option.some.inj (hm'.symm.trans hm)
        exact ⟨hlevel, stays_eq_true_iff.1 hstays⟩
      · rintro ⟨hlevel, hcount⟩
        exact ⟨m, hm, hlevel, stays_eq_true_iff.2 hcount⟩
    rw [countP_lists]
    rcases Nat.le_one_iff_eq_zero_or_eq_one.1 (h.injective p) with hcount | hcount
    · right
      by_cases hlevel : m.level.atLeast level = true
      · exact Or.inr ⟨hcount, hlevel, if_pos (hmem.2 ⟨hlevel, hcount⟩)⟩
      · exact Or.inl ⟨hcount, by simpa using hlevel, if_neg fun hi => hlevel (hmem.1 hi).1⟩
    · left
      refine ⟨hcount, if_neg fun hi => ?_⟩
      have := (hmem.1 hi).2
      omega

end Matching

namespace Case

/-- Whether a level is the required one: the one that is set or, if none is set, the lowest of
errors and the patterns that are expected on lines. -/
def IsRequired (c : Case) (level : Level) : Prop :=
  ∃ setting, c.findOne "\x60require_annotations_for_level\x60 annotations"
      DirectiveSet.requiredLevel = .ok setting ∧
    match setting with
    | some value => level = value.content
    | none => Matching.IsLowest level (.error :: Matching.patternLevels c.errorMatches)

theorem isRequired_of_requiredLevel {c : Case} {level : Level} (h : c.requiredLevel = .ok level) :
    c.IsRequired level := by
  unfold requiredLevel at h
  rcases hs : c.findOne "\x60require_annotations_for_level\x60 annotations"
      DirectiveSet.requiredLevel with f | _ | value
  · rw [hs] at h
    cases h
  · rw [hs] at h
    obtain rfl := Except.ok.inj h
    exact ⟨none, hs, Matching.isLowest_lowestLevel _⟩
  · rw [hs] at h
    obtain rfl := Except.ok.inj h
    exact ⟨some value, hs, rfl⟩

/-- **Every message is accounted for.** Unless the mode asks for nothing, a check that completes has
kept the errors that were there, reported the expectations without a message and then what is left,
such that each message is assigned to one expectation, or left below the required level, or listed
in one report. -/
theorem checkAnnotations_exhaustive {c : Case} {start final : Matching} {mode : Spanned Mode}
    (h : outcome c.checkAnnotations start = (.ok (), final)) (hmode : c.mode = .ok mode)
    (hne : mode.content ≠ .yolo) :
    ∃ codePrefix level spots rs, c.codePrefix = .ok codePrefix ∧ c.IsRequired level ∧
      Matching.Assigned codePrefix start c.wanted spots final ∧
      Matching.Accounted start final level spots rs ∧
      final.errors = start.errors ++
        (Matching.missing c.wanted spots).map (Wanted.notFound codePrefix) ++
        rs.map (Matching.Remainder.report start c.path) ++
        Matching.modeConflict mode c.lastExpectation := by
  obtain ⟨codePrefix, level, mode', u, hp, hl, hm, hrun, rfl⟩ := checkAnnotations_ok_iff.1 h
  obtain rfl : mode' = mode := Except.ok.inj (hm.symm.trans hmode)
  obtain ⟨spots, hassigned, herrors⟩ := Matching.Assigned.of_run hrun
  have hfinal := hassigned.withErrors (u.errors ++ c.closing level mode' u)
  refine ⟨codePrefix, level, spots, Matching.remainders start level spots, hp,
    isRequired_of_requiredLevel hl, hfinal, hfinal.accounted level, ?_⟩
  show u.errors ++ c.closing level mode' u = _
  rw [closing, if_pos hne, Matching.leftOver_eq_remainders hassigned, herrors]
  simp only [List.append_assoc]

theorem rivals_exhaustive :
    outcome rivals.checkAnnotations (.ofDiagnostics rivalMessages) = (.ok (), rivalOutcome) ∧
      rivals.mode = .ok ⟨.fail true, {}⟩ ∧ Mode.fail true ≠ .yolo ∧
      ∃ codePrefix level spots rs, rivals.codePrefix = .ok codePrefix ∧ rivals.IsRequired level ∧
        Matching.Assigned codePrefix (.ofDiagnostics rivalMessages) rivals.wanted spots
          rivalOutcome ∧
        Matching.Accounted (.ofDiagnostics rivalMessages) rivalOutcome level spots rs ∧
        rivalOutcome.errors = [] ++
          (Matching.missing rivals.wanted spots).map (Wanted.notFound codePrefix) ++
          rs.map (Matching.Remainder.report (.ofDiagnostics rivalMessages) rivals.path) ++
          Matching.modeConflict ⟨.fail true, {}⟩ rivals.lastExpectation :=
  ⟨rfl, rfl, by decide, checkAnnotations_exhaustive rfl rfl (by decide)⟩

end Case

end CompilerTest

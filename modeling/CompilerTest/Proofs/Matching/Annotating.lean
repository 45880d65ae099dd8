import CompilerTest.Proofs.Matching.Modes

/-!
# Expecting what was reported

Who expects every message that a check has reported on a line silences exactly these reports. Main
statement: with one expectation for each of these messages, added behind all others, the check
reports what it has reported before but for the messages on lines (`checkAnnotations_annotated`).

The added expectations are handled last, in the order of the reports. So each finds its own message
as the first one that is left at the required level, and none of the others loses its message.
-/

namespace CompilerTest

namespace Discrepancy

/-- Whether a discrepancy is about messages that are left on a line. -/
def isOnLine : Discrepancy → Bool
  | unexpectedMessages _ (some _) => true
  | _ => false

/-- Whether a discrepancy is about a test that expects nothing. -/
def isNoPatterns : Discrepancy → Bool
  | noPatterns => true
  | _ => false

/-- The messages that are reported as left on a line, with that line. -/
def reported : Discrepancy → List (Number × Message)
  | unexpectedMessages ms (some ⟨_, ⟨_, some line⟩⟩) => ms.map (line, ·)
  | _ => []

/-- A report about an expectation is of no other kind. -/
theorem silent_of_isNotFound {d : Discrepancy} (h : d.isNotFound = true) :
    d.reported = [] ∧ d.isOnLine = false ∧ d.isNoPatterns = false := by
  cases d with
  | patternNotFound | codeNotFound => exact ⟨rfl, rfl, rfl⟩
  | exitStatus | commandFailed | outputDiffers | unexpectedMessages | patternInPassingTest
    | noPatterns | multipleValues | auxiliary => cases h

end Discrepancy

/-- Whether an expectation is for a message on a line: it has the line, the level and, not as a
regular expression, the whole text. -/
def Annotates (reported : Number × Message) (m : ErrorMatch) : Prop :=
  ∃ span, m = ⟨.pattern ⟨{ text := reported.2.text }, span⟩ reported.2.level, reported.1⟩

/-- The diagnostics that hold messages which are added one after the other. -/
def Diagnostics.ofEntries (entries : List (Option Int × Message)) : Diagnostics :=
  entries.foldl (fun d (line, m) => d.push line m) {}

/-- No message is ever added to the bucket of line zero. -/
theorem Diagnostics.lines_ofEntries (entries : List (Option Int × Message)) :
    ∃ rest, (ofEntries entries).lines = [] :: rest := by
  have h : ∀ d : Diagnostics, (∃ rest, d.lines = [] :: rest) →
      ∃ rest, (entries.foldl (fun d (line, m) => d.push line m) d).lines = [] :: rest := by
    induction entries with
    | nil => exact fun d hd => hd
    | cons e entries ih =>
      intro d hd
      refine ih _ ?_
      obtain ⟨rest, hd⟩ := hd
      obtain ⟨_ | n, m⟩ := e
      · exact ⟨rest, hd⟩
      · by_cases hn : n ≤ 0
        · exact ⟨rest, by simp [push, hn, hd]⟩
        · obtain ⟨k, hk⟩ : ∃ k, n.toNat = k + 1 := ⟨n.toNat - 1, by omega⟩
          exact ⟨addAt m k rest, by simp [push, hn, hd, hk, addAt]⟩
  exact h {} ⟨[], rfl⟩

/-! ## Directives with further expectations -/

namespace Directives

/-- Sets of directives with expectations added to the last one that passes a test. -/
def annotateLast (applies : DirectiveSet → Bool) (ms : List ErrorMatch) :
    List DirectiveSet → List DirectiveSet
  | [] => []
  | s :: rest =>
    if rest.any applies then s :: annotateLast applies ms rest
    else if applies s then { s with errorMatches := s.errorMatches ++ ms } :: rest
    else s :: rest

section AnnotateLast

variable {applies : DirectiveSet → Bool} {ms : List ErrorMatch} {sets : List DirectiveSet}

/-- What does not depend on expectations is the same in all sets. -/
theorem map_annotateLast {β : Type} (p : DirectiveSet → Bool) (g : DirectiveSet → β)
    (hp : ∀ s es, p { s with errorMatches := es } = p s)
    (hg : ∀ s es, g { s with errorMatches := es } = g s) :
    ((annotateLast applies ms sets).filter p).map g = (sets.filter p).map g := by
  induction sets with
  | nil => rfl
  | cons s sets ih =>
    rw [annotateLast]
    split
    · by_cases hs : p s
      · rw [List.filter_cons_of_pos hs, List.filter_cons_of_pos hs, List.map_cons, List.map_cons,
          ih]
      · rw [List.filter_cons_of_neg hs, List.filter_cons_of_neg hs, ih]
    · split
      · rw [List.filter_cons, List.filter_cons, hp]
        split
        · rw [List.map_cons, List.map_cons, hg]
        · rfl
      · rfl

/-- The added expectations come after all others. -/
theorem errorMatches_annotateLast
    (happlies : ∀ s es, applies { s with errorMatches := es } = applies s)
    (h : sets.filter applies ≠ []) :
    ((annotateLast applies ms sets).filter applies).flatMap (·.errorMatches) =
      (sets.filter applies).flatMap (·.errorMatches) ++ ms := by
  induction sets with
  | nil => exact absurd rfl h
  | cons s sets ih =>
    rw [annotateLast]
    split
    next hrest =>
      have hne : sets.filter applies ≠ [] := by simpa [List.filter_eq_nil_iff] using hrest
      by_cases hs : applies s
      · rw [List.filter_cons_of_pos hs, List.filter_cons_of_pos hs, List.flatMap_cons,
          List.flatMap_cons, ih hne, List.append_assoc]
      · rw [List.filter_cons_of_neg hs, List.filter_cons_of_neg hs, ih hne]
    next hrest =>
      have hnone : sets.filter applies = [] := by simpa [List.filter_eq_nil_iff] using hrest
      have hs : applies s := by
        by_contra hs
        rw [List.filter_cons_of_neg hs] at h
        exact h hnone
      rw [if_pos hs, List.filter_cons_of_pos hs, List.filter_cons_of_pos (by rwa [happlies]), hnone]
      simp

theorem findOne_annotateLast {α : Type} (d : Directives) (revision kind : String)
    (setting : DirectiveSet → Option (Spanned α))
    (hset : ∀ s es, setting { s with errorMatches := es } = setting s) :
    findOne { d with sets := annotateLast applies ms d.sets } revision kind setting =
      d.findOne revision kind setting := by
  have hvalues : ∀ p : DirectiveSet → Bool, (∀ s es, p { s with errorMatches := es } = p s) →
      ((annotateLast applies ms d.sets).filter p).filterMap setting =
        (d.sets.filter p).filterMap setting := by
    intro p hp
    rw [← Function.id_comp setting, ← List.filterMap_map, ← List.filterMap_map,
      map_annotateLast p setting hp hset]
  rw [findOne, findOne, specific, specific, general, general, hvalues _ fun _ _ => rfl,
    hvalues _ fun _ _ => rfl]

end AnnotateLast

end Directives

namespace Case

/-- The case with expectations added to the last set of directives that applies. -/
def annotate (c : Case) (ms : List ErrorMatch) : Case :=
  { c with directives := { c.directives with
    sets := Directives.annotateLast (·.appliesTo c.revision) ms c.directives.sets } }

section Annotate

variable (c : Case) (ms : List ErrorMatch)

theorem findOne_annotate {α : Type} (kind : String) (setting : DirectiveSet → Option (Spanned α))
    (hset : ∀ s es, setting { s with errorMatches := es } = setting s) :
    (c.annotate ms).findOne kind setting = c.findOne kind setting :=
  Directives.findOne_annotateLast c.directives c.revision kind setting hset

theorem codePrefix_annotate : (c.annotate ms).codePrefix = c.codePrefix := by
  rw [codePrefix, codePrefix, findOne_annotate c ms _ _ fun _ _ => rfl]

theorem mode_annotate : (c.annotate ms).mode = c.mode := by
  show Directives.mode _ c.revision = Directives.mode _ c.revision
  rw [Directives.mode, Directives.mode]
  congr 1
  exact findOne_annotate c ms _ _ fun _ _ => rfl

theorem otherFiles_annotate : (c.annotate ms).otherFiles = c.otherFiles := by
  rw [otherFiles, otherFiles, List.flatMap_def, List.flatMap_def]
  exact congrArg List.flatten (Directives.map_annotateLast _ _ (fun _ _ => rfl) fun _ _ => rfl)

theorem errorMatches_annotate (h : c.sets ≠ []) :
    (c.annotate ms).errorMatches = c.errorMatches ++ ms :=
  Directives.errorMatches_annotateLast (fun _ _ => rfl) h

end Annotate

end Case

namespace Matching

/-! ## What is left at a level -/

/-- The messages of a level or above in buckets, with the numbers of their lines, from line `n`
on. -/
def pending (level : Level) (n : Nat) : List (List Message) → List (Nat × Message)
  | [] => []
  | bucket :: rest => (atLevel level bucket).map (n, ·) ++ pending level (n + 1) rest

section Pending

variable {level : Level} {n k : Nat} {m : Message} {lines : List (List Message)}

theorem mem_pending (h : (k, m) ∈ pending level n lines) :
    ∃ i, k = n + i ∧ m ∈ lines.getD i [] ∧ m.level.atLeast level = true := by
  induction lines generalizing n with
  | nil => cases h
  | cons bucket lines ih =>
    rcases List.mem_append.1 h with h | h
    · obtain ⟨m', hm', heq⟩ := List.mem_map.1 h
      cases heq
      obtain ⟨hmem, hlevel⟩ := List.mem_filter.1 hm'
      exact ⟨0, rfl, hmem, hlevel⟩
    · obtain ⟨i, hk, hmem, hlevel⟩ := ih h
      exact ⟨i + 1, by omega, hmem, hlevel⟩

/-- The first of these messages: all that stands before it in its bucket is below the level. -/
theorem pending_cons {rest : List (Nat × Message)} (h : pending level n lines = (k, m) :: rest) :
    ∃ before low post after, lines = before ++ (low ++ m :: post) :: after ∧
      k = n + before.length ∧ (∀ x ∈ low, x.level.atLeast level = false) ∧
      m.level.atLeast level = true ∧ pending level n (before ++ (low ++ post) :: after) = rest := by
  induction lines generalizing n with
  | nil => cases h
  | cons bucket lines ih =>
    rw [pending] at h
    cases hleft : atLevel level bucket with
    | nil =>
      rw [hleft, List.map_nil, List.nil_append] at h
      obtain ⟨before, low, post, after, hlines, hk, hlow, hm, hrest⟩ := ih h
      refine ⟨bucket :: before, low, post, after, by rw [hlines]; rfl,
        by rw [hk, List.length_cons]; omega, hlow, hm, ?_⟩
      rw [List.cons_append, pending, hleft, hrest]
      rfl
    | cons m' ms =>
      rw [hleft, List.map_cons, List.cons_append] at h
      obtain ⟨hkm, hrest⟩ := List.cons.inj h
      cases hkm
      obtain ⟨low, post, rfl, hlow, hm, hpost⟩ := List.filter_eq_cons_iff.1 hleft
      refine ⟨[], low, post, lines, rfl, rfl, fun x hx => by simpa using hlow x hx, hm, ?_⟩
      have hnone : low.filter (·.level.atLeast level) = [] :=
        List.filter_eq_nil_iff.2 fun x hx => by simpa using hlow x hx
      rw [List.nil_append, pending, atLevel, List.filter_append, hnone, hpost, List.nil_append,
        ← hrest]

/-- Reports about lines are about these messages. -/
theorem reported_leftOnLines (file : Path) (level : Level) (n : Nat) (lines : List (List Message)) :
    (leftOnLines file level n lines).flatMap Discrepancy.reported =
      (pending level n lines).map fun (k, m) => (.int k, m) := by
  induction lines generalizing n with
  | nil => rfl
  | cons bucket lines ih =>
    rw [leftOnLines, pending, List.map_append, ← ih]
    cases atLevel level bucket <;> simp [Discrepancy.reported]

theorem leftOnLines_of_pending (file : Path) (h : pending level n lines = []) :
    leftOnLines file level n lines = [] := by
  induction lines generalizing n with
  | nil => rfl
  | cons bucket lines ih =>
    obtain ⟨hbucket, hrest⟩ := List.append_eq_nil_iff.1 h
    rw [leftOnLines, List.map_eq_nil_iff.1 hbucket, ih hrest]
    rfl

end Pending

/-! ## Matching the added expectations -/

/-- The first item that passes a test is taken. -/
theorem takeFirst_append {ε : Type} {test : Message → Except ε Bool} {low : List Message}
    {m : Message} (hlow : ∀ x ∈ low, test x = .ok false) (hm : test m = .ok true)
    (post : List Message) : takeFirst test (low ++ m :: post) = .ok (some (low ++ post)) := by
  induction low with
  | nil => rw [List.nil_append, takeFirst_cons, hm]; rfl
  | cons x low ih =>
    rw [List.cons_append, takeFirst_cons, hlow x List.mem_cons_self,
      ih fun y hy => hlow y (List.mem_cons_of_mem _ hy)]
    rfl

/-- A text stands in itself. -/
theorem fits_self (text : String) : Pattern.fits { text } text = .ok true := by
  have h : ∀ l : List Char, Text.occursIn l l = true := by
    intro l
    cases l with
    | nil => rfl
    | cons c l =>
      rw [Text.occursIn, List.isPrefixOf_iff_prefix.2 (List.prefix_refl _), Bool.true_or]
  exact congrArg Except.ok (h text.toList)

/-- An expectation for the first message that is left at a level takes this message. -/
theorem outcome_matchLine_of_pending {level : Level} {k : Nat} {m : Message} {s : Matching}
    {a : ErrorMatch} {rest : List (Nat × Message)} (codePrefix : String)
    (h : pending level 0 s.lines = (k, m) :: rest) (ha : Annotates (.int k, m) a) :
    ∃ lines, outcome (matchLine codePrefix a) s = (.ok (), { s with lines }) ∧
      pending level 0 lines = rest := by
  obtain ⟨before, low, post, after, hlines, hk, hlow, hm, hrest⟩ := pending_cons h
  obtain ⟨span, rfl⟩ := ha
  refine ⟨before ++ (low ++ post) :: after, ?_, hrest⟩
  rw [Nat.zero_add] at hk
  have hposition : position s.lines.length (.int k) = .ok (some k) := by
    have hlt : k < s.lines.length := by rw [hlines, hk, List.length_append, List.length_cons]; omega
    simp [position, Number.below, hlt]
  have hbucket : s.bucket (some k) = low ++ m :: post := by
    rw [bucket_some, hlines, hk, List.getD_append_right _ _ _ _ (Nat.le_refl _), Nat.sub_self]
    rfl
  -- what stands before the message is of a lower level, and so of another one
  have hrefused : ∀ x ∈ low,
      satisfies codePrefix (.pattern ⟨{ text := m.text }, span⟩ m.level) x = .ok false := by
    intro x hx
    have hne : x.level ≠ m.level := by
      intro he
      have hx := hlow x hx
      rw [he, hm] at hx
      cases hx
    rw [satisfies, if_neg hne]
  have htest : satisfies codePrefix (.pattern ⟨{ text := m.text }, span⟩ m.level) m = .ok true := by
    rw [satisfies, if_pos rfl]
    exact fits_self m.text
  have hset : s.lines.set k (low ++ post) = before ++ (low ++ post) :: after := by
    rw [hlines, hk, List.set_append_right _ _ (Nat.le_refl _), Nat.sub_self, List.set_cons_zero]
  rw [outcome_matchLine]
  simp only [hposition, hbucket, takeFirst_append hrefused htest, hset]

/-- Expectations for all messages that are left at a level take these messages and nothing else. -/
theorem outcome_annotations {level : Level} {ps : List (Nat × Message)} {as : List ErrorMatch}
    (codePrefix : String) {s : Matching} (hs : pending level 0 s.lines = ps)
    (has : List.Forall₂ Annotates (ps.map fun (k, m) => (.int k, m)) as) :
    ∃ lines, outcome (as.forM (matchLine codePrefix)) s = (.ok (), { s with lines }) ∧
      pending level 0 lines = [] := by
  induction ps generalizing s as with
  | nil =>
    cases has
    exact ⟨s.lines, outcome_forM_nil _ s, hs⟩
  | cons p ps ih =>
    cases has with
    | @cons _ a _ as ha has =>
      obtain ⟨lines, hstep, hrest⟩ := outcome_matchLine_of_pending codePrefix hs ha
      obtain ⟨lines', hrun, hnone⟩ := ih (s := { s with lines }) hrest has
      exact ⟨lines', (outcome_bind_of_ok hstep).trans hrun, hnone⟩

end Matching

namespace Case

/-! ## The check with the added expectations -/

section Annotated

variable {c : Case} {level : Level} {as : List ErrorMatch} {mode : Spanned Mode} {required : Bool}

/-- Expectations for messages on lines are proper ones, since no message is on line zero. -/
theorem proper_of_annotates {ps : List (Nat × Message)} (hps : ∀ p ∈ ps, 0 < p.1)
    (has : List.Forall₂ Annotates (ps.map fun (k, m) => (.int k, m)) as) :
    ∀ a ∈ as, ErrorMatch.of? a.kind a.line = some a := by
  induction ps generalizing as with
  | nil =>
    cases has
    simp
  | cons p ps ih =>
    cases has with
    | @cons _ a _ as ha has =>
      obtain ⟨span, rfl⟩ := ha
      have hp := hps p List.mem_cons_self
      intro a ha
      rcases List.mem_cons.1 ha with rfl | ha
      · have hbelow : ¬(p.1 : Int) < 1 := by omega
        simp [ErrorMatch.of?, Number.below, hbelow]
      · exact ih (fun q hq => hps q (List.mem_cons_of_mem _ hq)) has a ha

/-- Expectations for messages of a level that is the lowest one already do not lower it. -/
theorem lowestLevel_append {ms : List ErrorMatch} {ps : List (Number × Message)}
    (hps : ∀ p ∈ ps, (Matching.lowestLevel ms).rank ≤ p.2.level.rank)
    (has : List.Forall₂ Annotates ps as) :
    Matching.lowestLevel (ms ++ as) = Matching.lowestLevel ms := by
  rw [Matching.lowestLevel, List.foldl_append, ← Matching.lowestLevel]
  induction has with
  | nil => rfl
  | @cons p a ps as ha has ih =>
    obtain ⟨span, rfl⟩ := ha
    have hle := hps p List.mem_cons_self
    rw [List.foldl_cons]
    simp only [Level.lower, if_neg (Nat.not_lt.2 hle)]
    exact ih fun q hq => hps q (List.mem_cons_of_mem _ hq)

/-- Expectations for messages at the required level do not change it. -/
theorem requiredLevel_annotate {ps : List (Number × Message)} (hsets : c.sets ≠ [])
    (hl : c.requiredLevel = .ok level) (hps : ∀ p ∈ ps, p.2.level.atLeast level = true)
    (has : List.Forall₂ Annotates ps as) : (c.annotate as).requiredLevel = .ok level := by
  rw [requiredLevel] at hl ⊢
  rw [findOne_annotate c as _ _ fun _ _ => rfl, errorMatches_annotate c as hsets]
  rcases hset : c.findOne "\x60require_annotations_for_level\x60 annotations"
      DirectiveSet.requiredLevel with f | _ | value
  · rw [hset] at hl
    cases hl
  · rw [hset] at hl
    obtain rfl := Except.ok.inj hl
    refine congrArg Except.ok (lowestLevel_append (fun p hp => ?_) has)
    simpa [Level.atLeast] using hps p hp
  · rw [hset] at hl
    exact hl

/-- The reports about messages without a line come before those about lines. -/
theorem leftOver_eq_append (file : Path) (level : Level) (s : Matching) :
    ∃ first, Matching.leftOver file level s = first ++ Matching.leftOnLines file level 0 s.lines ∧
      (∀ d ∈ first, d.reported = [] ∧ d.isOnLine = false ∧ d.isNoPatterns = false) ∧
      ∀ lines, Matching.leftOver file level { s with lines } =
        first ++ Matching.leftOnLines file level 0 lines := by
  cases h : Matching.atLevel level s.unknown with
  | nil =>
    exact ⟨[], by simp [Matching.leftOver, h], by simp,
      fun lines => by simp [Matching.leftOver, h]⟩
  | cons m ms =>
    exact ⟨[.unexpectedMessages (m :: ms) none], by simp [Matching.leftOver, h],
      by simp [Discrepancy.reported, Discrepancy.isOnLine, Discrepancy.isNoPatterns],
      fun lines => by simp [Matching.leftOver, h]⟩

/-- Whether a report stays when expectations are added for messages on lines. -/
def staysReported (as : List ErrorMatch) (d : Discrepancy) : Bool :=
  !(d.isOnLine || !as.isEmpty && d.isNoPatterns)

theorem lastExpectation_annotate (hsets : c.sets ≠ []) :
    (c.annotate as).lastExpectation = none ↔ c.lastExpectation = none ∧ as = [] := by
  rw [lastExpectation_eq, lastExpectation_eq, lastSpan_eq_none_iff, lastSpan_eq_none_iff,
    errorMatches_annotate c as hsets, otherFiles_annotate, List.append_eq_nil_iff]
  tauto

/-- In a test that has to fail, added expectations can only take away the report about a test that
expects nothing. -/
theorem modeConflict_annotate (hsets : c.sets ≠ []) (hfail : mode.content = .fail required) :
    Matching.modeConflict mode (c.annotate as).lastExpectation =
      (Matching.modeConflict mode c.lastExpectation).filter (staysReported as) := by
  have hlast : (c.annotate as).lastExpectation = none ↔ c.lastExpectation = none ∧ as = [] :=
    lastExpectation_annotate hsets
  cases required with
  | false => simp [Matching.modeConflict, hfail]
  | true =>
    cases h : c.lastExpectation with
    | some span =>
      obtain ⟨span', h'⟩ : ∃ span', (c.annotate as).lastExpectation = some span' := by
        rw [← Option.ne_none_iff_exists']
        intro hnone
        rw [(hlast.1 hnone).1] at h
        cases h
      simp [Matching.modeConflict, hfail, h']
    | none =>
      cases as with
      | nil => simp [Matching.modeConflict, hfail, hlast.2 ⟨h, rfl⟩, staysReported,
          Discrepancy.isOnLine]
      | cons a as =>
        obtain ⟨span', h'⟩ : ∃ span', (c.annotate (a :: as)).lastExpectation = some span' := by
          rw [← Option.ne_none_iff_exists']
          intro hnone
          cases (hlast.1 hnone).2
        simp [Matching.modeConflict, hfail, h', staysReported, Discrepancy.isOnLine,
          Discrepancy.isNoPatterns]

/-- The reports at the end are, as far as lines go, about the messages that are left on them. -/
theorem reported_closing (hfail : mode.content = .fail required) (s : Matching) :
    (c.closing level mode s).flatMap Discrepancy.reported =
      (Matching.pending level 0 s.lines).map fun (k, m) => (.int k, m) := by
  obtain ⟨first, hleft, hfirst, -⟩ := leftOver_eq_append c.path level s
  have hnone : first.flatMap Discrepancy.reported = [] :=
    List.flatMap_eq_nil_iff.2 fun d hd => (hfirst d hd).1
  have hconflict :
      (Matching.modeConflict mode c.lastExpectation).flatMap Discrepancy.reported = [] := by
    cases required <;> cases c.lastExpectation <;>
      simp [Matching.modeConflict, hfail, Discrepancy.reported]
  rw [closing, if_pos (by simp [hfail]), List.flatMap_append, hconflict, hleft,
    List.flatMap_append, hnone, Matching.reported_leftOnLines, List.nil_append, List.append_nil]

/-- The reports at the end with the added expectations, when nothing is left on lines. -/
theorem closing_annotate (hsets : c.sets ≠ []) (hfail : mode.content = .fail required)
    (s : Matching) {lines : List (List Message)} (hlines : Matching.pending level 0 lines = []) :
    (c.annotate as).closing level mode { s with lines } =
      (c.closing level mode s).filter (staysReported as) := by
  obtain ⟨first, hleft, hfirst, hleft'⟩ := leftOver_eq_append c.path level s
  have hstays : first.filter (staysReported as) = first :=
    List.filter_eq_self.2 fun d hd => by simp [staysReported, hfirst d hd]
  have hgone : (Matching.leftOnLines c.path level 0 s.lines).filter (staysReported as) = [] := by
    refine List.filter_eq_nil_iff.2 fun d hd => ?_
    obtain ⟨ms, path, rfl⟩ := Matching.mem_leftOnLines hd
    simp [staysReported, Discrepancy.isOnLine]
  show (if _ then Matching.leftOver c.path level { s with lines } else []) ++ _ = _
  rw [closing, if_pos (by simp [hfail]), if_pos (by simp [hfail]), List.filter_append, hleft,
    hleft', Matching.leftOnLines_of_pending c.path hlines, List.filter_append, hstays, hgone,
    modeConflict_annotate hsets hfail]

/-- **Who expects what was reported on lines silences exactly that.** In a test that has to fail,
let there be one further expectation for each message that is reported on a line, in order. All of
them are proper expectations, and with them the check completes and reports what it has reported
before, but for the messages on lines and, if there is anything to add, for the report that nothing
is expected. -/
theorem checkAnnotations_annotated {entries : List (Option Int × Message)} {final : Matching}
    (hsets : c.sets ≠ []) (hmode : c.mode = .ok mode) (hfail : mode.content = .fail required)
    (h : outcome c.checkAnnotations (.ofDiagnostics (.ofEntries entries)) = (.ok (), final))
    (has : List.Forall₂ Annotates (final.errors.flatMap Discrepancy.reported) as) :
    (∀ a ∈ as, ErrorMatch.of? a.kind a.line = some a) ∧
      ∃ t, outcome (c.annotate as).checkAnnotations (.ofDiagnostics (.ofEntries entries)) =
          (.ok (), t) ∧
        t.errors = final.errors.filter fun d =>
          !(d.isOnLine || !as.isEmpty && d.isNoPatterns) := by
  obtain ⟨codePrefix, level, mode', u, hp, hl, hm, hrun, rfl⟩ := checkAnnotations_ok_iff.1 h
  obtain rfl : mode' = mode := Except.ok.inj (hm.symm.trans hmode)
  have hnotFound := Wanted.isNotFound_of_run rfl hrun
  have hsilent : ∀ d ∈ u.errors, d.reported = [] ∧ staysReported as d = true := by
    intro d hd
    obtain ⟨hreported, hline, hnone⟩ := Discrepancy.silent_of_isNotFound (hnotFound d hd)
    exact ⟨hreported, by simp [staysReported, hline, hnone]⟩
  have hreported : (u.errors ++ c.closing level mode' u).flatMap Discrepancy.reported =
      (Matching.pending level 0 u.lines).map fun (k, m) => (.int k, m) := by
    rw [List.flatMap_append, reported_closing hfail,
      List.flatMap_eq_nil_iff.2 fun d hd => (hsilent d hd).1, List.nil_append]
  rw [hreported] at has
  have hzero : u.bucket (some 0) = [] := by
    obtain ⟨rest, hrest⟩ := Diagnostics.lines_ofEntries entries
    obtain ⟨spots, hassigned, -⟩ := Matching.Assigned.of_run hrun
    rw [hassigned.bucket_eq, Matching.bucket_some, Matching.ofDiagnostics, hrest]
    rfl
  refine ⟨proper_of_annotates (fun p hp => ?_) has, ?_⟩
  · obtain ⟨i, hi, hmem, -⟩ := Matching.mem_pending hp
    rw [hi, Nat.zero_add, Nat.pos_iff_ne_zero]
    rintro rfl
    rw [← Matching.bucket_some, hzero] at hmem
    cases hmem
  · obtain ⟨lines, hadded, hnone⟩ := Matching.outcome_annotations codePrefix rfl has
    have hlevels : ∀ p ∈ (Matching.pending level 0 u.lines).map
        fun (k, m) => ((.int k : Number), m), p.2.level.atLeast level = true := by
      intro p hp
      obtain ⟨q, hq, rfl⟩ := List.mem_map.1 hp
      obtain ⟨i, -, -, hlevel⟩ := Matching.mem_pending hq
      exact hlevel
    obtain ⟨v, hv, hu⟩ := outcome_wanted_ok_iff.1 hrun
    have hrun' : outcome ((c.annotate as).wanted.forM (Wanted.step codePrefix))
        (.ofDiagnostics (.ofEntries entries)) = (.ok (), { u with lines }) := by
      rw [outcome_wanted_ok_iff, otherFiles_annotate, errorMatches_annotate c as hsets]
      exact ⟨v, hv, (outcome_forM_append_ok_iff _ _ _).2 ⟨u, hu, hadded⟩⟩
    refine ⟨_, checkAnnotations_ok_iff.2 ⟨codePrefix, level, mode', { u with lines },
      (codePrefix_annotate c as).trans hp, requiredLevel_annotate hsets hl hlevels has,
      (mode_annotate c as).trans hm, hrun', rfl⟩, ?_⟩
    show u.errors ++ _ = (u.errors ++ _).filter (staysReported as)
    rw [closing_annotate hsets hfail u hnone, List.filter_append,
      List.filter_eq_self.2 fun d hd => (hsilent d hd).2]

end Annotated

/-! ## A test that expects nothing yet -/

/-- A test that has to fail and expects nothing. -/
def unannotated : Case where
  config := default
  revision := ""
  directives := { sets := [{}] }
  path := ⟨.relative, ["ui", "new.rs"]⟩
  auxDir := ⟨.relative, ["ui", "auxiliary"]⟩

/-- Messages whose texts stand in one another, and one without a line. -/
def newMessages : List (Option Int × Message) := [
  (some 2, ⟨.help, "a type mismatch", none⟩), (some 2, ⟨.error, "type mismatch", none⟩),
  (some 2, ⟨.error, "mismatch", none⟩), (none, ⟨.error, "linking failed", none⟩),
  (some 3, ⟨.error, "mismatch", none⟩)]

/-- What is left of the messages, and what is reported. -/
def unannotatedOutcome : Matching where
  lines := [[], [], [⟨.help, "a type mismatch", none⟩, ⟨.error, "type mismatch", none⟩,
    ⟨.error, "mismatch", none⟩], [⟨.error, "mismatch", none⟩]]
  unknown := [⟨.error, "linking failed", none⟩]
  errors := [
    .unexpectedMessages [⟨.error, "linking failed", none⟩] none,
    .unexpectedMessages [⟨.error, "type mismatch", none⟩, ⟨.error, "mismatch", none⟩]
      (some ⟨unannotated.path, ⟨some unannotated.path, some (.int 2)⟩⟩),
    .unexpectedMessages [⟨.error, "mismatch", none⟩]
      (some ⟨unannotated.path, ⟨some unannotated.path, some (.int 3)⟩⟩),
    .noPatterns]

/-- An expectation for each message that is reported on a line. -/
def newMatches : List ErrorMatch := [
  ⟨.pattern ⟨{ text := "type mismatch" }, ⟨none, some (.int 7)⟩⟩ .error, .int 2⟩,
  ⟨.pattern ⟨{ text := "mismatch" }, {}⟩ .error, .int 2⟩,
  ⟨.pattern ⟨{ text := "mismatch" }, {}⟩ .error, .int 3⟩]

theorem unannotated_annotated :
    unannotated.sets ≠ [] ∧ unannotated.mode = .ok ⟨.fail true, {}⟩ ∧
      outcome unannotated.checkAnnotations (.ofDiagnostics (.ofEntries newMessages)) =
        (.ok (), unannotatedOutcome) ∧
      List.Forall₂ Annotates (unannotatedOutcome.errors.flatMap Discrepancy.reported) newMatches ∧
      ∃ t, outcome (unannotated.annotate newMatches).checkAnnotations
          (.ofDiagnostics (.ofEntries newMessages)) = (.ok (), t) ∧
        t.errors = [.unexpectedMessages [⟨.error, "linking failed", none⟩] none] := by
  have hsets : unannotated.sets ≠ [] := List.cons_ne_nil _ _
  have hrun : outcome unannotated.checkAnnotations (.ofDiagnostics (.ofEntries newMessages)) =
      (.ok (), unannotatedOutcome) := rfl
  have hmatches :
      List.Forall₂ Annotates (unannotatedOutcome.errors.flatMap Discrepancy.reported) newMatches :=
    .cons ⟨_, rfl⟩ (.cons ⟨_, rfl⟩ (.cons ⟨_, rfl⟩ .nil))
  obtain ⟨-, t, ht, herrors⟩ := checkAnnotations_annotated hsets rfl rfl hrun hmatches
  exact ⟨hsets, rfl, hrun, hmatches, t, ht, herrors⟩

end Case

end CompilerTest

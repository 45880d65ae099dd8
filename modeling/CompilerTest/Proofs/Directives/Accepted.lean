import CompilerTest.Directives.Loader
import CompilerTest.Proofs.Outcome
import CompilerTest.Proofs.Shapes

/-!
# Accepted directives

A document that is accepted has passed the check of its shape and the checks of its parts. What this
says of the expectations in it: their patterns can be used, and their lines are whole numbers from
one on (`wellFormed_of_ofJson`). The shape does not say how such a number is written.
-/

namespace CompilerTest

/-! ## Usable patterns -/

/-- Whether a pattern can be used: a regular expression has to be one. -/
def Pattern.IsUsable (p : Pattern) : Prop := p.regex = true → ∃ r, Regex.ofText p.text = .ok r

theorem Pattern.IsUsable.fits_ne_error {p : Pattern} (h : p.IsUsable) (message : String)
    (e : Regex.Error) : p.fits message ≠ .error e := by
  unfold fits
  split_ifs with hregex
  · obtain ⟨r, hr⟩ := h hregex
    simp [hr, bind, Except.bind, pure, Except.pure]
  · simp

/-- Whether an expectation can be used: its pattern, if it has one, has to be usable. -/
def Expectation.IsUsable : Expectation → Prop
  | pattern p _ => p.content.IsUsable
  | code _ => True

/-- Whether an expectation is one that a document may hold: its line is a whole number from one on,
and it can be used. -/
structure ErrorMatch.WellFormed (m : ErrorMatch) : Prop where
  /-- The line is a whole number. -/
  exists_line : ∃ k : Int, m.line.whole? = some k ∧ 1 ≤ k
  /-- Messages can be compared with what is expected. -/
  usable : m.kind.IsUsable

namespace Directives

open Json Json.Check

/-! ## Shapes -/

/-- The lines are the whole numbers from one on, however they are written. -/
theorem lineShape_eq_none_iff {v : Json} :
    lineShape v = none ↔ ∃ x k, v = .number x ∧ x.whole? = some k ∧ 1 ≤ k := by
  simp only [lineShape, all_eq_none_iff, List.mem_cons, List.not_mem_nil, or_false,
    forall_eq_or_imp, forall_eq, kind_eq_none_iff, exists_eq_left, isOf_integer_iff,
    atLeast_eq_none_iff]
  constructor
  · rintro ⟨⟨x, k, rfl, hx⟩, hleast⟩
    have hbelow := hleast x rfl
    rw [← Bool.not_eq_true, Number.below_iff_of_whole hx] at hbelow
    exact ⟨x, k, rfl, hx, by omega⟩
  · rintro ⟨x, k, rfl, hx, hk⟩
    refine ⟨⟨x, k, rfl, hx⟩, ?_⟩
    rintro _ ⟨⟩
    rw [← Bool.not_eq_true, Number.below_iff_of_whole hx]
    omega

/-- What a record has, and what its members pass. -/
theorem of_record {required : List String} {members : List (String × Check)} {v : Json}
    (h : record required members v = none) :
    (∀ name ∈ required, v.has name = true) ∧
      ∀ name check, (name, check) ∈ members → ∀ w, v.get? name = some w → check w = none := by
  simp only [record, all_eq_none_iff, List.mem_append, List.mem_cons, List.not_mem_nil, or_false,
    List.mem_map, or_imp, forall_and, forall_eq] at h
  obtain ⟨⟨hkind, hrequired, -⟩, hmembers⟩ := h
  obtain ⟨k, hk, hobject⟩ := kind_eq_none_iff.1 hkind
  obtain rfl := List.mem_singleton.1 hk
  refine ⟨required_eq_none_iff.1 hrequired hobject, fun name check hmem => ?_⟩
  exact member_eq_none_iff.1 (hmembers _ ⟨_, hmem, rfl⟩)

/-- A record has no other members than those that it is made of. -/
theorem mem_of_record {required : List String} {members : List (String × Check)} {v : Json}
    (h : record required members v = none) {name : String} (hname : v.has name = true) :
    name ∈ members.map Prod.fst :=
  mem_of_closed (all_eq_none_iff.1 h _ (by simp)) hname

/-- An expected message has a line. -/
theorem exists_line_of_shape {v : Json}
    (h : either [patternMatchShape, codeMatchShape] v = none) :
    ∃ x k, v.get? "line" = some (.number x) ∧ x.whole? = some k ∧ 1 ≤ k := by
  have hline : v.has "line" = true ∧ ∀ w, v.get? "line" = some w → lineShape w = none := by
    obtain ⟨check, hcheck, hv⟩ := either_eq_none_iff.1 h
    simp only [List.mem_cons, List.not_mem_nil, or_false] at hcheck
    rcases hcheck with rfl | rfl
    · obtain ⟨hrequired, hmembers⟩ := of_record hv
      exact ⟨hrequired _ (by simp), hmembers _ _ (by simp)⟩
    · obtain ⟨hrequired, hmembers⟩ := of_record hv
      exact ⟨hrequired _ (by simp), hmembers _ _ (by simp)⟩
  obtain ⟨w, hw⟩ := Option.isSome_iff_exists.1 hline.1
  obtain ⟨x, k, rfl, hx, hk⟩ := lineShape_eq_none_iff.1 (hline.2 w hw)
  exact ⟨x, k, hw, hx, hk⟩

/-! ## Reading -/

/-- What is read from a list is read from its items. -/
theorem exists_of_forItems {α : Type} {read : Nat → Json → Except Fault α} {i : Nat}
    {items : List Json} {as : List α} (h : forItems read i items = .ok as) :
    ∀ a ∈ as, ∃ j, ∃ v ∈ items, read j v = .ok a := by
  induction items generalizing i as with
  | nil =>
    cases h
    simp
  | cons v items ih =>
    simp only [forItems, bind_ok_iff] at h
    obtain ⟨a, ha, as', has', h⟩ := h
    cases h
    rintro b (_ | ⟨_, hb⟩)
    · exact ⟨i, v, List.mem_cons_self, ha⟩
    · obtain ⟨j, w, hw, hread⟩ := ih has' b hb
      exact ⟨j, w, List.mem_cons_of_mem _ hw, hread⟩

/-- A regular expression that is let through can be used. -/
theorem ok_of_checked {α : Type} {reject : Regex.Error → DirectivesError}
    {x : Except Regex.Error α} {a : α} (h : checked reject x = .ok a) : x = .ok a := by
  unfold checked at h
  split at h
  · cases h
    rfl
  · cases h
  · cases h

theorem usable_of_readPattern {set position : Nat} {list : String} {span : Span} {v : Json}
    {p : Spanned Pattern} (h : readPattern set list position span v = .ok p) :
    p.content.IsUsable := by
  unfold readPattern at h
  dsimp only at h
  split_ifs at h with hregex
  · obtain ⟨r, hr, h⟩ := bind_ok_iff.1 h
    cases h
    exact fun _ => ⟨r, ok_of_checked hr⟩
  · cases h
    exact fun htrue => absurd htrue hregex

theorem eq_of_errorMatch {kind : Expectation} {line : Number} {m : ErrorMatch}
    (h : ErrorMatch.of? kind line = some m) : m = ⟨kind, line⟩ := by
  unfold ErrorMatch.of? at h
  split at h
  · cases h
  · exact (Option.some.inj h).symm

theorem of_readErrorMatch {file : Path} {set position : Nat} {v : Json} {m : ErrorMatch}
    (h : readErrorMatch file set position v = .ok m) :
    m.line = (numberOf? v "line").getD (.int 1) ∧ m.kind.IsUsable := by
  unfold readErrorMatch at h
  dsimp only at h
  split_ifs at h
  · obtain ⟨_, ⟨⟩, h⟩ := bind_ok_iff.1 h
    split at h
    · next hm =>
      cases h
      rw [eq_of_errorMatch hm]
      exact ⟨rfl, trivial⟩
    · cases h
  · obtain ⟨p, hp, h⟩ := bind_ok_iff.1 h
    obtain ⟨level, -, h⟩ := bind_ok_iff.1 h
    obtain ⟨_, ⟨⟩, h⟩ := bind_ok_iff.1 h
    split at h
    · next hm =>
      cases h
      rw [eq_of_errorMatch hm]
      exact ⟨rfl, usable_of_readPattern hp⟩
    · cases h

/-- What a set of directives is read from, part by part. -/
structure ReadFrom (file : Path) (set : Nat) (v : Json) (s : DirectiveSet) : Prop where
  span : s.span = ⟨some file, numberOf? v "line"⟩
  revisions : s.revisions = textsOf v "revisions"
  compileFlags : s.compileFlags = textsOf v "compile_flags"
  env : s.env =
    ((v.get? "env").map Json.members |>.getD []).filterMap fun m => m.2.text?.map (m.1, ·)
  auxBuilds : s.auxBuilds = (itemsOf v "aux_builds").map fun aux =>
    ⟨.ofText (textOf aux "path"), ⟨some file, (numberOf? aux "line").or s.span.line⟩⟩
  errorMatches :
    forItems (readErrorMatch file set) 0 (itemsOf v "error_matches") = .ok s.errorMatches
  otherFiles :
    forItems
      (fun i w =>
        readPattern set "error_in_other_files" i
          ⟨some file, (numberOf? w "annotation_line").or s.span.line⟩ w)
      0 (itemsOf v "error_in_other_files") = .ok s.otherFiles
  normalizeStdout :
    forItems (readNormalization set "normalize_stdout") 0 (itemsOf v "normalize_stdout") =
      .ok s.normalizeStdout
  normalizeStderr :
    forItems (readNormalization set "normalize_stderr") 0 (itemsOf v "normalize_stderr") =
      .ok s.normalizeStderr
  codePrefix : s.codePrefix =
    if v.has "diagnostic_code_prefix" then some ⟨textOf v "diagnostic_code_prefix", s.span⟩
    else none
  requiredLevel :
    if v.has "require_annotations_for_level" then
      ∃ level, readLevel (textOf v "require_annotations_for_level") = .ok level ∧
        s.requiredLevel = some ⟨level, s.span⟩
    else s.requiredLevel = none
  perBitwidth : s.perBitwidth = flagOf v "stderr_per_bitwidth" false
  mode : ∃ mode, readMode set v = .ok mode ∧ s.mode = mode.map (⟨·, s.span⟩)
  custom :
    (((v.get? "custom").map Json.members |>.getD []).mapM fun m => readFlag set s.span m.1 m.2) =
      .ok s.custom

theorem readFrom_of_readSet {file : Path} {set : Nat} {v : Json} {s : DirectiveSet}
    (h : readSet file set v = .ok s) : ReadFrom file set v s := by
  unfold readSet at h
  dsimp only at h
  obtain ⟨_, hms, h⟩ := bind_ok_iff.1 h
  obtain ⟨_, hps, h⟩ := bind_ok_iff.1 h
  obtain ⟨_, hout, h⟩ := bind_ok_iff.1 h
  obtain ⟨_, herr, h⟩ := bind_ok_iff.1 h
  -- the level is read if there is one; the rest of the reading is the same in both cases
  split at h
  case isTrue hlevel =>
    obtain ⟨level, hread, h⟩ := bind_ok_iff.1 h
    obtain ⟨_, ⟨⟩, h⟩ := bind_ok_iff.1 h
    obtain ⟨mode, hmode, h⟩ := bind_ok_iff.1 h
    obtain ⟨_, hcustom, h⟩ := bind_ok_iff.1 h
    cases h
    exact ⟨rfl, rfl, rfl, rfl, rfl, hms, hps, hout, herr, rfl,
      by rw [if_pos hlevel]; exact ⟨level, hread, rfl⟩, rfl, ⟨mode, hmode, rfl⟩, hcustom⟩
  case isFalse hlevel =>
    obtain ⟨_, ⟨⟩, h⟩ := bind_ok_iff.1 h
    obtain ⟨mode, hmode, h⟩ := bind_ok_iff.1 h
    obtain ⟨_, hcustom, h⟩ := bind_ok_iff.1 h
    cases h
    exact ⟨rfl, rfl, rfl, rfl, rfl, hms, hps, hout, herr, rfl, by rw [if_neg hlevel], rfl,
      ⟨mode, hmode, rfl⟩, hcustom⟩

theorem of_readSet {file : Path} {set : Nat} {v : Json} {s : DirectiveSet}
    (h : readSet file set v = .ok s) :
    (∀ m ∈ s.errorMatches, ∃ i, ∃ w ∈ itemsOf v "error_matches",
        readErrorMatch file set i w = .ok m) ∧
      ∀ p ∈ s.otherFiles, p.content.IsUsable := by
  have hfrom := readFrom_of_readSet h
  refine ⟨exists_of_forItems hfrom.errorMatches, fun p hp => ?_⟩
  obtain ⟨_, _, -, hread⟩ := exists_of_forItems hfrom.otherFiles p hp
  exact usable_of_readPattern hread

/-- What the directives of a document are read from. -/
theorem sets_of_ofJson {file : Path} {v : Json} {d : Directives} (h : ofJson file v = .ok d) :
    shape v = none ∧ d.revisions = textsOf v "revisions" ∧
      forItems (readDeclaredSet file d.revisions) 0 (itemsOf v "directives") = .ok d.sets := by
  unfold ofJson at h
  split at h
  case h_1 => cases h
  case h_2 hshape =>
    obtain ⟨sets, hsets, h⟩ := bind_ok_iff.1 h
    cases h
    exact ⟨hshape, rfl, hsets⟩

/-- A set whose revisions are declared is read as one. -/
theorem of_readDeclaredSet {file : Path} {declared : List String} {set : Nat} {v : Json}
    {s : DirectiveSet} (h : readDeclaredSet file declared set v = .ok s) :
    (∀ revision ∈ textsOf v "revisions", revision ∈ declared) ∧ readSet file set v = .ok s := by
  unfold readDeclaredSet at h
  dsimp only at h
  split_ifs at h with hunknown
  refine ⟨fun revision hrevision => ?_, h⟩
  rw [List.isEmpty_iff, List.filter_eq_nil_iff] at hunknown
  simpa using hunknown revision hrevision

theorem of_ofJson {file : Path} {v : Json} {d : Directives} (h : ofJson file v = .ok d) :
    shape v = none ∧
      ∀ s ∈ d.sets, ∃ i, ∃ w ∈ itemsOf v "directives", readSet file i w = .ok s := by
  obtain ⟨hshape, -, hsets⟩ := sets_of_ofJson h
  refine ⟨hshape, fun s hs => ?_⟩
  obtain ⟨i, w, hw, hread⟩ := exists_of_forItems hsets s hs
  exact ⟨i, w, hw, (of_readDeclaredSet hread).2⟩

/-- What is read from a member that is a list of checked items has passed the check. -/
theorem of_listOf {item : Check} {name : String} {v w : Json}
    (h : ∀ u, v.get? name = some u → listOf item u = none) (hw : w ∈ itemsOf v name) :
    item w = none := by
  unfold itemsOf at hw
  cases hu : v.get? name with
  | none => simp [hu] at hw
  | some u =>
    have hlist := all_eq_none_iff.1 (h u hu) (each item) (by simp)
    exact each_eq_none_iff.1 hlist w (by simpa [hu] using hw)

/-- The items that are read as expectations have passed their check. -/
theorem shape_of_mem {v w u : Json} (h : shape v = none) (hw : w ∈ itemsOf v "directives")
    (hu : u ∈ itemsOf w "error_matches") : either [patternMatchShape, codeMatchShape] u = none := by
  have hset : setShape w = none :=
    of_listOf (member_eq_none_iff.1 (all_eq_none_iff.1 h _ (by simp))) hw
  have hlist : member "error_matches" (listOf (either [patternMatchShape, codeMatchShape])) w =
      none :=
    all_eq_none_iff.1 hset _ (by simp [setMembers])
  exact of_listOf (member_eq_none_iff.1 hlist) hu

variable {file : Path} {v : Json} {d : Directives} {s : DirectiveSet}

/-- **Accepted expectations** can be used, and they are for lines. -/
theorem wellFormed_of_ofJson (h : ofJson file v = .ok d) (hs : s ∈ d.sets) {m : ErrorMatch}
    (hm : m ∈ s.errorMatches) : m.WellFormed := by
  obtain ⟨hshape, hsets⟩ := of_ofJson h
  obtain ⟨i, w, hw, hread⟩ := hsets s hs
  obtain ⟨j, u, hu, hm⟩ := (of_readSet hread).1 m hm
  obtain ⟨hline, husable⟩ := of_readErrorMatch hm
  obtain ⟨x, k, hx, hk, hpos⟩ := exists_line_of_shape (shape_of_mem hshape hw hu)
  refine ⟨⟨k, ?_, hpos⟩, husable⟩
  rw [hline, numberOf?, hx]
  exact hk

/-- Accepted patterns for other files can be used. -/
theorem usable_of_ofJson (h : ofJson file v = .ok d) (hs : s ∈ d.sets) {p : Spanned Pattern}
    (hp : p ∈ s.otherFiles) : p.content.IsUsable := by
  obtain ⟨i, w, -, hread⟩ := (of_ofJson h).2 s hs
  exact (of_readSet hread).2 p hp

end Directives

end CompilerTest

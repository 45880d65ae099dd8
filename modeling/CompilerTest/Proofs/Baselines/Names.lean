import CompilerTest.Proofs.Baselines.Distinct
import CompilerTest.Proofs.Decimals
import CompilerTest.Proofs.Directives.Accepted
import CompilerTest.Proofs.Paths

/-!
# The names of the files beside a test

The files of the expected outputs and of the input of a test are named after it: the stem of the
test, the width of pointers if a set for the revision asks for it, the revision, and the kind of the
file. There is no such file if the revision holds a slash, which the shape of a document does not
rule out. The width is written as in the configuration, so one that is given with a fraction of zero
makes another name than the integer.

Main statement: for documents that are accepted, it is said here where these files are, and when
there are none (`besideFiles_named`).
-/

namespace CompilerTest

namespace Path

/-! ## Files beside a file -/

/-- Whether a file lies beside another one, under the stem of its name and further parts after
dots. -/
structure IsBeside (p : Path) (parts : List String) (q : Path) : Prop where
  parent_eq : q.parent = p.parent
  name_eq : q.name = String.intercalate "." (p.stem :: parts)
  /-- If the one path can be spelled, so can the other. -/
  spelled (hp : p.Spelled) : q.Spelled

section IsBeside

variable {p : Path} {parts : List String}

theorem stemOf_subset (name : String) : (stemOf name).toList ⊆ name.toList := by
  unfold stemOf
  split
  · rw [String.toList_ofList]
    exact List.take_subset _ _
  · exact List.Subset.refl _

theorem slash_not_mem_stem (hp : p.Spelled) : '/' ∉ p.stem.toList := by
  intro h
  have hname := stemOf_subset p.name h
  rw [name] at hname
  cases hlast : p.names.getLast? with
  | none => simp [hlast] at hname
  | some last =>
    rw [hlast, Option.getD_some] at hname
    exact (hp last (List.mem_of_getLast? hlast)).1 hname

theorem slash_mem_intercalate_iff : '/' ∈ (String.intercalate "." parts).toList ↔
    ∃ part ∈ parts, '/' ∈ part.toList := by
  induction parts with
  | nil => simp
  | cons part parts ih =>
    by_cases hparts : parts = []
    · simp [hparts]
    · rw [String.intercalate_cons_of_ne_nil hparts, List.exists_mem_cons_iff, ← ih]
      simp

theorem withSuffix_of_slash {rest : String} (hslash : '/' ∈ rest.toList) :
    p.withSuffix ("." ++ rest) = .error (.invalid ("." ++ rest)) := by
  have hcontains : ("." ++ rest).toList.contains '/' = true := by
    rw [String.toList_append, List.contains_iff_mem]
    exact List.mem_append_right _ hslash
  rw [withSuffix, if_pos (by rw [hcontains]; rfl)]

theorem isName_stem_append {rest : String} (hrest : rest ≠ "") :
    isName (p.stem ++ ("." ++ rest)) = true := by
  have hpos : 0 < rest.toList.length := by
    rw [List.length_pos_iff, Ne, String.toList_eq_nil_iff]
    exact hrest
  rw [isName, Bool.and_eq_true, decide_eq_true_iff, decide_eq_true_iff]
  refine ⟨by simp [String.append_eq_empty_iff], fun h => ?_⟩
  have hlength := congrArg (fun s : String => s.toList.length) h
  simp at hlength
  omega

/-- The suffix of a path is replaced by parts after dots if none of them holds a slash. -/
theorem exists_isBeside (hname : p.name ≠ "") (hparts : String.intercalate "." parts ≠ "")
    (hslash : ∀ part ∈ parts, '/' ∉ part.toList) :
    ∃ q, p.withSuffix ("." ++ String.intercalate "." parts) = .ok q ∧ p.IsBeside parts q := by
  have hmem : '/' ∉ (String.intercalate "." parts).toList := fun h => by
    obtain ⟨part, hpart, hslash'⟩ := slash_mem_intercalate_iff.1 h
    exact hslash part hpart hslash'
  have hne : parts ≠ [] := by
    rintro rfl
    exact hparts rfl
  have hcons : String.intercalate "." (p.stem :: parts) =
      p.stem ++ ("." ++ String.intercalate "." parts) := by
    rw [String.intercalate_cons_of_ne_nil hne, String.append_assoc]
  have hsuffix : ¬("." ++ String.intercalate "." parts).toList.contains '/' ∧
      "." ++ String.intercalate "." parts ≠ "." := by
    rw [String.toList_append, List.contains_iff_mem, List.mem_append, not_or]
    exact ⟨⟨by decide, hmem⟩, by simpa [String.append_eq_left_iff] using hparts⟩
  generalize String.intercalate "." parts = rest at hparts hmem hcons hsuffix ⊢
  refine ⟨⟨p.root, p.names.dropLast ++ [p.stem ++ ("." ++ rest)]⟩, ?_, ?_⟩
  · rw [withSuffix, if_neg (by simpa using hsuffix), if_neg hname]
  · constructor
    case parent_eq => simp [parent]
    case name_eq => simp [name, hcons]
    case spelled =>
      intro hp last hlast
      rcases List.mem_append.1 hlast with hlast | hlast
      · exact hp last (List.dropLast_subset _ hlast)
      · obtain rfl := List.mem_singleton.1 hlast
        exact ⟨by simp [slash_not_mem_stem hp, hmem], isName_stem_append hparts⟩

end IsBeside

end Path

/-! ## The width of pointers -/

/-- How the width of pointers is written in names, according to the document of a configuration. -/
inductive WidthOf (v : Json) : String → Prop where
  /-- It is that of the machine if nothing is said. -/
  | unsaid (h : v.get? "pointer_width" = none ∨ v.get? "pointer_width" = some .null) :
    WidthOf v "64"
  | integer {n : Nat} (hn : n ∈ [16, 32, 64]) (h : v.get? "pointer_width" = some (.int n)) :
    WidthOf v (toString n)
  /-- It may be given with a fraction or an exponent. Then its text is not that of an integer: if it
  was read from a numeral, it ends in a fraction of zero. -/
  | fractional {n : Nat} {x : Double} (hn : n ∈ [16, 32, 64])
    (h : v.get? "pointer_width" = some (.number (.real x))) (hwhole : x.whole? = some (n : Int))
    (hother : ∀ m : Nat, x.text ≠ toString m)
    (hnumeral : ∀ negative digits exponent, x = .ofDecimal negative digits exponent →
      x.text = toString n ++ ".0") :
    WidthOf v x.text

theorem text_of_normal {x : Double} {n : Nat} (hx : x.Normal) (hn : n ∈ [16, 32, 64])
    (h : x.whole? = some (n : Int)) : x.text = toString n ++ ".0" := by
  simp only [List.mem_cons, List.not_mem_nil, or_false] at hn
  rcases hn with rfl | rfl | rfl
  · rw [Double.eq_finite_of_whole (k := 4) hx (by decide) h]
    decide +kernel
  · rw [Double.eq_finite_of_whole (k := 5) hx (by decide) h]
    decide +kernel
  · rw [Double.eq_finite_of_whole (k := 6) hx (by decide) h]
    decide +kernel

namespace Config

theorem agrees_int_iff {n : Int} {w : Json} :
    (Json.int n).agrees w = true ↔ ∃ x, w = .number x ∧ x.whole? = some n := by
  cases w with
  | number x =>
    simp only [Json.int, Json.agrees, Number.whole?, Bool.and_eq_true, beq_iff_eq,
      Json.number.injEq, exists_eq_left']
    constructor
    · rintro ⟨h, -⟩
      exact h.symm
    · intro h
      exact ⟨h.symm, rfl⟩
  | null | bool _ | text _ | broken _ | array _ | object _ => simp [Json.int, Json.agrees]

/-- The widths that a configuration may ask for are equal to one of three integers. -/
theorem oneOf_widths_iff {w : Json} : Json.Check.oneOf widths w = none ↔
    w = .null ∨ ∃ n ∈ [16, 32, 64], ∃ x, w = .number x ∧ x.whole? = some ((n : Nat) : Int) := by
  have hnull : Json.null.agrees w = true ↔ w = .null := by cases w <;> simp [Json.agrees]
  have hany : Json.Check.oneOf widths w = none ↔ ∃ width ∈ widths, width.agrees w = true := by
    simp [Json.Check.oneOf]
  rw [hany]
  simp only [widths, List.mem_cons, List.not_mem_nil, or_false, or_and_right, exists_or,
    exists_eq_left, agrees_int_iff, hnull, Nat.cast_ofNat]
  rw [or_comm (a := w = .null), or_assoc, or_assoc]

theorem widthOf_of_ofJson {base : Path} {v : Json} {config : Config}
    (h : ofJson base v = .ok config) : WidthOf v config.width.display := by
  unfold ofJson at h
  split at h
  case h_1 => cases h
  case h_2 hshape =>
    obtain rfl := Except.ok.inj h
    have hmember : Json.Check.member "pointer_width"
        (.all [.kind [.integer, .null], .oneOf widths]) v = none :=
      Json.Check.all_eq_none_iff.1 hshape _ (by simp)
    have hwidth : (ofShaped base v).width =
      ((v.get? "pointer_width").bind Json.number?).getD hostPointerWidth := rfl
    rw [hwidth]
    cases hw : v.get? "pointer_width" with
    | none => exact .unsaid (.inl hw)
    | some w =>
      have hone := Json.Check.all_eq_none_iff.1 (Json.Check.member_eq_none_iff.1 hmember w hw)
        (.oneOf widths) (by simp)
      rcases oneOf_widths_iff.1 hone with rfl | ⟨n, hn, x, rfl, hwhole⟩
      · exact .unsaid (.inr hw)
      · cases x with
        | int i =>
          obtain rfl : i = n := Option.some.inj hwhole
          exact .integer hn hw
        | real x =>
          refine .fractional hn hw hwhole x.text_ne_toString fun negative digits exponent hx => ?_
          exact text_of_normal (hx ▸ Double.normal_ofDecimal negative digits exponent) hn hwhole

end Config

theorem WidthOf.slash_not_mem {v : Json} {width : String} (h : WidthOf v width) :
    '/' ∉ width.toList := by
  cases h with
  | unsaid _ => decide
  | integer hn _ =>
    simp only [List.mem_cons, List.not_mem_nil, or_false] at hn
    rcases hn with rfl | rfl | rfl <;> decide
  | fractional _ _ _ _ _ => exact Double.slash_not_mem_text _

/-! ## Which sets ask for the width -/

namespace Directives

/-- Whether a set for a revision asks for expected outputs of their own for each width, according to
a document of directives. -/
def AsksForWidth (v : Json) (revision : String) : Prop :=
  ∃ set ∈ itemsOf v "directives",
    (textsOf set "revisions" = [] ∨ revision ∈ textsOf set "revisions") ∧
      set.get? "stderr_per_bitwidth" = some (.bool true)

theorem any_of_forItems {α : Type} {read : Nat → Json → Except Fault α} {p : α → Bool}
    {q : Json → Prop} (hread : ∀ i v a, read i v = .ok a → (p a = true ↔ q v)) {i : Nat}
    {items : List Json} {as : List α} (h : forItems read i items = .ok as) :
    as.any p = true ↔ ∃ v ∈ items, q v := by
  induction items generalizing i as with
  | nil =>
    cases h
    simp
  | cons v items ih =>
    obtain ⟨a, ha, h⟩ := bind_ok_iff.1 h
    obtain ⟨as, has, h⟩ := bind_ok_iff.1 h
    cases h
    rw [List.any_cons, Bool.or_eq_true, hread i v a ha, ih has, List.exists_mem_cons_iff]

theorem perBitwidth_iff_of_ofJson {file : Path} {v : Json} {d : Directives}
    (h : ofJson file v = .ok d) (revision : String) :
    (d.forRevision revision).any (·.perBitwidth) = true ↔ AsksForWidth v revision := by
  obtain ⟨-, -, hsets⟩ := sets_of_ofJson h
  rw [forRevision, List.any_filter]
  refine any_of_forItems (fun i set s hread => ?_) hsets
  have hfrom := readFrom_of_readSet (of_readDeclaredSet hread).2
  have hflag : flagOf set "stderr_per_bitwidth" false = true ↔
      set.get? "stderr_per_bitwidth" = some (.bool true) := by
    unfold flagOf
    split <;> simp_all
  rw [Bool.and_eq_true, hfrom.perBitwidth, hflag, DirectiveSet.appliesTo, hfrom.revisions,
    Bool.or_eq_true, List.isEmpty_iff, List.contains_iff_mem]

end Directives

/-! ## Names -/

namespace Case

/-- The part of a name for the width, according to the documents of a configuration and of
directives: there is one iff a set for the revision asks for it. -/
inductive MarkOf (v w : Json) (revision : String) : Option String → Prop where
  | plain (h : ¬Directives.AsksForWidth w revision) : MarkOf v w revision none
  | wide {width : String} (h : Directives.AsksForWidth w revision) (hwidth : WidthOf v width) :
    MarkOf v w revision (some (width ++ "bit"))

/-- The parts of the name of a file beside a test, after the stem of the test. -/
def nameParts (mark : Option String) (revision kind : String) : List String :=
  mark.toList ++ (if revision = "" then [] else [revision]) ++ [kind]

/-- Where a file beside a test is, given the parts of its name: nowhere iff the revision holds a
slash. -/
inductive FoundAs (p : Path) (revision : String) (parts : List String) :
    Except Path.SuffixError Path → Prop where
  | beside {q : Path} (hslash : '/' ∉ revision.toList) (h : p.IsBeside parts q) :
    FoundAs p revision parts (.ok q)
  | nowhere (hslash : '/' ∈ revision.toList) :
    FoundAs p revision parts (.error (.invalid ("." ++ String.intercalate "." parts)))

section Names

variable {c : Case} {v w : Json} {mark : Option String} {revision kind : String}

theorem intercalate_nameParts (hmark : mark ≠ some "") (hkind : kind ≠ "") :
    String.intercalate "." (nameParts mark revision kind) =
      dotted (dotted (mark.getD "") revision) kind := by
  have hrest : String.intercalate "." ((if revision = "" then [] else [revision]) ++ [kind]) =
      dotted revision kind := by
    split_ifs with hrevision
    · simp [hrevision]
    · simp [dotted_of_ne hrevision hkind, String.intercalate_cons_of_ne_nil]
  rw [nameParts, List.append_assoc, dotted_assoc, ← hrest]
  cases mark with
  | none => simp
  | some mark =>
    have hmark : mark ≠ "" := fun h => hmark (by rw [h])
    have hne : dotted revision kind ≠ "" := by
      rw [dotted_eq_append hkind]
      simp [String.append_eq_empty_iff, hkind]
    rw [Option.getD_some, dotted_of_ne hmark (hrest ▸ hne), Option.toList_some,
      List.singleton_append, String.intercalate_cons_of_ne_nil (by simp)]

theorem foundAs_withSuffix {p : Path} (mark : Option String) (revision : String) {kind : String}
    (hname : p.name ≠ "") (hmark : mark ≠ some "") (hkind : kind ≠ "")
    (hmarkSlash : ∀ part ∈ mark, '/' ∉ part.toList) (hkindSlash : '/' ∉ kind.toList) :
    FoundAs p revision (nameParts mark revision kind)
      (p.withSuffix ("." ++ dotted (dotted (mark.getD "") revision) kind)) := by
  rw [← intercalate_nameParts hmark hkind]
  by_cases hslash : '/' ∈ revision.toList
  · have hrevision : revision ≠ "" := by
      rintro rfl
      cases hslash
    have hmem : '/' ∈ (String.intercalate "." (nameParts mark revision kind)).toList :=
      Path.slash_mem_intercalate_iff.2 ⟨revision, by simp [nameParts, hrevision], hslash⟩
    rw [Path.withSuffix_of_slash hmem]
    exact .nowhere hslash
  · have hparts : ∀ part ∈ nameParts mark revision kind, '/' ∉ part.toList := by
      intro part hpart
      rw [nameParts, List.mem_append, List.mem_append, Option.mem_toList,
        List.mem_singleton] at hpart
      rcases hpart with (hpart | hpart) | rfl
      · exact hmarkSlash part hpart
      · split_ifs at hpart
        · cases hpart
        · obtain rfl := List.mem_singleton.1 hpart
          exact hslash
      · exact hkindSlash
    have hne : String.intercalate "." (nameParts mark revision kind) ≠ "" := by
      rw [intercalate_nameParts hmark hkind, dotted_eq_append hkind]
      simp [String.append_eq_empty_iff, hkind]
    obtain ⟨q, hq, hbeside⟩ := Path.exists_isBeside hname hne hparts
    rw [hq]
    exact .beside hslash hbeside

end Names

/-- **The files beside a test.** For documents that are accepted, the files of the expected outputs
and of the input of a test are in its directory, under the names that are written out here, unless
the revision holds a slash, with which there are no such files. -/
theorem besideFiles_named {base file : Path} {v w : Json} {c : Case}
    (hconfig : Config.ofJson base v = .ok c.config)
    (hdirectives : Directives.ofJson file w = .ok c.directives) (hname : c.path.name ≠ "") :
    (∃ mark, MarkOf v w c.revision mark ∧ ∀ stream : Stream,
      FoundAs c.path c.revision (nameParts mark c.revision stream.name)
        (c.outputPath stream.name)) ∧
    FoundAs c.path c.revision (nameParts none c.revision "stdin") c.stdinPath := by
  have hwidth := Config.widthOf_of_ofJson hconfig
  have hasks : c.perBitwidth = true ↔ Directives.AsksForWidth w c.revision :=
    Directives.perBitwidth_iff_of_ofJson hdirectives c.revision
  constructor
  · have hkind (stream : Stream) : stream.name ≠ "" ∧ '/' ∉ stream.name.toList := by
      cases stream <;> decide
    by_cases h : c.perBitwidth = true
    · refine ⟨some (widthName c.config), .wide (hasks.1 h) hwidth, fun stream => ?_⟩
      have hslash : '/' ∉ (widthName c.config).toList := by
        simp [widthName, hwidth.slash_not_mem]
      rw [outputPath_eq c (hkind stream).1, outputTag, if_pos h]
      exact foundAs_withSuffix _ _ hname (by simp [widthName_ne_empty]) (hkind stream).1
        (by simpa using hslash) (hkind stream).2
    · refine ⟨none, .plain fun hasked => h (hasks.2 hasked), fun stream => ?_⟩
      rw [outputPath_eq c (hkind stream).1, outputTag, if_neg h]
      exact foundAs_withSuffix none _ hname (by simp) (hkind stream).1 (by simp) (hkind stream).2
  · have hkind : "stdin" ≠ "" ∧ '/' ∉ "stdin".toList := by decide
    have hstdin := foundAs_withSuffix none c.revision hname (by simp) hkind.1 (by simp) hkind.2
    rw [Option.getD_none, dotted_empty_left] at hstdin
    rwa [stdinPath, extension_eq_dotted c hkind.1]

/-! ## Accepted documents -/

/-- The directory of a test. -/
def testDir : Path := ⟨.relative, ["ui"]⟩

/-- A configuration for a width. -/
def widthConfig (width : Json) : Json :=
  .object [("program", .object [("command", .text "rustc")]), ("pointer_width", width)]

/-- Directives for a revision, with an expected output for each width. -/
def wideDirectives (revision : String) : Json :=
  .object [("revisions", .array [.text revision]),
    ("directives", .array [.object [("stderr_per_bitwidth", .bool true)]])]

/-- A test with these documents. -/
def wideTest (width : Json) (revision : String) : Case where
  config := Config.ofShaped testDir (widthConfig width)
  revision := revision
  directives :=
    { revisions := [revision]
      sets := [{ span := ⟨some (testDir.below ["t.rs"]), none⟩, perBitwidth := true }] }
  path := testDir.below ["t.rs"]
  auxDir := testDir.below ["auxiliary"]

theorem wideTest_named :
    Config.ofJson testDir (widthConfig (.int 32)) = .ok (wideTest (.int 32) "a").config ∧
      Directives.ofJson (testDir.below ["t.rs"]) (wideDirectives "a") =
        .ok (wideTest (.int 32) "a").directives ∧
      (∀ stream : Stream, FoundAs (testDir.below ["t.rs"]) "a"
        (nameParts (some "32bit") "a" stream.name)
        ((wideTest (.int 32) "a").outputPath stream.name)) ∧
      (wideTest (.int 32) "a").outputPath "stderr" =
        .ok (testDir.below ["t.32bit.a.stderr"]) ∧
      FoundAs (testDir.below ["t.rs"]) "a" (nameParts none "a" "stdin")
        (wideTest (.int 32) "a").stdinPath := by
  have hconfig : Config.ofJson testDir (widthConfig (.int 32)) =
      .ok (wideTest (.int 32) "a").config := by decide
  have hdirectives : Directives.ofJson (testDir.below ["t.rs"]) (wideDirectives "a") =
      .ok (wideTest (.int 32) "a").directives := by rfl
  obtain ⟨⟨mark, hmark, hstreams⟩, hstdin⟩ :=
    besideFiles_named (c := wideTest (.int 32) "a") hconfig hdirectives (by decide)
  have hasks : Directives.AsksForWidth (wideDirectives "a") "a" :=
    ⟨_, List.mem_singleton.2 rfl, .inl rfl, rfl⟩
  have hget : (widthConfig (.int 32)).get? "pointer_width" = some (.int 32) := rfl
  obtain rfl : mark = some "32bit" := by
    cases hmark with
    | plain h => exact absurd hasks h
    | wide _ hwidth =>
      cases hwidth with
      | unsaid h =>
        rw [hget] at h
        rcases h with h | h <;> cases h
      | integer _ h =>
        rw [hget] at h
        cases h
        rfl
      | fractional _ h _ _ _ =>
        rw [hget] at h
        cases h
  exact ⟨hconfig, hdirectives, hstreams, by decide, hstdin⟩

/-- The width of pointers, written with a fraction of zero. -/
def fractionalWidth : Json := .number (.real (.ofDecimal false 320 (-1)))

/-- Accepted documents can make a name with another width, or none at all. -/
theorem wideTest_misnamed :
    (Config.ofJson testDir (widthConfig fractionalWidth) =
        .ok (wideTest fractionalWidth "a").config ∧
      Directives.ofJson (testDir.below ["t.rs"]) (wideDirectives "a") =
        .ok (wideTest fractionalWidth "a").directives ∧
      (wideTest fractionalWidth "a").outputPath "stderr" =
        .ok (testDir.below ["t.32.0bit.a.stderr"])) ∧
    (Config.ofJson testDir (widthConfig (.int 32)) = .ok (wideTest (.int 32) "a/b").config ∧
      Directives.ofJson (testDir.below ["t.rs"]) (wideDirectives "a/b") =
        .ok (wideTest (.int 32) "a/b").directives ∧
      (wideTest (.int 32) "a/b").outputPath "stderr" =
        .error (.invalid ".32bit.a/b.stderr")) := by
  refine ⟨⟨?_, rfl, ?_⟩, ?_, rfl, ?_⟩
  · decide +kernel
  · decide +kernel
  · decide
  · decide

end Case

end CompilerTest

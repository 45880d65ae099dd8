import CompilerTest.Case.Basic
import CompilerTest.Proofs.Directives.Accepted
import CompilerTest.Proofs.Regex.Templates

/-!
# Rules that can be applied

A document is accepted only if the pattern of each of its normalization rules is a regular
expression. The replacement is not looked at before the rule is applied, and is then read as a
template for that pattern, whether or not there is anything to replace. So a rule of an accepted
document fails on every output or on none.

Main statement: output is normalized iff the replacements of all rules that apply fit their
patterns, and otherwise the first that does not ends the test (`normalize_accepted`).
-/

namespace CompilerTest

namespace Normalization

variable {rule : Normalization} {rules : List Normalization} {e : Regex.Error}

/-- Whether the replacement of a rule is a template that fits its pattern. -/
def HasTemplate (rule : Normalization) : Prop :=
  rule.regex.Fits (rule.replacement.map UInt8.toNat)

/-- Whether a rule can be applied does not depend on the output. -/
theorem apply_ok_iff (text : Bytes) :
    (∃ bytes, rule.apply text = .ok bytes) ↔ rule.HasTemplate := by
  have hrest (pieces : List Regex.Piece) : (∃ bytes : Bytes,
      (pure ((Regex.replaceMatches (text.map UInt8.toNat).toArray pieces 0
        (rule.regex.allMatches (text.map UInt8.toNat).toArray)).map UInt8.ofNat) :
          Except Regex.Error Bytes) = .ok bytes) ↔ True :=
    iff_of_true ⟨_, rfl⟩ trivial
  rw [apply, Regex.replaceAll, exists_bind_ok_iff hrest, and_true, Regex.template_ok_iff]
  rfl

theorem apply_error_iff (text : Bytes) :
    rule.apply text = .error e ↔ Regex.template rule.regex rule.replacement = .error e := by
  rw [apply, Regex.replaceAll, bind_error_iff]
  refine or_iff_left ?_
  rintro ⟨pieces, -, ⟨⟩⟩

theorem applyAll_cons (rule : Normalization) (rules : List Normalization) (text : Bytes) :
    applyAll (rule :: rules) text = rule.apply text >>= applyAll rules :=
  List.foldlM_cons

theorem applyAll_ok_iff (text : Bytes) :
    (∃ bytes, applyAll rules text = .ok bytes) ↔ ∀ rule ∈ rules, rule.HasTemplate := by
  induction rules generalizing text with
  | nil => exact iff_of_true ⟨text, rfl⟩ (by simp)
  | cons rule rules ih =>
    rw [applyAll_cons, List.forall_mem_cons, ← apply_ok_iff text]
    exact exists_bind_ok_iff ih

theorem applyAll_error_iff (text : Bytes) :
    applyAll rules text = .error e ↔ ∃ before rule after, rules = before ++ rule :: after ∧
      (∀ rule ∈ before, rule.HasTemplate) ∧
        Regex.template rule.regex rule.replacement = .error e := by
  induction rules generalizing text with
  | nil =>
    refine iff_of_false (fun h => by cases h) ?_
    rintro ⟨before, rule, after, h, -⟩
    simp at h
  | cons first rules ih =>
    rw [applyAll_cons, bind_error_iff, apply_error_iff]
    constructor
    · rintro (hfirst | ⟨bytes, happly, hrest⟩)
      · exact ⟨[], first, rules, rfl, by simp, hfirst⟩
      · obtain ⟨before, rule, after, rfl, hbefore, herror⟩ := (ih bytes).1 hrest
        refine ⟨first :: before, rule, after, rfl, ?_, herror⟩
        exact List.forall_mem_cons.2 ⟨(apply_ok_iff text).1 ⟨bytes, happly⟩, hbefore⟩
    · rintro ⟨before, rule, after, heq, hbefore, herror⟩
      cases before with
      | nil =>
        cases heq
        exact .inl herror
      | cons other before =>
        cases heq
        obtain ⟨hfirst, hbefore⟩ := List.forall_mem_cons.1 hbefore
        obtain ⟨bytes, happly⟩ := (apply_ok_iff text).2 hfirst
        exact .inr ⟨bytes, happly, (ih bytes).2 ⟨before, rule, after, rfl, hbefore, herror⟩⟩

end Normalization

namespace Directives

/-- The patterns of the rules of an accepted document are regular expressions. -/
theorem regex_of_ofJson {file : Path} {v : Json} {d : Directives} (h : ofJson file v = .ok d)
    {s : DirectiveSet} (hs : s ∈ d.sets) {rule : Normalization}
    (hrule : rule ∈ s.normalizeStdout ∨ rule ∈ s.normalizeStderr) :
    Regex.ofBytes rule.source = .ok rule.regex := by
  obtain ⟨i, w, -, hread⟩ := (of_ofJson h).2 s hs
  have hfrom := readFrom_of_readSet hread
  have hread : ∃ list j u, readNormalization i list j u = .ok rule := by
    rcases hrule with hrule | hrule
    · obtain ⟨j, u, -, hu⟩ := exists_of_forItems hfrom.normalizeStdout rule hrule
      exact ⟨_, j, u, hu⟩
    · obtain ⟨j, u, -, hu⟩ := exists_of_forItems hfrom.normalizeStderr rule hrule
      exact ⟨_, j, u, hu⟩
  obtain ⟨list, j, u, hu⟩ := hread
  obtain ⟨source, -, hu⟩ := bind_ok_iff.1 hu
  obtain ⟨regex, hregex, hu⟩ := bind_ok_iff.1 hu
  obtain ⟨replacement, -, hu⟩ := bind_ok_iff.1 hu
  cases hu
  exact ok_of_checked hregex

end Directives

namespace Case

variable {c : Case} {stream : Stream}

theorem normalize_stream (c : Case) (text : Bytes) (stream : Stream) :
    c.normalize text stream.name =
      (Normalization.applyAll (c.rules stream) text).mapError .regex := by
  cases stream <;> rfl

theorem mem_set_of_mem_rules {rule : Normalization} (h : rule ∈ c.rules stream) :
    ∃ s ∈ c.directives.sets, rule ∈ s.normalizeStdout ∨ rule ∈ s.normalizeStderr := by
  cases stream with
  | stdout =>
    obtain ⟨s, hs, hrule⟩ := List.mem_flatMap.1 h
    exact ⟨s, (List.mem_filter.1 hs).1, .inl hrule⟩
  | stderr =>
    obtain ⟨s, hs, hrule⟩ := List.mem_flatMap.1 h
    exact ⟨s, (List.mem_filter.1 hs).1, .inr hrule⟩

theorem normalize_ok_iff (c : Case) (stream : Stream) (text : Bytes) :
    (∃ bytes, c.normalize text stream.name = .ok bytes) ↔
      ∀ rule ∈ c.rules stream, rule.HasTemplate := by
  rw [← Normalization.applyAll_ok_iff text, normalize_stream]
  cases Normalization.applyAll (c.rules stream) text with
  | ok bytes => exact iff_of_true ⟨bytes, rfl⟩ ⟨bytes, rfl⟩
  | error e =>
    refine iff_of_false ?_ ?_
    · rintro ⟨_, ⟨⟩⟩
    · rintro ⟨_, ⟨⟩⟩

theorem normalize_error_iff (c : Case) (stream : Stream) (text : Bytes) (f : Fault) :
    c.normalize text stream.name = .error f ↔
      ∃ before rule after e, c.rules stream = before ++ rule :: after ∧
        (∀ rule ∈ before, rule.HasTemplate) ∧
          Regex.template rule.regex rule.replacement = .error e ∧ f = .regex e := by
  rw [normalize_stream]
  constructor
  · intro herror
    cases happly : Normalization.applyAll (c.rules stream) text with
    | ok bytes =>
      rw [happly] at herror
      cases herror
    | error e =>
      rw [happly] at herror
      cases herror
      obtain ⟨before, rule, after, heq, hbefore, htemplate⟩ :=
        (Normalization.applyAll_error_iff text).1 happly
      exact ⟨before, rule, after, e, heq, hbefore, htemplate, rfl⟩
  · rintro ⟨before, rule, after, e, heq, hbefore, htemplate, rfl⟩
    rw [(Normalization.applyAll_error_iff text).2 ⟨before, rule, after, heq, hbefore, htemplate⟩]
    rfl

/-- A replacement without a backslash fits every pattern. -/
theorem hasTemplate_of_literal {rule : Normalization} (h : 0x5c ∉ rule.replacement) :
    rule.HasTemplate := by
  refine Regex.fits_of_not_mem ?_
  rw [List.mem_map]
  rintro ⟨b, hb, hcode⟩
  have hbackslash : b = 0x5c := UInt8.toNat_inj.1 hcode
  rw [hbackslash] at hb
  exact h hb

/-- How output is normalized under the directives of an accepted document. -/
structure Normalizes (c : Case) (stream : Stream) (text : Bytes) : Prop where
  /-- The patterns have been checked when the document was loaded. -/
  regex_eq : ∀ rule ∈ c.rules stream, Regex.ofBytes rule.source = .ok rule.regex
  /-- The replacements have not: each of them has to fit its pattern. -/
  ok_iff : (∃ bytes, c.normalize text stream.name = .ok bytes) ↔
    ∀ rule ∈ c.rules stream, rule.HasTemplate
  /-- Without a backslash they do. -/
  literal : (∀ rule ∈ c.rules stream, 0x5c ∉ rule.replacement) →
    ∃ bytes, c.normalize text stream.name = .ok bytes
  /-- The first one that does not fit ends the test. -/
  error_iff (f : Fault) : c.normalize text stream.name = .error f ↔
    ∃ before rule after e, c.rules stream = before ++ rule :: after ∧
      (∀ rule ∈ before, rule.HasTemplate) ∧
        Regex.template rule.regex rule.replacement = .error e ∧ f = .regex e

/-- **Rules of accepted documents.** -/
theorem normalize_accepted {file : Path} {v : Json}
    (h : Directives.ofJson file v = .ok c.directives)
    (stream : Stream) (text : Bytes) : Normalizes c stream text where
  regex_eq rule hrule := by
    obtain ⟨s, hs, hmem⟩ := mem_set_of_mem_rules hrule
    exact Directives.regex_of_ofJson h hs hmem
  ok_iff := normalize_ok_iff c stream text
  literal hliteral :=
    (normalize_ok_iff c stream text).2 fun rule hrule =>
      hasTemplate_of_literal (hliteral rule hrule)
  error_iff := normalize_error_iff c stream text

/-! ## A replacement that refers to a group -/

/-- A document with a rule that keeps the first group of its pattern. -/
def keptGroup (pattern : String) : Json :=
  .object [("directives", .array [.object [("normalize_stderr", .array [
    .object [("pattern", .text pattern), ("replacement", .text "\\1")]])]])]

/-- A test with these directives. -/
def keptCase (directives : Directives) : Case where
  config := default
  revision := ""
  directives := directives
  path := ⟨.relative, ["ui", "t.rs"]⟩
  auxDir := ⟨.relative, ["ui", "auxiliary"]⟩

theorem keptGroup_normalizes :
    ∃ d, Directives.ofJson ⟨.relative, ["ui", "t.rs"]⟩ (keptGroup "pid ([a-z])") = .ok d ∧
      Normalizes (keptCase d) .stderr (Bytes.ofText "xyz") ∧
      ∀ rule ∈ (keptCase d).rules .stderr, rule.HasTemplate := by
  have h : (Directives.ofJson ⟨.relative, ["ui", "t.rs"]⟩ (keptGroup "pid ([a-z])")).toOption.map
      (fun d => ((keptCase d).normalize (Bytes.ofText "xyz") "stderr").toOption) =
        some (some (Bytes.ofText "xyz")) := by decide +kernel
  obtain ⟨d, hd, hbytes⟩ := Option.map_eq_some_iff.1 h
  have hd := eq_ok_of_toOption hd
  have hnormalizes := normalize_accepted (c := keptCase d) hd .stderr (Bytes.ofText "xyz")
  exact ⟨d, hd, hnormalizes, hnormalizes.ok_iff.1 ⟨_, eq_ok_of_toOption hbytes⟩⟩

/-- Without the group the rule fails, although the document is accepted and nothing is to be
replaced. -/
theorem keptGroup_not_normalized :
    ¬ ∀ (file : Path) (v : Json) (d : Directives), Directives.ofJson file v = .ok d →
      ∀ (stream : Stream) (text : Bytes),
        ∃ bytes, (keptCase d).normalize text stream.name = .ok bytes := by
  intro hall
  have h : (Directives.ofJson ⟨.relative, ["ui", "t.rs"]⟩ (keptGroup "a")).toOption.map
      (fun d => ((keptCase d).normalize (Bytes.ofText "xyz") "stderr").toOption) =
        some none := by decide +kernel
  obtain ⟨d, hd, hnone⟩ := Option.map_eq_some_iff.1 h
  obtain ⟨bytes, hbytes⟩ := hall _ _ d (eq_ok_of_toOption hd) .stderr (Bytes.ofText "xyz")
  have hstderr : Stream.stderr.name = "stderr" := rfl
  rw [← hstderr, hbytes] at hnone
  cases hnone

end Case

end CompilerTest

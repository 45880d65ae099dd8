import CompilerTest.Proofs.Directives.Accepted
import CompilerTest.Proofs.Matching.Annotating
import CompilerTest.Proofs.Matching.ByLine
import CompilerTest.Proofs.Matching.Faults

/-!
# Matching accepted directives

Directives from an accepted document hold no pattern that cannot be used, so that matching them goes
wrong in one way only: a whole number that is written with a fraction passes as a line, but has no
position among the lines. Main statement: the check concludes unless such a line is among those of
the compiler (`checkAnnotations_accepted`).
-/

namespace CompilerTest

/-- Whether the line of an expectation is among the first `count` lines but written with a
fraction. -/
def ErrorMatch.IsFractional (count : Nat) (m : ErrorMatch) : Prop :=
  ∃ x k, m.line = .real x ∧ x.whole? = some k ∧ k < count

namespace Matching

section Usable

variable {s : Matching}

/-- Messages are taken without a fault if they can be tested without one. -/
theorem exists_ok_of_takeFirst {test : Message → Except Regex.Error Bool}
    (h : ∀ m e, test m ≠ .error e) (ms : List Message) : ∃ r, takeFirst test ms = .ok r := by
  cases htake : takeFirst test ms with
  | ok r => exact ⟨r, rfl⟩
  | error e =>
    obtain ⟨m, -, hm⟩ := exists_error_of_takeFirst htake
    exact absurd hm (h m e)

theorem satisfies_ne_error {kind : Expectation} (h : kind.IsUsable) (codePrefix : String)
    (m : Message) (e : Regex.Error) : satisfies codePrefix kind m ≠ .error e := by
  unfold satisfies
  cases kind with
  | pattern p level =>
    dsimp only
    split_ifs
    · exact Pattern.IsUsable.fits_ne_error h m.text e
    · simp
  | code c => simp

/-- Usable patterns are matched without a fault. -/
theorem run_matchOther_of_usable {ps : List (Spanned Pattern)}
    (h : ∀ p ∈ ps, p.content.IsUsable) :
    ∃ t, outcome (ps.forM matchOther) s = (.ok (), t) := by
  induction ps generalizing s with
  | nil => exact ⟨s, rfl⟩
  | cons p ps ih =>
    have hp : ∃ u, outcome (matchOther p) s = (.ok (), u) := by
      obtain ⟨r, hr⟩ := exists_ok_of_takeFirst
        (fun m => (h p List.mem_cons_self).fits_ne_error m.text) s.unknown
      rw [outcome_matchOther, hr]
      cases r <;> exact ⟨_, rfl⟩
    obtain ⟨u, hu⟩ := hp
    obtain ⟨t, ht⟩ := ih (s := u) fun q hq => h q (List.mem_cons_of_mem _ hq)
    exact ⟨t, by rw [outcome_forM_cons, outcome_bind_of_ok hu, ht]⟩

/-- A line that a document may hold can be looked up unless it is written with a fraction. -/
theorem position_cases {m : ErrorMatch} (h : m.WellFormed) (count : Nat) :
    (m.IsFractional count ∧ position count m.line = .error .fractionalLine) ∨
      (¬ m.IsFractional count ∧ ∃ o, position count m.line = .ok o) := by
  obtain ⟨k, hk, -⟩ := h.exists_line
  by_cases hbelow : m.line.below count = true
  · have hlt := (Number.below_iff_of_whole hk count).1 hbelow
    cases hline : m.line with
    | int i =>
      rw [hline] at hbelow
      exact .inr ⟨by simp [ErrorMatch.IsFractional, hline], some i.toNat,
        by simp [position, hbelow]⟩
    | real x =>
      rw [hline] at hbelow hk
      exact .inl ⟨⟨x, k, hline, hk, hlt⟩, by simp [position, hbelow]⟩
  · refine .inr ⟨?_, none, by simp [position, hbelow]⟩
    rintro ⟨x, j, hline, hj, hlt⟩
    rw [hline] at hbelow
    exact hbelow ((Double.below_iff_of_whole hj count).2 hlt)

/-- An expectation that a document may hold is handled if its line can be looked up. -/
theorem step_of_wellFormed {m : ErrorMatch} (h : m.WellFormed) (codePrefix : String)
    (hposition : ∃ o, position s.lines.length m.line = .ok o) :
    ∃ t, outcome (matchLine codePrefix m) s = (.ok (), t) := by
  rw [outcome_matchLine]
  obtain ⟨_ | n, hn⟩ := hposition
  · simp [hn]
  · obtain ⟨r, hr⟩ := exists_ok_of_takeFirst (satisfies_ne_error h.usable codePrefix)
      (s.bucket (some n))
    simp only [hn, hr]
    cases r <;> exact ⟨_, rfl⟩

/-- **A run over expectations that a document may hold** ends early exactly if one of their lines is
among those of the compiler but written with a fraction. -/
theorem run_of_wellFormed {ms : List ErrorMatch} (h : ∀ m ∈ ms, m.WellFormed)
    (codePrefix : String) :
    ((∃ m ∈ ms, m.IsFractional s.lines.length) ∧
        ∃ t, outcome (ms.forM (matchLine codePrefix)) s = (.error .fractionalLine, t)) ∨
      ((∀ m ∈ ms, ¬ m.IsFractional s.lines.length) ∧
        ∃ t, outcome (ms.forM (matchLine codePrefix)) s = (.ok (), t)) := by
  induction ms generalizing s with
  | nil => exact .inr ⟨by simp, s, rfl⟩
  | cons m ms ih =>
    have hm := h m List.mem_cons_self
    rw [outcome_forM_cons]
    rcases position_cases hm s.lines.length with ⟨hfraction, herror⟩ | ⟨hwhole, hok⟩
    · refine .inl ⟨⟨m, List.mem_cons_self, hfraction⟩, s, ?_⟩
      rw [outcome_bind, outcome_matchLine, herror]
    · obtain ⟨u, hu⟩ := step_of_wellFormed hm codePrefix hok
      obtain ⟨es, hserved⟩ := Served.of_step hu
      have hrest := ih (s := u) fun m' hm' => h m' (List.mem_cons_of_mem _ hm')
      rw [outcome_bind_of_ok hu, ← hserved.length_eq]
      simpa [hserved.length_eq, hwhole] using hrest

end Usable

end Matching

namespace Case

open Matching

/-- The end of a check concludes. -/
theorem concludes_finish (c : Case) (s : Matching) : Concludes (outcome c.finish s).1 := by
  rw [outcome_finish]
  split
  · exact .failed _
  · exact .failed _
  · exact .passed ()

variable {c : Case} {file : Path} {v : Json}

theorem wellFormed_of_mem (h : Directives.ofJson file v = .ok c.directives) {m : ErrorMatch}
    (hm : m ∈ c.errorMatches) : m.WellFormed := by
  obtain ⟨s, hs, hm⟩ := List.mem_flatMap.1 hm
  exact Directives.wellFormed_of_ofJson h (List.mem_filter.1 hs).1 hm

theorem usable_of_mem (h : Directives.ofJson file v = .ok c.directives) {p : Spanned Pattern}
    (hp : p ∈ c.otherFiles) : p.content.IsUsable := by
  obtain ⟨s, hs, hp⟩ := List.mem_flatMap.1 hp
  exact Directives.usable_of_ofJson h (List.mem_filter.1 hs).1 hp

/-- **The check of accepted directives** concludes, with a result or with the failure that settings
conflict, unless it comes to a line that is written with a fraction. -/
theorem checkAnnotations_accepted (h : Directives.ofJson file v = .ok c.directives)
    (start : Matching) :
    (∀ m ∈ c.errorMatches, ∃ k : Int, m.line.whole? = some k ∧ 1 ≤ k) ∧
      (Concludes (outcome c.checkAnnotations start).1 ∨
        (outcome c.checkAnnotations start).1 = .error .fractionalLine) ∧
      (Concludes (outcome c.checkAnnotations start).1 ↔
        (∃ f, c.codePrefix = .error f) ∨
          ∀ m ∈ c.errorMatches, ¬ m.IsFractional start.lines.length) := by
  refine ⟨fun m hm => (wellFormed_of_mem h hm).exists_line, ?_⟩
  obtain ⟨s, hs⟩ := run_matchOther_of_usable (s := start) fun p hp => usable_of_mem h hp
  obtain ⟨hlines, -⟩ := run_matchOther hs
  rw [checkAnnotations_eq_finish, outcome_bind_of_ok hs]
  cases hp : c.codePrefix with
  | error f =>
    have hrun : (outcome (liftFailure (.error f) >>= fun codePrefix =>
        c.errorMatches.forM (matchLine codePrefix) >>= fun _ => c.finish) s).1 =
          .error (.failed f) := by
      simp [liftFailure]
    rw [hrun]
    exact ⟨.inl (.failed f), iff_of_true (.failed f) (.inl ⟨f, rfl⟩)⟩
  | ok codePrefix =>
    have hprefix : outcome (liftFailure (.ok codePrefix)) s = (.ok codePrefix, s) := by
      simp [liftFailure]
    rw [outcome_bind_of_ok hprefix, ← hlines]
    rcases run_of_wellFormed (s := s) (fun m hm => wellFormed_of_mem h hm) codePrefix with
      ⟨hfraction, t, ht⟩ | ⟨hwhole, t, ht⟩
    · rw [outcome_bind, ht]
      refine ⟨.inr rfl, iff_of_false (fun hc => by cases hc) ?_⟩
      rintro (⟨f, hf⟩ | hwhole)
      · cases hf
      · obtain ⟨m, hm, hm'⟩ := hfraction
        exact hwhole m hm hm'
    · rw [outcome_bind_of_ok ht]
      have hfinish := concludes_finish c t
      exact ⟨.inl hfinish, iff_of_true hfinish (.inr hwhole)⟩

/-! ## A line that is written with a fraction -/

/-- The number one, written with a fraction. -/
def fractionalOne : Number := .real (.ofDecimal false 10 (-1))

/-- A document with an expectation whose line is written with a fraction. -/
def fractionalDocument : Json :=
  .object [("directives", .array [.object [("error_matches",
    .array [.object [("line", .number fractionalOne), ("code", .text "E1")]])]])]

/-- A test with the directives of this document. -/
def fractional : Case where
  config := default
  revision := ""
  directives := { sets := [
    { span := ⟨some ⟨.relative, ["ui", "t.rs"]⟩, none⟩
      errorMatches := [
        ⟨.code ⟨"E1", ⟨some ⟨.relative, ["ui", "t.rs"]⟩, some fractionalOne⟩⟩, fractionalOne⟩] }] }
  path := ⟨.relative, ["ui", "t.rs"]⟩
  auxDir := ⟨.relative, ["ui", "auxiliary"]⟩

/-- The message that is expected. -/
def fractionalMessage : Message := ⟨.error, "m", some "E1"⟩

/-- The check concludes if the compiler has nothing to say about the line, and only then. -/
theorem fractional_accepted :
    Directives.ofJson fractional.path fractionalDocument = .ok fractional.directives ∧
      Concludes (outcome fractional.checkAnnotations (.ofDiagnostics {})).1 ∧
      (outcome fractional.checkAnnotations
        (.ofDiagnostics (.ofEntries [(some 1, fractionalMessage)]))).1 =
          .error .fractionalLine := by
  have hread : Directives.ofJson fractional.path fractionalDocument =
      .ok fractional.directives := by rfl
  have hwhole : (Double.ofDecimal false 10 (-1)).whole? = some 1 := by decide +kernel
  have hmem : (⟨.code ⟨"E1", ⟨some fractional.path, some fractionalOne⟩⟩, fractionalOne⟩ :
      ErrorMatch) ∈ fractional.errorMatches := .head _
  refine ⟨hread, ?_, ?_⟩
  · refine (checkAnnotations_accepted hread (.ofDiagnostics {})).2.2.2 (.inr ?_)
    rintro m (_ | ⟨_, ⟨⟩⟩) ⟨x, k, hx, hk, hlt⟩
    cases hx
    rw [hwhole] at hk
    cases hk
    exact absurd hlt (by decide)
  · obtain ⟨-, hend, hiff⟩ := checkAnnotations_accepted hread
      (.ofDiagnostics (.ofEntries [(some 1, fractionalMessage)]))
    refine hend.resolve_left fun hconcludes => ?_
    rcases hiff.1 hconcludes with ⟨f, hf⟩ | hnone
    · cases hf
    · exact hnone _ hmem ⟨_, 1, rfl, hwhole, by decide⟩

/-- Directives are accepted that the check cannot handle. -/
theorem fractional_not_concludes :
    ¬ ∀ (c : Case) (file : Path) (v : Json) (entries : List (Option Int × Message)),
      Directives.ofJson file v = .ok c.directives →
      c.revision = "" ∨ c.revision ∈ c.directives.revisions →
      Concludes (outcome c.checkAnnotations (.ofDiagnostics (.ofEntries entries))).1 := by
  intro h
  have hconcludes := h fractional fractional.path fractionalDocument
    [(some 1, fractionalMessage)] rfl (.inl rfl)
  have hrun : (outcome fractional.checkAnnotations
      (.ofDiagnostics (.ofEntries [(some 1, fractionalMessage)]))).1 =
        .error .fractionalLine := by rfl
  rw [hrun] at hconcludes
  cases hconcludes

end Case

end CompilerTest

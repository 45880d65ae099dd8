import CompilerTest.Case.Run
import CompilerTest.Proofs.Matching.Check

/-!
# What a check reports

A check of messages reports nothing about output, and if settings have several values, then the
failure that it ends with says nothing about output either (`checkAnnotations_spares`).
-/

namespace CompilerTest

/-- Whether a discrepancy is about output that is not the expected one. -/
def Discrepancy.isOutputDiffers : Discrepancy → Bool
  | outputDiffers .. => true
  | _ => false

/-- None of the discrepancies is about output that is not the expected one. -/
def SparesOutput (ds : List Discrepancy) : Prop := ∀ d ∈ ds, d.isOutputDiffers = false

section SparesOutput

variable {ds es : List Discrepancy}

theorem sparesOutput_nil : SparesOutput [] := fun _ h => by cases h

theorem sparesOutput_singleton {d : Discrepancy} (h : d.isOutputDiffers = false) :
    SparesOutput [d] := fun e he => by rw [List.mem_singleton.1 he, h]

theorem SparesOutput.append (hds : SparesOutput ds) (hes : SparesOutput es) :
    SparesOutput (ds ++ es) := fun d hd => (List.mem_append.1 hd).elim (hds d) (hes d)

end SparesOutput

namespace Matching

variable {α β : Type}

/-- A step reports nothing about output, also if it fails the test. -/
def Spares (x : Matcher α) : Prop :=
  ∀ s, SparesOutput s.errors → SparesOutput (outcome x s).2.errors ∧
    ∀ f, (outcome x s).1 = .error (.failed f) → SparesOutput f.errors

theorem spares_pure (a : α) : Spares (pure a) := fun _ hs => ⟨hs, fun _ h => by cases h⟩

theorem Spares.bind {x : Matcher α} {f : α → Matcher β} (hx : Spares x) (hf : ∀ a, Spares (f a)) :
    Spares (x >>= f) := by
  intro s hs
  obtain ⟨herrors, hfailed⟩ := hx s hs
  rw [outcome_bind]
  rcases hrun : outcome x s with ⟨e | a, u⟩
  · rw [hrun] at herrors hfailed
    exact ⟨herrors, fun g h => hfailed g (congrArg Except.error (Except.error.inj h))⟩
  · rw [hrun] at herrors
    exact hf a u herrors

theorem Spares.forM {f : α → Matcher Unit} (hf : ∀ a, Spares (f a)) (l : List α) :
    Spares (l.forM f) := by
  induction l with
  | nil => exact spares_pure ()
  | cons a l ih => exact (hf a).bind fun _ => ih

theorem spares_liftFailure {x : Except Failure α}
    (hx : ∀ f, x = .error f → SparesOutput f.errors) : Spares (liftFailure x) := by
  intro s hs
  cases x with
  | error f => exact ⟨hs, fun g h => hx g (by cases h; rfl)⟩
  | ok a => exact ⟨hs, fun _ h => by cases h⟩

theorem spares_matchOther (p : Spanned Pattern) : Spares (matchOther p) := by
  intro s hs
  rw [outcome_matchOther]
  rcases takeFirst (fun m => p.content.fits m.text) s.unknown with e | _ | rest
  · exact ⟨hs, fun _ h => by cases h⟩
  · exact ⟨hs.append (sparesOutput_singleton rfl), fun _ h => by cases h⟩
  · exact ⟨hs, fun _ h => by cases h⟩

theorem unsatisfied_isOutputDiffers (codePrefix : String) (m : ErrorMatch) :
    (unsatisfied codePrefix m).isOutputDiffers = false := by
  unfold unsatisfied
  split <;> rfl

theorem position_ne_failed (count : Nat) (line : Number) (f : Failure) :
    position count line ≠ .error (.failed f) := by
  intro h
  unfold position at h
  split at h
  · split at h <;> cases h
  · cases h

theorem spares_matchLine (codePrefix : String) (m : ErrorMatch) :
    Spares (matchLine codePrefix m) := by
  intro s hs
  have hreport := hs.append (sparesOutput_singleton (unsatisfied_isOutputDiffers codePrefix m))
  rw [outcome_matchLine]
  rcases hposition : position s.lines.length m.line with f | _ | n
  · refine ⟨hs, fun g h => absurd (hposition.trans ?_) (position_ne_failed _ _ g)⟩
    exact congrArg Except.error (Except.error.inj h)
  · exact ⟨hreport, fun _ h => by cases h⟩
  · dsimp only
    rcases takeFirst (satisfies codePrefix m.kind) (s.bucket (some n)) with e | _ | rest
    · exact ⟨hs, fun _ h => by cases h⟩
    · exact ⟨hreport, fun _ h => by cases h⟩
    · exact ⟨hs, fun _ h => by cases h⟩

end Matching

namespace Case

variable (c : Case)

open Matching

/-- A setting with several values is no matter of output. -/
theorem sparesOutput_findOne {α : Type} {kind : String}
    {setting : DirectiveSet → Option (Spanned α)} {f : Failure}
    (h : c.findOne kind setting = .error f) : SparesOutput f.errors := by
  rw [findOne, Directives.findOne] at h
  split at h
  · cases h
  · cases h
  · cases h
    exact sparesOutput_singleton rfl

theorem sparesOutput_of_bind_findOne {α β : Type} {kind : String}
    {setting : DirectiveSet → Option (Spanned α)} {g : Option (Spanned α) → β} {f : Failure}
    (h : (do return g (← c.findOne kind setting)) = Except.error f) : SparesOutput f.errors := by
  rcases hsetting : c.findOne kind setting with e | value
  · rw [hsetting] at h
    cases h
    exact c.sparesOutput_findOne hsetting
  · rw [hsetting] at h
    cases h

theorem sparesOutput_mode {f : Failure} (h : c.mode = .error f) : SparesOutput f.errors :=
  c.sparesOutput_of_bind_findOne h

theorem sparesOutput_closing (level : Level) (mode : Spanned Mode) (s : Matching) :
    SparesOutput (c.closing level mode s) := by
  intro d hd
  obtain ⟨_, _, rfl⟩ | ⟨_, _, rfl⟩ | rfl := mem_closing hd
  · rfl
  · rfl
  · rfl

/-- **A check of messages reports nothing about output.** -/
theorem checkAnnotations_spares : Spares c.checkAnnotations := by
  rw [checkAnnotations_eq, matchAll]
  simp only [bind_assoc]
  refine (Spares.forM spares_matchOther _).bind fun _ => ?_
  refine (spares_liftFailure fun f h => c.sparesOutput_of_bind_findOne h).bind fun codePrefix => ?_
  refine (Spares.forM (spares_matchLine codePrefix) _).bind fun _ => ?_
  refine (spares_liftFailure fun f h => c.sparesOutput_of_bind_findOne h).bind fun level => ?_
  refine (spares_liftFailure fun f h => c.sparesOutput_mode h).bind fun mode s hs => ?_
  rw [outcome_close]
  exact ⟨hs.append (c.sparesOutput_closing level mode s), fun _ h => by cases h⟩

/-- What is found wrong with messages says nothing about output. -/
theorem sparesOutput_messageErrors (d : Diagnostics) {es : List Discrepancy}
    (hes : SparesOutput es) :
    (∀ errors, c.messageErrors d es = .ok errors → SparesOutput errors) ∧
      ∀ f, c.messageErrors d es = .error (.failed f) → SparesOutput f.errors := by
  let start : Matching := { Matching.ofDiagnostics d with errors := es }
  obtain ⟨herrors, hfailed⟩ := c.checkAnnotations_spares start hes
  have heq : c.messageErrors d es = (outcome c.checkAnnotations start).1.map fun _ =>
      (outcome c.checkAnnotations start).2.errors := rfl
  rw [heq]
  rcases hrun : outcome c.checkAnnotations start with ⟨e | _, final⟩
  · rw [hrun] at hfailed
    refine ⟨fun _ h => (by cases h), fun f h => hfailed f ?_⟩
    exact congrArg Except.error (Except.error.inj h)
  · rw [hrun] at herrors
    refine ⟨fun errors h => ?_, fun _ h => by cases h⟩
    cases h
    exact herrors

end Case

end CompilerTest

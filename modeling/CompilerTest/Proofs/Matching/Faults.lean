import CompilerTest.Proofs.Matching.Frame
import CompilerTest.Proofs.Unfailing

/-!
# How matching ends

Handling an expectation ends with a fault only if a pattern cannot be used or if a line cannot be
looked up. So a check that concludes, be it with a failure because settings conflict, has handled
all its expectations, unless there is a conflict about what codes begin with
(`Case.handled_of_concludes`).
-/

namespace CompilerTest

namespace Matching

variable {α β : Type}

/-- Whether a step that ends with a fault ends with one of these. -/
def FaultsIn (P : Fault → Prop) (x : Matcher α) : Prop := ∀ s f, (outcome x s).1 = .error f → P f

section FaultsIn

variable {P : Fault → Prop}

theorem faultsIn_pure (a : α) : FaultsIn P (pure a : Matcher α) := fun _ _ h => by cases h

theorem FaultsIn.bind {x : Matcher α} {f : α → Matcher β} (hx : FaultsIn P x)
    (hf : ∀ a, FaultsIn P (f a)) : FaultsIn P (x >>= f) := by
  intro s e h
  rw [outcome_bind] at h
  rcases hrun : outcome x s with ⟨e' | a, u⟩
  · rw [hrun] at h
    obtain rfl := Except.error.inj h
    exact hx s e' (by rw [hrun])
  · rw [hrun] at h
    exact hf a u e h

theorem FaultsIn.forM {f : α → Matcher Unit} {l : List α} (hf : ∀ a ∈ l, FaultsIn P (f a)) :
    FaultsIn P (l.forM f) := by
  induction l with
  | nil => exact faultsIn_pure ()
  | cons a l ih =>
    exact (hf a List.mem_cons_self).bind fun _ => ih fun b hb => hf b (List.mem_cons_of_mem _ hb)

/-- Taking a message fails only as the test of a message does. -/
theorem exists_error_of_takeFirst {ε : Type} {test : Message → Except ε Bool} {e : ε}
    {ms : List Message} (h : takeFirst test ms = .error e) : ∃ m ∈ ms, test m = .error e := by
  induction ms with
  | nil => cases h
  | cons m ms ih =>
    rw [takeFirst_cons] at h
    rcases ht : test m with e' | _ | _
    · rw [ht] at h
      obtain rfl := Except.error.inj h
      exact ⟨m, List.mem_cons_self, ht⟩
    · rw [ht] at h
      rcases hrest : takeFirst test ms with e' | r
      · rw [hrest] at h
        obtain rfl := Except.error.inj h
        obtain ⟨m', hm', htest⟩ := ih hrest
        exact ⟨m', List.mem_cons_of_mem _ hm', htest⟩
      · rw [hrest] at h
        cases h
    · rw [ht] at h
      cases h

theorem faultsIn_matchOther {p : Spanned Pattern}
    (hP : ∀ text e, p.content.fits text = .error e → P (.regex e)) :
    FaultsIn P (matchOther p) := by
  intro s f h
  rw [outcome_matchOther] at h
  rcases htake : takeFirst (fun m => p.content.fits m.text) s.unknown with e | _ | rest
  · rw [htake] at h
    obtain rfl := Except.error.inj h
    obtain ⟨m, -, htest⟩ := exists_error_of_takeFirst htake
    exact hP m.text e htest
  · rw [htake] at h
    cases h
  · rw [htake] at h
    cases h

theorem position_error {count : Nat} {line : Number} {f : Fault}
    (h : position count line = .error f) : f = .fractionalLine := by
  unfold position at h
  split at h
  · split at h
    · cases h
    · exact (Except.error.inj h).symm
  · cases h

theorem faultsIn_matchLine {codePrefix : String} {m : ErrorMatch}
    (hP : ∀ msg e, satisfies codePrefix m.kind msg = .error e → P (.regex e))
    (hfraction : P .fractionalLine) : FaultsIn P (matchLine codePrefix m) := by
  intro s f h
  rw [outcome_matchLine] at h
  rcases hposition : position s.lines.length m.line with f' | _ | n
  · rw [hposition] at h
    obtain rfl := Except.error.inj h
    rw [position_error hposition]
    exact hfraction
  · rw [hposition] at h
    cases h
  · rw [hposition] at h
    dsimp only at h
    rcases htake : takeFirst (satisfies codePrefix m.kind) (s.bucket (some n)) with e | _ | rest
    · rw [htake] at h
      obtain rfl := Except.error.inj h
      obtain ⟨msg, -, htest⟩ := exists_error_of_takeFirst htake
      exact hP msg e htest
    · rw [htake] at h
      cases h
    · rw [htake] at h
      cases h

/-- A step that concludes has completed its first part, if that part does not fail the test. -/
theorem FaultsIn.completes {x : Matcher α} {f : α → Matcher β} {s t : Matching}
    {result : Except Fault β} (hx : FaultsIn (fun f => ∀ g, f ≠ .failed g) x)
    (h : outcome (x >>= f) s = (result, t)) (hresult : Concludes result) :
    ∃ a u, outcome x s = (.ok a, u) ∧ outcome (f a) u = (result, t) := by
  rw [outcome_bind] at h
  rcases hrun : outcome x s with ⟨e | a, u⟩
  · rw [hrun] at h
    cases h
    cases hresult with
    | failed g => exact absurd rfl (hx s _ (by rw [hrun]) g)
  · rw [hrun] at h
    exact ⟨a, u, rfl, h⟩

end FaultsIn

/-- What is reported comes behind what was there. -/
theorem Frames.errors_eq {x : Matcher α} (hx : Frames x) (s : Matching) :
    ∃ es, (outcome x s).2.errors = s.errors ++ es := by
  have hs : ({ s with errors := [] } : Matching).behind s.errors = s := by simp [behind]
  have h := hx s.errors { s with errors := [] }
  rw [hs] at h
  exact ⟨_, by rw [h]; rfl⟩

end Matching

namespace Case

open Matching

variable {c : Case}

/-- The part of a check that comes after all expectations: it resolves the settings that are left
and makes the reports at the end. -/
def finish (c : Case) : Matcher Unit := do
  let level ← liftFailure c.requiredLevel
  let mode ← liftFailure c.mode
  c.close level mode

theorem checkAnnotations_eq_finish (c : Case) :
    c.checkAnnotations = c.otherFiles.forM matchOther >>= fun _ =>
      liftFailure c.codePrefix >>= fun codePrefix =>
        c.errorMatches.forM (matchLine codePrefix) >>= fun _ => c.finish := by
  rw [checkAnnotations_eq, matchAll]
  simp only [bind_assoc]
  rfl

theorem outcome_finish (c : Case) (s : Matching) :
    outcome c.finish s = match c.requiredLevel, c.mode with
      | .error f, _ => (.error (.failed f), s)
      | .ok _, .error f => (.error (.failed f), s)
      | .ok level, .ok mode =>
        (.ok (), { s with errors := s.errors ++ c.closing level mode s }) := by
  rcases hl : c.requiredLevel with f | level
  · simp [finish, hl, liftFailure]
  · rcases hm : c.mode with f | mode
    · simp [finish, hl, hm, liftFailure]
    · simp [finish, hl, hm, liftFailure, outcome_close]

/-- The end of a check adds reports that are not about expectations, and changes nothing else. -/
theorem finish_adds (c : Case) (s : Matching) :
    ∃ es, (outcome c.finish s).2 = { s with errors := s.errors ++ es } ∧
      ∀ d ∈ es, d.isNotFound = false := by
  rw [outcome_finish]
  rcases c.requiredLevel with f | level
  · exact ⟨[], by simp, by simp⟩
  · rcases c.mode with f | mode
    · exact ⟨[], by simp, by simp⟩
    · exact ⟨c.closing level mode s, rfl, c.closing_not_isNotFound level mode s⟩

theorem faultsIn_otherFiles (c : Case) :
    FaultsIn (fun f => ∀ g, f ≠ .failed g) (c.otherFiles.forM matchOther) :=
  .forM fun _ _ => faultsIn_matchOther fun _ _ _ _ h => by cases h

theorem faultsIn_errorMatches (c : Case) (codePrefix : String) :
    FaultsIn (fun f => ∀ g, f ≠ .failed g) (c.errorMatches.forM (matchLine codePrefix)) :=
  .forM fun _ _ => faultsIn_matchLine (fun _ _ _ _ h => by cases h) fun _ h => by cases h

/-- **A check that concludes has handled all its expectations**, if it is settled what codes begin
with. -/
theorem handled_of_concludes {codePrefix : String} {start final : Matching}
    {result : Except Fault Unit} (hp : c.codePrefix = .ok codePrefix)
    (h : outcome c.checkAnnotations start = (result, final)) (hresult : Concludes result) :
    ∃ s t, outcome (c.otherFiles.forM matchOther) start = (.ok (), s) ∧
      outcome (c.errorMatches.forM (matchLine codePrefix)) s = (.ok (), t) ∧
      outcome c.finish t = (result, final) := by
  rw [checkAnnotations_eq_finish] at h
  obtain ⟨⟨⟩, s, hs, h⟩ := c.faultsIn_otherFiles.completes h hresult
  rw [hp] at h
  obtain ⟨⟨⟩, t, ht, h⟩ := (c.faultsIn_errorMatches codePrefix).completes h hresult
  exact ⟨s, t, hs, ht, h⟩

end Case

end CompilerTest

import CompilerTest.Proofs.Matching.Check

/-!
# Errors that were there before

Matching adds to the errors of its state and never looks at them. So a check that starts with some
errors does what it does without them, and leaves them in front of its own, also when it ends with a
fault (`checkAnnotations_frames`).
-/

namespace CompilerTest

namespace Matching

variable {α β : Type}

/-- A state with more errors in front. -/
def behind (es : List Discrepancy) (s : Matching) : Matching := { s with errors := es ++ s.errors }

@[simp] theorem bucket_behind (es : List Discrepancy) (s : Matching) (line : Option Nat) :
    (s.behind es).bucket line = s.bucket line := bucket_errors s _ line

/-- Whether a step does the same with more errors in front, and keeps them there. -/
def Frames (x : Matcher α) : Prop :=
  ∀ es s, outcome x (s.behind es) = ((outcome x s).1, (outcome x s).2.behind es)

theorem frames_pure (a : α) : Frames (pure a) := fun _ _ => rfl

theorem Frames.bind {x : Matcher α} {f : α → Matcher β} (hx : Frames x) (hf : ∀ a, Frames (f a)) :
    Frames (x >>= f) := by
  intro es s
  rw [outcome_bind, outcome_bind, hx es s]
  rcases outcome x s with ⟨e | a, t⟩
  · rfl
  · exact hf a es t

theorem Frames.forM {f : α → Matcher Unit} (hf : ∀ a, Frames (f a)) (l : List α) :
    Frames (l.forM f) := by
  induction l with
  | nil => exact frames_pure ()
  | cons a l ih => exact (hf a).bind fun _ => ih

theorem frames_liftFailure (x : Except Failure α) : Frames (liftFailure x) := by
  cases x <;> exact fun _ _ => rfl

theorem frames_report (d : Discrepancy) : Frames (report d) := by
  intro es s
  simp [behind]

theorem frames_matchOther (p : Spanned Pattern) : Frames (matchOther p) := by
  intro es s
  simp only [outcome_matchOther, behind]
  rcases takeFirst (fun m => p.content.fits m.text) s.unknown with e | _ | rest
  · rfl
  · simp
  · rfl

theorem frames_matchLine (codePrefix : String) (m : ErrorMatch) :
    Frames (matchLine codePrefix m) := by
  intro es s
  simp only [outcome_matchLine, bucket_behind]
  simp only [behind]
  rcases position s.lines.length m.line with f | _ | n
  · rfl
  · simp
  · dsimp only
    rcases takeFirst (satisfies codePrefix m.kind) (s.bucket (some n)) with e | _ | rest
    · rfl
    · simp
    · rfl

/-- What is left over does not depend on errors. -/
theorem frames_leftOver (file : Path) (level : Level) :
    Frames (modify fun s => { s with errors := s.errors ++ leftOver file level s }) := by
  intro es s
  simp [behind, leftOver]

end Matching

namespace Case

/-- **Errors that were there before do not matter.** -/
theorem checkAnnotations_frames (c : Case) : Matching.Frames c.checkAnnotations := by
  unfold checkAnnotations
  refine (Matching.Frames.forM Matching.frames_matchOther _).bind fun _ => ?_
  refine (Matching.frames_liftFailure _).bind fun codePrefix => ?_
  refine (Matching.Frames.forM (Matching.frames_matchLine codePrefix) _).bind fun _ => ?_
  refine (Matching.frames_liftFailure _).bind fun level => ?_
  refine (Matching.frames_liftFailure _).bind fun mode => ?_
  have hreports := Matching.Frames.forM Matching.frames_report
    (Matching.modeConflict mode c.lastExpectation)
  by_cases hne : mode.content ≠ .yolo
  · simp only [if_pos hne]
    exact (Matching.frames_leftOver c.path level).bind fun _ => hreports
  · simp only [if_neg hne]
    exact hreports

end Case

end CompilerTest

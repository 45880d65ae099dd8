import CompilerTest.Case.Run
import CompilerTest.Proofs.Outcome

/-!
# What fails no test

A verification concludes if it hands on output or fails the test; it may also end because something
is unusable or refused. Decoding and the comparison of output fail no test (`unfailing_decode`,
`neverFails_checkTestOutput`), so a verification that concludes has completed them.
-/

namespace CompilerTest

/-! ## Computations that fail no test -/

/-- A computation does not end as a failed test. -/
def Unfailing {α : Type} (x : Except Fault α) : Prop := ∀ f, x ≠ .error (.failed f)

section Unfailing

variable {α β : Type}

theorem unfailing_ok (a : α) : Unfailing (.ok a) := fun _ h => by cases h

theorem Unfailing.bind {x : Except Fault α} {f : α → Except Fault β} (hx : Unfailing x)
    (hf : ∀ a, Unfailing (f a)) : Unfailing (x >>= f) := by
  cases x with
  | error e =>
    intro g h
    exact hx g (by cases h; rfl)
  | ok a => exact hf a

theorem unfailing_foldlM {f : β → α → Except Fault β} (hf : ∀ b a, Unfailing (f b a)) (l : List α)
    (b : β) : Unfailing (l.foldlM f b) := by
  induction l generalizing b with
  | nil => exact unfailing_ok b
  | cons a l ih => exact (hf b a).bind ih

/-- Errors of a kind of their own fail no test. -/
theorem unfailing_mapError {ε : Type} {g : ε → Fault} (hg : ∀ e f, g e ≠ .failed f)
    (x : Except ε α) : Unfailing (x.mapError g) := by
  cases x with
  | error e => exact fun f h => hg e f (Except.error.inj h)
  | ok a => exact unfailing_ok a

end Unfailing

/-- A verification concludes if it hands on a value or ends as a failed test. -/
inductive Concludes {α : Type} : Except Fault α → Prop where
  /-- It hands on a value. -/
  | passed (a : α) : Concludes (.ok a)
  /-- It ends as a failed test. -/
  | failed (f : Failure) : Concludes (.error (.failed f))

namespace Diagnostics

/-! ## Decoding fails no test -/

section Unfailing

variable (s : Subject)

theorem unfailing_isTested (candidate : Path) : Unfailing (s.isTested candidate) := by
  unfold Subject.isTested
  split
  · exact unfailing_ok _
  · dsimp only
    refine Unfailing.bind ?candidate fun a? => ?rest
    case' rest =>
      rcases a? with _ | a
      · exact unfailing_ok _
      refine Unfailing.bind ?file fun b? => ?compared
      case compared => cases b? <;> exact unfailing_ok _
    -- the real paths of both
    all_goals
      split
      · exact unfailing_ok _
      · split
        · exact fun _ h => by cases h
        · exact unfailing_ok _
      · exact fun _ h => by cases h

theorem unfailing_names (name : Json) : Unfailing (s.names name) := by
  unfold Subject.names
  split
  · exact unfailing_isTested s _
  · split
    · exact fun _ h => by cases h
    · exact unfailing_isTested s _
  · exact unfailing_ok _

theorem unfailing_spanLine? (span : Json) : Unfailing (spanLine? s span) := by
  unfold spanLine?
  split
  · split
    · exact (unfailing_names s _).bind fun _ => unfailing_ok _
    · exact unfailing_ok _
  · exact unfailing_ok _

theorem unfailing_firstLine? (spans : List Json) : Unfailing (firstLine? s spans) := by
  induction spans with
  | nil => exact unfailing_ok _
  | cons span spans ih =>
    refine (unfailing_spanLine? s span).bind fun line? => ?_
    cases line? with
    | none => exact ih
    | some line => exact unfailing_ok _

theorem unfailing_primaryLine (spans : Json) : Unfailing (primaryLine s spans) := by
  unfold primaryLine
  split
  · exact unfailing_firstLine? s _
  · exact unfailing_ok _

mutual

theorem unfailing_insertTree (parent : Option Int) :
    ∀ (payload : Json) (d : Decoding), Unfailing (insertTree s parent payload d)
  | .object ms, d => by
    rw [insertTree]
    exact (unfailing_primaryLine s _).bind fun _ => unfailing_insertMembers _ ms _
  | .null, d | .bool _, d | .number _, d | .text _, d | .broken _, d | .array _, d => by
    simp only [insertTree]
    exact unfailing_ok d

theorem unfailing_insertMembers (line : Option Int) :
    ∀ (ms : List (String × Json)) (d : Decoding), Unfailing (insertMembers s line ms d)
  | [], d => by
    rw [insertMembers]
    exact unfailing_ok d
  | (name, value) :: rest, d => by
    rw [insertMembers]
    split
    · exact unfailing_insertChildren line value d
    · exact unfailing_insertMembers line rest d

theorem unfailing_insertChildren (line : Option Int) :
    ∀ (children : Json) (d : Decoding), Unfailing (insertChildren s line children d)
  | .array items, d => by
    rw [insertChildren]
    exact unfailing_insertItems line items d
  | .number n, d => by
    rw [insertChildren]
    split
    · exact unfailing_ok d
    · exact fun _ h => by cases h
  | .bool b, d => by
    rw [insertChildren]
    split
    · exact fun _ h => by cases h
    · exact unfailing_ok d
  | .null, d | .text _, d | .broken _, d | .object _, d => by
    simp only [insertChildren]
    exact unfailing_ok d

theorem unfailing_insertItems (line : Option Int) :
    ∀ (items : List Json) (d : Decoding), Unfailing (insertItems s line items d)
  | [], d => by
    rw [insertItems]
    exact unfailing_ok d
  | payload :: rest, d => by
    rw [insertItems]
    exact (unfailing_insertTree line payload d).bind fun d => unfailing_insertItems line rest d

end

theorem unfailing_addDiagnostic (line : Bytes) (payload : Json) (d : Decoding) :
    Unfailing (addDiagnostic s line payload d) := by
  unfold addDiagnostic
  split
  · split
    · exact unfailing_insertTree s _ _ _
    · exact fun _ h => by cases h
    · exact unfailing_insertTree s _ _ _
  · exact unfailing_ok _

theorem unfailing_addLine (d : Decoding) (line : Bytes) : Unfailing (addLine s d line) := by
  unfold addLine
  dsimp only
  split
  · exact unfailing_ok _
  · split
    · exact unfailing_ok _
    · split
      · exact unfailing_addDiagnostic s _ _ _
      · exact unfailing_ok _
      · exact fun _ h => by cases h
      · exact fun _ h => by cases h

/-- Decoding fails no test. -/
theorem unfailing_decode (output : Bytes) : Unfailing (decode s output) :=
  unfailing_foldlM (unfailing_addLine s) _ _

end Unfailing

end Diagnostics

/-! ## Steps that fail no test -/

namespace Run

variable {α β : Type}

/-- A step never ends as a failed test. -/
def NeverFails (x : Run α) : Prop := ∀ s, Unfailing (outcome x s).1

theorem neverFails_pure (a : α) : NeverFails (pure a) := fun _ => unfailing_ok a

theorem NeverFails.bind {x : Run α} {f : α → Run β} (hx : NeverFails x)
    (hf : ∀ a, NeverFails (f a)) : NeverFails (x >>= f) := by
  intro s g h
  rw [outcome_bind] at h
  rcases hrun : outcome x s with ⟨e | a, u⟩
  · rw [hrun] at h
    exact hx s g (by rw [hrun]; exact congrArg Except.error (Except.error.inj h))
  · rw [hrun] at h
    exact hf a u g h

theorem neverFails_tree : NeverFails tree := fun _ => unfailing_ok _

theorem neverFails_setTree (t : FileTree) : NeverFails (setTree t) := fun _ => unfailing_ok _

theorem neverFails_log (severity : Severity) (source text : String) :
    NeverFails (log severity source text) := fun _ => unfailing_ok _

theorem neverFails_lift {x : Except Fault α} (hx : Unfailing x) : NeverFails (lift x) := by
  cases x with
  | error e => exact fun _ => hx
  | ok a => exact fun _ => unfailing_ok a

theorem neverFails_liftFile (x : Except FileError α) : NeverFails (liftFile x) := by
  cases x with
  | error e => exact fun _ _ h => by cases h
  | ok a => exact fun _ => unfailing_ok a

/-- A step that concludes has completed its first part, if that part fails no test. -/
theorem NeverFails.completes {x : Run α} {f : α → Run β} {s t : Session} {result : Except Fault β}
    (hx : NeverFails x) (h : outcome (x >>= f) s = (result, t)) (hresult : Concludes result) :
    ∃ a u, outcome x s = (.ok a, u) ∧ outcome (f a) u = (result, t) := by
  rw [outcome_bind] at h
  rcases hrun : outcome x s with ⟨e | a, u⟩
  · rw [hrun] at h
    cases h
    cases hresult with
    | failed g => exact absurd (by rw [hrun]) (hx s g)
  · rw [hrun] at h
    exact ⟨a, u, rfl, h⟩

end Run

namespace Case

open Run

variable (c : Case)

theorem neverFails_decodeDiagnostics (stderr : Bytes) :
    NeverFails (c.decodeDiagnostics stderr) := by
  unfold decodeDiagnostics
  refine neverFails_tree.bind fun t =>
    (neverFails_lift (Diagnostics.unfailing_decode _ _)).bind fun decoding => ?_
  have hlog (texts : List String) :
      NeverFails (texts.forM (log .warning "diagnostics")) := by
    intro s
    rw [outcome_forM_log]
    exact unfailing_ok ()
  exact (hlog decoding.warnings).bind fun _ => neverFails_pure _

theorem unfailing_normalize (text : Bytes) (kind : String) :
    Unfailing (c.normalize text kind) := by
  have happly (rules : List Normalization) :
      Unfailing ((Normalization.applyAll rules text).mapError .regex) :=
    unfailing_mapError (fun _ _ h => by cases h) _
  unfold normalize
  dsimp only
  split
  · exact unfailing_ok _
  · split
    · exact happly _
    · split
      · exact happly _
      · exact fun _ h => by cases h

theorem neverFails_bless (path : Path) (output : Bytes) : NeverFails (bless path output) := by
  unfold bless
  refine neverFails_tree.bind fun t =>
    (neverFails_liftFile _).bind fun t' => (neverFails_setTree t').bind fun _ => ?_
  split
  · exact neverFails_log _ _ _
  · exact neverFails_log _ _ _

theorem neverFails_checkOutput (output : Bytes) (kind : String) :
    NeverFails (c.checkOutput output kind) := by
  unfold checkOutput
  refine (neverFails_lift (c.unfailing_normalize output kind)).bind fun normalized =>
    (neverFails_lift (unfailing_mapError (fun _ _ h => by cases h) _)).bind fun path => ?_
  split
  · refine neverFails_tree.bind fun t => (neverFails_liftFile _).bind fun expected => ?_
    split
    · exact neverFails_pure _
    · exact neverFails_pure _
  · exact (neverFails_bless path normalized).bind fun _ => neverFails_pure _
  · exact neverFails_pure _

/-- Comparing output fails no test: it only finds what is wrong. -/
theorem neverFails_checkTestOutput (stdout stderr : Bytes) :
    NeverFails (c.checkTestOutput stdout stderr) := by
  unfold checkTestOutput
  exact (c.neverFails_checkOutput stderr "stderr").bind fun _ =>
    (c.neverFails_checkOutput stdout "stdout").bind fun _ => neverFails_pure _

end Case

end CompilerTest

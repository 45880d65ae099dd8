import CompilerTest.Proofs.Matching.Positions
import CompilerTest.Proofs.Outcome

/-!
# Steps of matching

What a test expects is handled one expectation after the other, whether it is for a line or for
another file. This module says once what handling an expectation can do (`Wanted.step_cases`): it
takes the first message that fits out of the bucket that the expectation looks at, or it reports the
expectation and leaves the messages alone.
-/

namespace CompilerTest

namespace Matching

/-! ## Taking the first message that fits -/

section TakeFirst

variable {ε : Type} {test : Message → Except ε Bool}

theorem takeFirst_cons (test : Message → Except ε Bool) (m : Message) (ms : List Message) :
    takeFirst test (m :: ms) = match test m with
      | .error e => .error e
      | .ok true => .ok (some ms)
      | .ok false => (takeFirst test ms).map fun r => r.map (m :: ·) := by
  rw [takeFirst]
  rcases test m with e | _ | _
  · rfl
  · show (takeFirst test ms >>= _) = _
    cases takeFirst test ms <;> rfl
  · rfl

/-- Nothing is taken only if every message has been refused. -/
theorem refused_of_takeFirst_none {ms : List Message} (h : takeFirst test ms = .ok none) :
    ∀ m ∈ ms, test m = .ok false := by
  induction ms with
  | nil => simp
  | cons m ms ih =>
    rw [takeFirst_cons] at h
    rcases ht : test m with e | _ | _ <;> simp only [ht] at h
    · simp at h
    · rcases hr : takeFirst test ms with e | _ | r <;> simp [hr, Except.map] at h
      simpa [ht] using ih hr
    · simp at h

/-- From messages with distinct tags, one that fits is taken, and those with other tags are left. -/
theorem takeFirst_tagged {l : List (Message × Nat)} (hnd : (l.map Prod.snd).Nodup)
    {rest : List Message} (h : takeFirst test (l.map Prod.fst) = .ok (some rest)) :
    ∃ x ∈ l, test x.1 = .ok true ∧ rest = (l.filter fun y => y.2 ≠ x.2).map Prod.fst := by
  induction l generalizing rest with
  | nil => simp [takeFirst] at h
  | cons x l ih =>
    rw [List.map_cons, List.nodup_cons] at hnd
    have hne : ∀ y ∈ l, y.2 ≠ x.2 := fun y hy e => hnd.1 (e ▸ List.mem_map_of_mem hy)
    rw [List.map_cons, takeFirst_cons] at h
    rcases ht : test x.1 with e | _ | _ <;> simp only [ht] at h
    · simp at h
    · rcases hr : takeFirst test (l.map Prod.fst) with e | _ | r <;> simp [hr, Except.map] at h
      obtain ⟨y, hy, hty, hry⟩ := ih hnd.2 hr
      exact ⟨y, List.mem_cons_of_mem _ hy, hty, by simp [(hne y hy).symm, ← h, hry]⟩
    · have hl : l.filter (fun y => y.2 ≠ x.2) = l :=
        List.filter_eq_self.2 fun y hy => by simpa using hne y hy
      refine ⟨x, List.mem_cons_self, ht, ?_⟩
      rw [List.filter_cons_of_neg (by simp), hl]
      simpa using h.symm

/-- From the messages at kept positions, one that fits is taken, and its position is kept no
longer. -/
theorem takeFirst_keepAt {keep : Nat → Bool} {ms rest : List Message}
    (h : takeFirst test (keepAt keep ms) = .ok (some rest)) :
    ∃ i m, ms[i]? = some m ∧ keep i = true ∧ test m = .ok true ∧
      rest = keepAt (fun j => keep j && j ≠ i) ms := by
  have hnd : ((ms.zipIdx.filter fun x => keep x.2).map Prod.snd).Nodup := by
    refine List.Nodup.sublist (List.filter_sublist.map _) ?_
    rw [List.zipIdx_map_snd]
    exact List.nodup_range'
  obtain ⟨⟨m, i⟩, hx, ht, hr⟩ := takeFirst_tagged hnd h
  rw [List.mem_filter, List.mem_zipIdx_iff_getElem?] at hx
  refine ⟨i, m, hx.1, hx.2, ht, ?_⟩
  rw [hr, keepAt, List.filter_filter]
  congr 1
  exact List.filter_congr fun _ _ => Bool.and_comm _ _

end TakeFirst

/-! ## The steps of the two kinds of expectations -/

@[simp] theorem outcome_report (d : Discrepancy) (s : Matching) :
    outcome (report d) s = (.ok (), { s with errors := s.errors ++ [d] }) := rfl

theorem outcome_liftFailure_ok_iff {α : Type} {x : Except Failure α} {a : α} {s t : Matching} :
    outcome (liftFailure x) s = (.ok a, t) ↔ x = .ok a ∧ t = s := by
  cases x with
  | ok b => simp [liftFailure, eq_comm]
  | error f => simp [liftFailure]

theorem outcome_matchOther (p : Spanned Pattern) (s : Matching) :
    outcome (matchOther p) s = match takeFirst (fun m => p.content.fits m.text) s.unknown with
      | .ok (some rest) => (.ok (), { s with unknown := rest })
      | .ok none => (.ok (), { s with errors := s.errors ++ [.patternNotFound p none] })
      | .error e => (.error (.regex e), s) := by
  simp only [matchOther, outcome_bind, outcome_get]
  rcases takeFirst (fun m => p.content.fits m.text) s.unknown with e | _ | rest
  · simp [liftRegex]
  · simp [liftRegex]
  · simp [liftRegex]

theorem outcome_matchLine (codePrefix : String) (m : ErrorMatch) (s : Matching) :
    outcome (matchLine codePrefix m) s = match position s.lines.length m.line with
      | .error f => (.error f, s)
      | .ok none => (.ok (), { s with errors := s.errors ++ [unsatisfied codePrefix m] })
      | .ok (some n) =>
        match takeFirst (satisfies codePrefix m.kind) (s.bucket (some n)) with
        | .ok (some rest) => (.ok (), { s with lines := s.lines.set n rest })
        | .ok none => (.ok (), { s with errors := s.errors ++ [unsatisfied codePrefix m] })
        | .error e => (.error (.regex e), s) := by
  simp only [matchLine, outcome_bind, outcome_get]
  rcases position s.lines.length m.line with f | _ | n
  · simp
  · simp
  · simp only [← bucket_some, outcome_bind]
    rcases takeFirst (satisfies codePrefix m.kind) (s.bucket (some n)) with e | _ | rest
    · simp [liftRegex]
    · simp [liftRegex]
    · simp [liftRegex]

end Matching

/-! ## Expectations of both kinds -/

/-- A message that a test expects. -/
inductive Wanted where
  /-- In another file, or without a line. -/
  | elsewhere (pattern : Spanned Pattern)
  /-- On a line of the file. -/
  | onLine (m : ErrorMatch)

namespace Wanted

/-- Whether the message is looked for among those of a line, or among those without one. Lines are
at least one. -/
def LooksAt : Wanted → Option Nat → Prop
  | elsewhere _, none => True
  | onLine m, some n => ∃ k : Int, m.line = .int k ∧ k.toNat = n
  | _, _ => False

/-- Whether a message is the expected one, where `codePrefix` is what codes begin with. -/
def Accepts (codePrefix : String) : Wanted → Message → Prop
  | elsewhere p, m => p.content.fits m.text = .ok true
  | onLine ⟨.pattern p level, _⟩, m => m.level = level ∧ p.content.fits m.text = .ok true
  | onLine ⟨.code c, _⟩, m => m.level = .error ∧ m.code = some (codePrefix ++ c.content)

/-- What is reported when no message is the expected one. -/
def notFound (codePrefix : String) : Wanted → Discrepancy
  | elsewhere p => .patternNotFound p none
  | onLine ⟨.pattern p _, line⟩ => .patternNotFound p (some line)
  | onLine ⟨.code c, line⟩ => .codeNotFound ⟨codePrefix ++ c.content, c.span⟩ (some line)

/-- The test that matching applies to messages. -/
def test (codePrefix : String) : Wanted → Message → Except Regex.Error Bool
  | elsewhere p, m => p.content.fits m.text
  | onLine m, msg => Matching.satisfies codePrefix m.kind msg

/-- The step of matching. -/
def step (codePrefix : String) : Wanted → Matcher Unit
  | elsewhere p => Matching.matchOther p
  | onLine m => Matching.matchLine codePrefix m

theorem test_eq_true_iff {codePrefix : String} {w : Wanted} {m : Message} :
    w.test codePrefix m = .ok true ↔ w.Accepts codePrefix m := by
  cases w with
  | elsewhere p => rfl
  | onLine e =>
    obtain ⟨kind, line⟩ := e
    cases kind with
    | pattern p level =>
      by_cases h : m.level = level <;> simp [test, Matching.satisfies, Accepts, h]
    | code c => simp [test, Matching.satisfies, Accepts]

/-- An expectation looks at one bucket only. -/
theorem LooksAt.unique {w : Wanted} {line line' : Option Nat} (h : w.LooksAt line)
    (h' : w.LooksAt line') : line = line' := by
  cases w <;> cases line <;> cases line' <;> simp only [LooksAt] at h h'
  · rfl
  · obtain ⟨k, hk, rfl⟩ := h
    obtain ⟨k', hk', rfl⟩ := h'
    rw [hk, Number.int.injEq] at hk'
    rw [hk']

theorem onLine_notFound (codePrefix : String) (m : ErrorMatch) :
    (onLine m).notFound codePrefix = Matching.unsatisfied codePrefix m := by
  obtain ⟨kind, line⟩ := m
  cases kind <;> rfl

/-- Lines at which an expectation looks have a position, unless they are beyond the last line. -/
theorem position_of_looksAt {m : ErrorMatch} {n : Nat} (count : Nat)
    (h : (onLine m).LooksAt (some n)) :
    Matching.position count m.line = .ok (some n) ∨
      Matching.position count m.line = .ok none ∧ count ≤ n := by
  obtain ⟨k, hk, rfl⟩ := h
  by_cases hlt : k < count
  · left; simp [Matching.position, Number.below, hk, hlt]
  · right; exact ⟨by simp [Matching.position, Number.below, hk, hlt], by omega⟩

/-- Only whole lines have a position. -/
theorem looksAt_of_position {m : ErrorMatch} {n count : Nat}
    (h : Matching.position count m.line = .ok (some n)) : (onLine m).LooksAt (some n) := by
  unfold Matching.position at h
  split at h
  · split at h
    · rename_i k hk
      exact ⟨k, hk, by simpa using h⟩
    · simp at h
  · simp at h

/-- **All that a step can do.** It takes the first message that fits, or reports the expectation
after every message at which it looks has been refused. -/
theorem step_cases {codePrefix : String} {w : Wanted} {s t : Matching}
    (h : outcome (w.step codePrefix) s = (.ok (), t)) :
    (∃ line rest, w.LooksAt line ∧
        Matching.takeFirst (w.test codePrefix) (s.bucket line) = .ok (some rest) ∧
        t = s.setBucket line rest) ∨
      ((∀ line, w.LooksAt line → ∀ m ∈ s.bucket line, w.test codePrefix m = .ok false) ∧
        t = { s with errors := s.errors ++ [w.notFound codePrefix] }) := by
  cases w with
  | elsewhere p =>
    simp only [step, Matching.outcome_matchOther] at h
    rcases ht : Matching.takeFirst (fun m => p.content.fits m.text) s.unknown with e | _ | rest
    · simp [ht] at h
    · right
      simp only [ht, Prod.mk.injEq, true_and] at h
      refine ⟨fun line hl => ?_, h.symm⟩
      have hnone : (elsewhere p).LooksAt none := trivial
      obtain rfl := hnone.unique hl
      exact Matching.refused_of_takeFirst_none ht
    · left
      simp only [ht, Prod.mk.injEq, true_and] at h
      exact ⟨none, rest, trivial, ht, h.symm⟩
  | onLine m =>
    simp only [step, Matching.outcome_matchLine] at h
    rw [onLine_notFound]
    rcases hp : Matching.position s.lines.length m.line with f | _ | n
    · simp [hp] at h
    · -- the line is beyond the last bucket, so there is nothing to refuse
      right
      simp only [hp, Prod.mk.injEq, true_and] at h
      refine ⟨fun line hl => ?_, h.symm⟩
      rcases line with _ | n
      · exact absurd hl (by simp [LooksAt])
      · rcases position_of_looksAt s.lines.length hl with hp' | ⟨-, hn⟩
        · simp [hp] at hp'
        · rw [Matching.bucket_some, List.getD_eq_default _ _ hn]
          simp
    · have hl := looksAt_of_position hp
      rcases ht : Matching.takeFirst (Matching.satisfies codePrefix m.kind) (s.bucket (some n)) with
        e | _ | rest
      · simp [hp, ht] at h
      · right
        simp only [hp, ht, Prod.mk.injEq, true_and] at h
        refine ⟨fun line hl' => ?_, h.symm⟩
        obtain rfl := hl.unique hl'
        exact Matching.refused_of_takeFirst_none ht
      · left
        simp only [hp, ht, Prod.mk.injEq, true_and] at h
        exact ⟨some n, rest, hl, ht, h.symm⟩

end Wanted

end CompilerTest

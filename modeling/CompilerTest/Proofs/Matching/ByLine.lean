import CompilerTest.Proofs.Matching.Check
import CompilerTest.Proofs.Shapes

/-!
# Matching line by line

What happens to the messages of a line is decided by the expectations for that line alone. `serve`
handles these expectations with nothing at hand but the messages of the line. Main statements: a run
over all expectations does on each line what `serve` does there (`Served.of_run`), and it completes
as soon as `serve` completes on every line (`run_of_served`).
-/

namespace CompilerTest

/-! ## Lines -/

/-- Whether a number is that of the line `n`. -/
def Number.isLine (n : Nat) (line : Number) : Bool := line.whole?.map Int.toNat = some n

/-- Whether a message is expected on the line `n`. -/
def ErrorMatch.isFor (n : Nat) (m : ErrorMatch) : Bool := m.line.isLine n

namespace Discrepancy

/-- Whether a discrepancy is about an expectation for the line `n` that no message satisfies. -/
def isMissingOn (n : Nat) : Discrepancy → Bool
  | patternNotFound _ (some line) => line.isLine n
  | codeNotFound _ (some line) => line.isLine n
  | _ => false

end Discrepancy

namespace Matching

/-- Only the line at a position has this position. -/
theorem isFor_iff_of_position {m : ErrorMatch} {n k count : Nat}
    (h : position count m.line = .ok (some k)) : m.isFor n = true ↔ n = k := by
  obtain ⟨i, hi, rfl⟩ := Wanted.looksAt_of_position h
  simp [ErrorMatch.isFor, Number.isLine, Number.whole?, hi, eq_comm]

/-- A line without a position is beyond the last line. -/
theorem le_of_position_none {m : ErrorMatch} {n count : Nat}
    (h : position count m.line = .ok none) (hm : m.isFor n = true) : count ≤ n := by
  have hbelow : ¬ m.line.below count = true := by
    intro hbelow
    simp only [position, if_pos hbelow] at h
    split at h <;> cases h
  simp only [ErrorMatch.isFor, Number.isLine, decide_eq_true_eq, Option.map_eq_some_iff] at hm
  obtain ⟨k, hk, rfl⟩ := hm
  rw [Number.below_iff_of_whole hk] at hbelow
  omega

theorem unsatisfied_isMissingOn (codePrefix : String) (m : ErrorMatch) (n : Nat) :
    (unsatisfied codePrefix m).isMissingOn n = m.isFor n := by
  obtain ⟨kind, line⟩ := m
  cases kind <;> rfl

/-! ## The expectations for one line -/

/-- Handles the expectations for a line with the messages of the line: the messages that are left
and the reports about the expectations that no message satisfies. -/
def serve (codePrefix : String) :
    List ErrorMatch → List Message → Except Regex.Error (List Message × List Discrepancy)
  | [], bucket => .ok (bucket, [])
  | m :: rest, bucket =>
    match takeFirst (satisfies codePrefix m.kind) bucket with
    | .error e => .error e
    | .ok (some left) => serve codePrefix rest left
    | .ok none => (serve codePrefix rest bucket).map fun (left, missing) =>
        (left, unsatisfied codePrefix m :: missing)

section Serve

variable {codePrefix : String} {ms ms' : List ErrorMatch} {bucket left : List Message}
  {missing : List Discrepancy}

@[simp] theorem serve_nil (codePrefix : String) (bucket : List Message) :
    serve codePrefix [] bucket = .ok (bucket, []) := rfl

/-- Expectations are served one group after the other. -/
theorem serve_append_ok_iff :
    serve codePrefix (ms ++ ms') bucket = .ok (left, missing) ↔
      ∃ between missing₁ missing₂, serve codePrefix ms bucket = .ok (between, missing₁) ∧
        serve codePrefix ms' between = .ok (left, missing₂) ∧ missing = missing₁ ++ missing₂ := by
  induction ms generalizing bucket missing with
  | nil =>
    simp only [List.nil_append, serve_nil, Except.ok.injEq, Prod.mk.injEq]
    constructor
    · exact fun h => ⟨bucket, [], missing, ⟨rfl, rfl⟩, h, rfl⟩
    · rintro ⟨_, _, _, ⟨rfl, rfl⟩, h, rfl⟩
      exact h
  | cons m ms ih =>
    rw [List.cons_append, serve, serve]
    rcases takeFirst (satisfies codePrefix m.kind) bucket with e | _ | rest
    · simp
    · have hmap : ∀ (x : Except Regex.Error (List Message × List Discrepancy)) (a b),
          (x.map fun (left, missing) => (left, unsatisfied codePrefix m :: missing)) =
              .ok (a, b) ↔
            ∃ b', x = .ok (a, b') ∧ b = unsatisfied codePrefix m :: b' := by
        rintro (e | ⟨a', b'⟩) a b
        · simp [Except.map]
        · simp only [Except.map, Except.ok.injEq, Prod.mk.injEq]
          constructor
          · rintro ⟨rfl, rfl⟩
            exact ⟨b', ⟨rfl, rfl⟩, rfl⟩
          · rintro ⟨_, ⟨rfl, rfl⟩, rfl⟩
            exact ⟨rfl, rfl⟩
      simp only [hmap, ih]
      constructor
      · rintro ⟨_, ⟨between, m₁, m₂, h₁, h₂, rfl⟩, rfl⟩
        exact ⟨between, _, m₂, ⟨m₁, h₁, rfl⟩, h₂, rfl⟩
      · rintro ⟨between, _, m₂, ⟨m₁, h₁, rfl⟩, h₂, rfl⟩
        exact ⟨_, ⟨between, m₁, m₂, h₁, h₂, rfl⟩, rfl⟩
    · exact ih

end Serve

/-! ## Runs -/

/-- Expectations `ms` for lines have been handled from the state `s` on, the state is now `t`, and
`es` has been reported meanwhile. -/
structure Served (codePrefix : String) (ms : List ErrorMatch) (s t : Matching)
    (es : List Discrepancy) : Prop where
  /-- Messages without a line are left alone. -/
  unknown_eq : t.unknown = s.unknown
  /-- There are as many lines as before. -/
  length_eq : t.lines.length = s.lines.length
  /-- Reports are added to those that were there. -/
  errors_eq : t.errors = s.errors ++ es
  /-- Every report is about one of the expectations. -/
  reports : ∀ d ∈ es, ∃ m ∈ ms, d = unsatisfied codePrefix m
  /-- Every line could be looked up. -/
  position_ok : ∀ m ∈ ms, ∃ o, position s.lines.length m.line = .ok o
  /-- On each line the expectations for it were handled, and no others. -/
  line_eq : ∀ n, serve codePrefix (ms.filter (·.isFor n)) (s.bucket (some n)) =
    .ok (t.bucket (some n), es.filter (·.isMissingOn n))

namespace Served

variable {codePrefix : String} {s t u : Matching} {ms ms' : List ErrorMatch}
  {es es' : List Discrepancy} {m : ErrorMatch}

theorem refl (codePrefix : String) (s : Matching) : Served codePrefix [] s s [] where
  unknown_eq := rfl
  length_eq := rfl
  errors_eq := (List.append_nil _).symm
  reports := by simp
  position_ok := by simp
  line_eq n := rfl

theorem append (h : Served codePrefix ms s u es) (h' : Served codePrefix ms' u t es') :
    Served codePrefix (ms ++ ms') s t (es ++ es') where
  unknown_eq := h'.unknown_eq.trans h.unknown_eq
  length_eq := h'.length_eq.trans h.length_eq
  errors_eq := by rw [h'.errors_eq, h.errors_eq, List.append_assoc]
  reports d hd := by
    rcases List.mem_append.1 hd with hd | hd
    · obtain ⟨m, hm, rfl⟩ := h.reports d hd
      exact ⟨m, List.mem_append_left _ hm, rfl⟩
    · obtain ⟨m, hm, rfl⟩ := h'.reports d hd
      exact ⟨m, List.mem_append_right _ hm, rfl⟩
  position_ok m hm := by
    rcases List.mem_append.1 hm with hm | hm
    · exact h.position_ok m hm
    · rw [← h.length_eq]
      exact h'.position_ok m hm
  line_eq n := by
    rw [List.filter_append, List.filter_append, serve_append_ok_iff]
    exact ⟨_, _, _, h.line_eq n, h'.line_eq n, rfl⟩

/-- An expectation that is reported leaves the messages alone. -/
theorem of_missing (hposition : ∃ o, position s.lines.length m.line = .ok o)
    (hnone : ∀ n, m.isFor n = true →
      takeFirst (satisfies codePrefix m.kind) (s.bucket (some n)) = .ok none) :
    Served codePrefix [m] s { s with errors := s.errors ++ [unsatisfied codePrefix m] }
      [unsatisfied codePrefix m] where
  unknown_eq := rfl
  length_eq := rfl
  errors_eq := rfl
  reports := by simp
  position_ok := by simpa using hposition
  line_eq n := by
    rw [bucket_errors]
    by_cases hm : m.isFor n = true
    · rw [List.filter_cons_of_pos hm,
        List.filter_cons_of_pos (by rwa [unsatisfied_isMissingOn]), List.filter_nil,
        List.filter_nil, serve, hnone n hm]
      rfl
    · rw [List.filter_cons_of_neg hm,
        List.filter_cons_of_neg (by rwa [unsatisfied_isMissingOn])]
      rfl

/-- An expectation that takes a message leaves the messages of other lines alone. -/
theorem of_taken {k : Nat} {rest : List Message}
    (hposition : position s.lines.length m.line = .ok (some k))
    (htaken : takeFirst (satisfies codePrefix m.kind) (s.bucket (some k)) = .ok (some rest)) :
    Served codePrefix [m] s (s.setBucket (some k) rest) [] where
  unknown_eq := rfl
  length_eq := setBucket_length s (some k) rest
  errors_eq := by rw [setBucket_errors, List.append_nil]
  reports := by simp
  position_ok := by simpa using ⟨_, hposition⟩
  line_eq n := by
    have hne : s.bucket (some k) ≠ [] := by
      intro he
      rw [he] at htaken
      cases htaken
    rw [bucket_setBucket hne]
    by_cases hn : n = k
    · subst hn
      rw [List.filter_cons_of_pos ((isFor_iff_of_position hposition).2 rfl), if_pos rfl,
        List.filter_nil, serve, htaken]
      rfl
    · rw [List.filter_cons_of_neg fun hm => hn ((isFor_iff_of_position hposition).1 hm),
        if_neg (by simpa using hn)]
      rfl

/-- **A step.** It serves its own line and leaves all other messages alone. -/
theorem of_step (h : outcome (matchLine codePrefix m) s = (.ok (), t)) :
    ∃ es, Served codePrefix [m] s t es := by
  rw [outcome_matchLine] at h
  rcases hposition : position s.lines.length m.line with f | _ | k
  · simp [hposition] at h
  · simp only [hposition, Prod.mk.injEq, true_and] at h
    subst h
    refine ⟨_, of_missing ⟨_, hposition⟩ fun n hm => ?_⟩
    rw [bucket_some, List.getD_eq_default _ _ (le_of_position_none hposition hm)]
    rfl
  · rcases htake : takeFirst (satisfies codePrefix m.kind) (s.bucket (some k)) with e | _ | rest
    · simp [hposition, htake] at h
    · simp only [hposition, htake, Prod.mk.injEq, true_and] at h
      subst h
      refine ⟨_, of_missing ⟨_, hposition⟩ fun n hm => ?_⟩
      rwa [(isFor_iff_of_position hposition).1 hm]
    · simp only [hposition, htake, Prod.mk.injEq, true_and] at h
      subst h
      exact ⟨_, of_taken hposition htake⟩

/-- **A run.** On each line it does what the expectations for that line do there by themselves. -/
theorem of_run (h : outcome (ms.forM (matchLine codePrefix)) s = (.ok (), t)) :
    ∃ es, Served codePrefix ms s t es := by
  induction ms generalizing s with
  | nil =>
    obtain rfl : s = t := by simpa [outcome_forM_nil] using h
    exact ⟨[], refl codePrefix s⟩
  | cons m ms ih =>
    rw [outcome_forM_cons, outcome_bind_ok_iff] at h
    obtain ⟨⟨⟩, u, hm, hms⟩ := h
    obtain ⟨es, hes⟩ := of_step hm
    obtain ⟨es', hes'⟩ := ih hms
    exact ⟨es ++ es', hes.append hes'⟩

end Served

section Completion

variable {codePrefix : String} {s : Matching} {ms : List ErrorMatch} {m : ErrorMatch}

/-- A step completes if its line can be looked up and served. -/
theorem step_of_served (hposition : ∃ o, position s.lines.length m.line = .ok o)
    (hserve : ∀ n, ∃ r,
      serve codePrefix ([m].filter (·.isFor n)) (s.bucket (some n)) = .ok r) :
    ∃ t, outcome (matchLine codePrefix m) s = (.ok (), t) := by
  rw [outcome_matchLine]
  obtain ⟨_ | k, hk⟩ := hposition
  · simp [hk]
  · obtain ⟨r, hr⟩ := hserve k
    rw [List.filter_cons_of_pos ((isFor_iff_of_position hk).2 rfl), List.filter_nil, serve] at hr
    simp only [hk]
    rcases htake : takeFirst (satisfies codePrefix m.kind) (s.bucket (some k)) with e | _ | rest
    · rw [htake] at hr
      cases hr
    · exact ⟨_, rfl⟩
    · exact ⟨_, rfl⟩

/-- **When a run completes.** It does if each line can be looked up and served. -/
theorem run_of_served (hposition : ∀ m ∈ ms, ∃ o, position s.lines.length m.line = .ok o)
    (hserve : ∀ n, ∃ r, serve codePrefix (ms.filter (·.isFor n)) (s.bucket (some n)) = .ok r) :
    ∃ t, outcome (ms.forM (matchLine codePrefix)) s = (.ok (), t) := by
  induction ms generalizing s with
  | nil => exact ⟨s, rfl⟩
  | cons m ms ih =>
    have hsplit : ∀ n, ∃ between missing₁ r,
        serve codePrefix ([m].filter (·.isFor n)) (s.bucket (some n)) = .ok (between, missing₁) ∧
          serve codePrefix (ms.filter (·.isFor n)) between = .ok r := by
      intro n
      obtain ⟨⟨left, missing⟩, hr⟩ := hserve n
      rw [← List.singleton_append, List.filter_append, serve_append_ok_iff] at hr
      obtain ⟨between, m₁, m₂, h₁, h₂, -⟩ := hr
      exact ⟨between, m₁, _, h₁, h₂⟩
    obtain ⟨u, hu⟩ := step_of_served (hposition m List.mem_cons_self) fun n => by
      obtain ⟨between, m₁, -, h₁, -⟩ := hsplit n
      exact ⟨_, h₁⟩
    obtain ⟨es, hserved⟩ := Served.of_step hu
    obtain ⟨t, ht⟩ := ih (s := u)
      (fun m' hm' => by
        rw [hserved.length_eq]
        exact hposition m' (List.mem_cons_of_mem _ hm'))
      (fun n => by
        obtain ⟨between, m₁, r, h₁, h₂⟩ := hsplit n
        rw [hserved.line_eq n] at h₁
        obtain ⟨rfl, -⟩ := Prod.mk.inj (Except.ok.inj h₁)
        exact ⟨r, h₂⟩)
    exact ⟨t, by rw [outcome_forM_cons, outcome_bind_of_ok hu, ht]⟩

end Completion

/-! ## Expectations for other files -/

/-- Expectations for other files leave the messages of lines alone. -/
theorem run_matchOther {ps : List (Spanned Pattern)} {s t : Matching}
    (h : outcome (ps.forM matchOther) s = (.ok (), t)) :
    t.lines = s.lines ∧ ∃ es, t.errors = s.errors ++ es ∧
      ∀ d ∈ es, ∃ p, d = .patternNotFound p none := by
  induction ps generalizing s with
  | nil =>
    obtain rfl : s = t := by simpa [outcome_forM_nil] using h
    exact ⟨rfl, [], by simp, by simp⟩
  | cons p ps ih =>
    rw [outcome_forM_cons, outcome_bind_ok_iff] at h
    obtain ⟨⟨⟩, u, hp, hps⟩ := h
    obtain ⟨hlines, es, herrors, hes⟩ := ih hps
    rw [outcome_matchOther] at hp
    rcases htake : takeFirst (fun m => p.content.fits m.text) s.unknown with e | _ | rest
    · simp [htake] at hp
    · simp only [htake, Prod.mk.injEq, true_and] at hp
      subst hp
      refine ⟨hlines, .patternNotFound p none :: es, by simp [herrors], ?_⟩
      rintro d (_ | ⟨_, hd⟩)
      · exact ⟨p, rfl⟩
      · exact hes d hd
    · simp only [htake, Prod.mk.injEq, true_and] at hp
      subst hp
      exact ⟨hlines, es, herrors, hes⟩

end Matching

end CompilerTest

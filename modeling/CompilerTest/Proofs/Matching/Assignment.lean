import CompilerTest.Proofs.Matching.Steps

/-!
# What matching assigns

A run of matching gives each expectation a message of its own or none. The assignment is kept as a
list of spots beside the list of expectations. One step extends it by one entry (`Assigned.snoc`),
and a run by as many entries as there are expectations (`Assigned.of_run`).
-/

namespace CompilerTest

namespace Matching

@[simp] theorem bucket_errors (s : Matching) (es : List Discrepancy) (line : Option Nat) :
    ({ s with errors := es } : Matching).bucket line = s.bucket line := by
  cases line <;> rfl

/-! ## Assignments -/

/-- Whether the message at a position of a bucket is not among the assigned ones. -/
def stays (spots : List (Option Spot)) (line : Option Nat) (i : Nat) : Bool :=
  some ⟨line, i⟩ ∉ spots

@[simp] theorem stays_nil (line : Option Nat) (i : Nat) : stays [] line i = true := by
  simp [stays]

@[simp] theorem stays_append_none (spots : List (Option Spot)) (line : Option Nat) (i : Nat) :
    stays (spots ++ [none]) line i = stays spots line i := by
  simp [stays]

theorem stays_append_some (spots : List (Option Spot)) (p : Spot) (line : Option Nat) (i : Nat) :
    stays (spots ++ [some p]) line i = (stays spots line i && decide (p ≠ ⟨line, i⟩)) := by
  simp [stays, eq_comm]

/-- Expectations `ws` have been handled from the state `start` on, and the state is now `left`.
`spots` has, for each of them, where its message stood at the start, or nothing if it has none. -/
structure Assigned (codePrefix : String) (start : Matching) (ws : List Wanted)
    (spots : List (Option Spot)) (left : Matching) : Prop where
  /-- Every expectation has its entry. -/
  length_eq : spots.length = ws.length
  /-- A message that is assigned is where the expectation looks, and is accepted. -/
  accepts : ∀ w p, (w, some p) ∈ ws.zip spots →
    w.LooksAt p.line ∧ ∃ m, start.message? p = some m ∧ w.Accepts codePrefix m
  /-- No message is assigned twice. -/
  injective : ∀ p, spots.count (some p) ≤ 1
  /-- There are as many lines as at the start. -/
  lines_length : left.lines.length = start.lines.length
  /-- What is left is what was there without the assigned messages, in the old order. -/
  bucket_eq : ∀ line, left.bucket line = keepAt (stays spots line) (start.bucket line)
  /-- An expectation without a message accepts none of those that are left. -/
  maximal : ∀ w, (w, none) ∈ ws.zip spots →
    ∀ line, w.LooksAt line → ∀ m ∈ left.bucket line, ¬ w.Accepts codePrefix m

/-- The expectations without a message, in order. -/
def missing (ws : List Wanted) (spots : List (Option Spot)) : List Wanted :=
  ((ws.zip spots).filter fun x => x.2.isNone).map Prod.fst

@[simp] theorem missing_nil (spots : List (Option Spot)) : missing [] spots = [] := rfl

@[simp] theorem missing_cons_none (w : Wanted) (ws : List Wanted) (spots : List (Option Spot)) :
    missing (w :: ws) (none :: spots) = w :: missing ws spots := rfl

@[simp] theorem missing_cons_some (w : Wanted) (ws : List Wanted) (p : Spot)
    (spots : List (Option Spot)) : missing (w :: ws) (some p :: spots) = missing ws spots := rfl

namespace Assigned

variable {codePrefix : String} {start s t : Matching} {ws : List Wanted} {w : Wanted}
  {spots : List (Option Spot)}

/-- Before the first step nothing is assigned. -/
theorem refl (codePrefix : String) (start : Matching) : Assigned codePrefix start [] [] start where
  length_eq := rfl
  accepts := by simp
  injective := by simp
  lines_length := rfl
  bucket_eq line := by rw [keepAt_congr (stays_nil line), keepAt_true]
  maximal := by simp

/-- Assignments do not depend on what has been reported. -/
theorem withErrors (h : Assigned codePrefix start ws spots s) (es : List Discrepancy) :
    Assigned codePrefix start ws spots { s with errors := es } where
  length_eq := h.length_eq
  accepts := h.accepts
  injective := h.injective
  lines_length := h.lines_length
  bucket_eq line := by rw [bucket_errors, h.bucket_eq]
  maximal w hw line hl m hm := h.maximal w hw line hl m (by rwa [bucket_errors] at hm)

/-- The entries of a longer list of expectations. -/
theorem mem_zip_snoc (h : Assigned codePrefix start ws spots s) {o o' : Option Spot} {w' : Wanted} :
    (w', o') ∈ (ws ++ [w]).zip (spots ++ [o]) ↔ (w', o') ∈ ws.zip spots ∨ w' = w ∧ o' = o := by
  rw [List.zip_append h.length_eq.symm]
  simp

/-- An expectation that has refused every message gets an empty entry. -/
theorem snoc_none (h : Assigned codePrefix start ws spots s)
    (hw : ∀ line, w.LooksAt line → ∀ m ∈ s.bucket line, ¬ w.Accepts codePrefix m) :
    Assigned codePrefix start (ws ++ [w]) (spots ++ [none]) s where
  length_eq := by simp [h.length_eq]
  accepts w' p hp := by
    rcases h.mem_zip_snoc.1 hp with hp | ⟨-, hp⟩
    · exact h.accepts w' p hp
    · cases hp
  injective p := by simpa using h.injective p
  lines_length := h.lines_length
  bucket_eq line := by
    rw [h.bucket_eq, keepAt_congr (stays_append_none spots line)]
  maximal w' hp line hl m hm := by
    rcases h.mem_zip_snoc.1 hp with hp | ⟨rfl, -⟩
    · exact h.maximal w' hp line hl m hm
    · exact hw line hl m hm

/-- What is left in the buckets when one more message is taken. -/
theorem bucket_take (h : Assigned codePrefix start ws spots s) {line : Option Nat}
    (hne : s.bucket line ≠ []) (i : Nat) (line' : Option Nat) :
    (s.setBucket line
        (keepAt (fun j => stays spots line j && j ≠ i) (start.bucket line))).bucket line' =
      keepAt (stays (spots ++ [some ⟨line, i⟩]) line') (start.bucket line') := by
  rw [bucket_setBucket hne]
  by_cases hline : line' = line
  · subst hline
    rw [if_pos rfl]
    exact keepAt_congr fun j => by simp [stays_append_some, eq_comm]
  · rw [if_neg hline, h.bucket_eq]
    exact keepAt_congr fun j => by simp [stays_append_some, Ne.symm hline]

/-- Taking the first message that an expectation accepts extends the assignment by its spot. -/
theorem snoc_some (h : Assigned codePrefix start ws spots s) {line : Option Nat}
    {rest : List Message} (hl : w.LooksAt line)
    (ht : takeFirst (w.test codePrefix) (s.bucket line) = .ok (some rest)) :
    ∃ p, Assigned codePrefix start (ws ++ [w]) (spots ++ [some p]) (s.setBucket line rest) := by
  have hne : s.bucket line ≠ [] := by
    intro he
    simp [he, takeFirst] at ht
  rw [h.bucket_eq line] at ht
  obtain ⟨i, m, hm, hi, htest, rfl⟩ := takeFirst_keepAt ht
  have hfresh : spots.count (some ⟨line, i⟩) = 0 := by
    rw [List.count_eq_zero]
    simpa [stays] using hi
  refine ⟨⟨line, i⟩, ?_, ?_, ?_, ?_, h.bucket_take hne i, ?_⟩
  · simp [h.length_eq]
  · intro w' p hp
    rcases h.mem_zip_snoc.1 hp with hp | ⟨rfl, hp'⟩
    · exact h.accepts w' p hp
    · obtain rfl := Option.some.inj hp'
      exact ⟨hl, m, hm, Wanted.test_eq_true_iff.1 htest⟩
  · intro p
    by_cases hp : p = ⟨line, i⟩
    · subst hp; simp [List.count_append, hfresh]
    · simpa [List.count_append, List.count_singleton, Ne.symm hp] using h.injective p
  · rw [setBucket_length, h.lines_length]
  · intro w' hp line' hl' m' hm'
    rcases h.mem_zip_snoc.1 hp with hp | ⟨-, hp⟩
    · refine h.maximal w' hp line' hl' m' ?_
      rw [h.bucket_take hne, mem_keepAt] at hm'
      obtain ⟨j, hj, hk⟩ := hm'
      rw [stays_append_some, Bool.and_eq_true] at hk
      rw [h.bucket_eq, mem_keepAt]
      exact ⟨j, hj, hk.1⟩
    · cases hp

/-- **A step.** It extends the assignment by one entry, and reports the expectation iff the entry is
empty. -/
theorem snoc (h : Assigned codePrefix start ws spots s)
    (hs : outcome (w.step codePrefix) s = (.ok (), t)) :
    ∃ o, Assigned codePrefix start (ws ++ [w]) (spots ++ [o]) t ∧
      t.errors = s.errors ++ (missing [w] [o]).map (Wanted.notFound codePrefix) := by
  rcases Wanted.step_cases hs with ⟨line, rest, hl, ht, rfl⟩ | ⟨hrefused, rfl⟩
  · obtain ⟨p, hp⟩ := h.snoc_some hl ht
    exact ⟨some p, hp, by simp⟩
  · have hrefuses : ∀ line, w.LooksAt line → ∀ m ∈ s.bucket line, ¬ w.Accepts codePrefix m := by
      intro line hl m hm ha
      have := hrefused line hl m hm
      rw [Wanted.test_eq_true_iff.2 ha] at this
      cases this
    exact ⟨none, (h.snoc_none hrefuses).withErrors _, by simp⟩

/-- A run extends the assignment by an entry for every expectation, and reports those whose entries
are empty, in order. -/
theorem append (h : Assigned codePrefix start ws spots s) {rest : List Wanted}
    (hr : outcome (rest.forM (Wanted.step codePrefix)) s = (.ok (), t)) :
    ∃ more, more.length = rest.length ∧
      Assigned codePrefix start (ws ++ rest) (spots ++ more) t ∧
      t.errors = s.errors ++ (missing rest more).map (Wanted.notFound codePrefix) := by
  induction rest generalizing ws spots s with
  | nil =>
    obtain rfl : s = t := by simpa [outcome_forM_nil] using hr
    exact ⟨[], rfl, by simpa using h, by simp⟩
  | cons w rest ih =>
    rw [outcome_forM_cons, outcome_bind_ok_iff] at hr
    obtain ⟨⟨⟩, u, hw, hrest⟩ := hr
    obtain ⟨o, hu, hue⟩ := h.snoc hw
    obtain ⟨more, hlen, hmore, hte⟩ := ih hu hrest
    refine ⟨o :: more, by simp [hlen], by simpa using hmore, ?_⟩
    rw [hte, hue]
    cases o <;> simp

/-- **A run.** It gives every expectation an entry, and reports those whose entries are empty. -/
theorem of_run (hr : outcome (ws.forM (Wanted.step codePrefix)) start = (.ok (), t)) :
    ∃ spots, Assigned codePrefix start ws spots t ∧
      t.errors = start.errors ++ (missing ws spots).map (Wanted.notFound codePrefix) := by
  obtain ⟨spots, -, h⟩ := (refl codePrefix start).append hr
  exact ⟨spots, h⟩

end Assigned

end Matching

end CompilerTest

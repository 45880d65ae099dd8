import CompilerTest.Proofs.Matching.ByLine
import CompilerTest.Proofs.Matching.Faults
import Mathlib.Algebra.BigOperators.Group.Finset.Piecewise
import Mathlib.Algebra.Order.BigOperators.Group.Finset

/-!
# Lines on which only codes are expected

A message has one code at most, so codes sort the messages of a line into classes that no two
expectations for different codes share. On a line on which only codes are expected it is therefore
best to take the first message each time. Main statement: such a check takes as many messages of a
code as are expected and there, the first ones, and no assignment of messages leaves fewer
expectations without one (`checkAnnotations_codes`).
-/

namespace CompilerTest

namespace Discrepancy

/-- Whether a discrepancy is about a code that is expected on the line `n` and that no message
has. -/
def isCodeMissingOn (n : Nat) : Discrepancy → Bool
  | codeNotFound _ (some line) => line.isLine n
  | _ => false

/-- Such a discrepancy is about an expectation for that line. -/
theorem isMissingOn_of_isCodeMissingOn {n : Nat} {d : Discrepancy}
    (h : d.isCodeMissingOn n = true) : d.isMissingOn n = true := by
  unfold isCodeMissingOn at h
  split at h
  · exact h
  · cases h

theorem isNotFound_of_isCodeMissingOn {n : Nat} {d : Discrepancy}
    (h : d.isCodeMissingOn n = true) : d.isNotFound = true := by
  unfold isCodeMissingOn at h
  split at h
  · rfl
  · cases h

end Discrepancy

/-- The code that is expected, if it is a code. -/
def Expectation.code? : Expectation → Option String
  | pattern _ _ => none
  | code c => some c.content

theorem keepAt_cons {α : Type} (keep : Nat → Bool) (a : α) (l : List α) :
    keepAt keep (a :: l) =
      if keep 0 then a :: keepAt (fun i => keep (i + 1)) l
      else keepAt (fun i => keep (i + 1)) l := by
  have hshift : ((l.zipIdx 1).filter fun x => keep x.2).map Prod.fst =
      keepAt (fun i => keep (i + 1)) l := by
    rw [keepAt, List.zipIdx_succ, List.filter_map, List.map_map]
    rfl
  rw [keepAt, List.zipIdx_cons, List.filter_cons]
  split
  · rw [List.map_cons, hshift]
  · exact hshift

namespace Matching

/-! ## Messages with a code -/

/-- Whether a message is an error with a code, where `codePrefix` is what codes begin with. -/
def hasCode (codePrefix code : String) (m : Message) : Bool :=
  m.level = .error && m.code = some (codePrefix ++ code)

variable {codePrefix code code' : String} {m : Message} {codes : List String}
  {bucket bucket' : List Message}

/-- A message has one code at most. -/
theorem hasCode_iff (h : hasCode codePrefix code m = true) :
    hasCode codePrefix code' m = true ↔ code' = code := by
  simp only [hasCode, Bool.and_eq_true, decide_eq_true_eq] at h ⊢
  rw [h.2, Option.some.injEq, String.append_right_inj]
  exact ⟨fun h' => h'.2.symm, fun h' => ⟨h.1, h'.symm⟩⟩

/-- The messages with a code after one of them has been taken out. -/
theorem countP_of_taken {before after : List Message} (h : hasCode codePrefix code m = true)
    (code' : String) :
    (before ++ m :: after).countP (hasCode codePrefix code') =
      (before ++ after).countP (hasCode codePrefix code') + if code' = code then 1 else 0 := by
  simp only [List.countP_append, List.countP_cons, hasCode_iff h]
  omega

/-- Looking for a code takes the first error that has it. -/
theorem takeFirst_code (c : Spanned String) (bucket : List Message) :
    takeFirst (satisfies codePrefix (.code c)) bucket =
      .ok (if bucket.any (hasCode codePrefix c.content) then
        some (bucket.eraseP (hasCode codePrefix c.content)) else none) := by
  induction bucket with
  | nil => rfl
  | cons m rest ih =>
    have htest : satisfies codePrefix (.code c) m = .ok (hasCode codePrefix c.content m) := rfl
    rw [takeFirst_cons, htest, List.any_cons, List.eraseP_cons, ih]
    cases hasCode codePrefix c.content m with
    | true => rfl
    | false => cases rest.any (hasCode codePrefix c.content) <;> rfl

/-! ## The first messages of each code -/

/-- A bucket without the first message of each of these codes, as often as the code is listed. -/
def withoutFirst (codePrefix : String) : List String → List Message → List Message
  | _, [] => []
  | codes, m :: rest =>
    match codes.find? (hasCode codePrefix · m) with
    | some code => withoutFirst codePrefix (codes.erase code) rest
    | none => m :: withoutFirst codePrefix codes rest

theorem withoutFirst_cons_of_mem (h : hasCode codePrefix code m = true) (hcode : code ∈ codes)
    (rest : List Message) :
    withoutFirst codePrefix codes (m :: rest) =
      withoutFirst codePrefix (codes.erase code) rest := by
  obtain ⟨found, hfound⟩ : ∃ found, codes.find? (hasCode codePrefix · m) = some found :=
    Option.isSome_iff_exists.1 (List.find?_isSome.2 ⟨code, hcode, h⟩)
  have hhas : hasCode codePrefix found m = true := by simpa using List.find?_some hfound
  obtain rfl : found = code := (hasCode_iff h).1 hhas
  rw [withoutFirst, hfound]

theorem withoutFirst_cons_of_none (h : ∀ code ∈ codes, hasCode codePrefix code m = false)
    (rest : List Message) :
    withoutFirst codePrefix codes (m :: rest) = m :: withoutFirst codePrefix codes rest := by
  rw [withoutFirst, List.find?_eq_none.2 fun code hcode => by simp [h code hcode]]

@[simp] theorem withoutFirst_nil (codePrefix : String) (bucket : List Message) :
    withoutFirst codePrefix [] bucket = bucket := by
  induction bucket with
  | nil => rfl
  | cons m rest ih => rw [withoutFirst_cons_of_none (by simp), ih]

/-- The order of the codes does not matter: the first of them may be served first. -/
theorem withoutFirst_eraseP (code : String) (codes : List String) (bucket : List Message) :
    withoutFirst codePrefix codes (bucket.eraseP (hasCode codePrefix code)) =
      withoutFirst codePrefix (code :: codes) bucket := by
  induction bucket generalizing codes with
  | nil => rfl
  | cons m rest ih =>
    by_cases hm : hasCode codePrefix code m = true
    · rw [List.eraseP_cons_of_pos hm, withoutFirst_cons_of_mem hm List.mem_cons_self,
        List.erase_cons_head]
    rw [List.eraseP_cons_of_neg hm]
    by_cases hother : ∃ code' ∈ codes, hasCode codePrefix code' m = true
    · obtain ⟨code', hmem, hcode'⟩ := hother
      have hne : code ≠ code' := fun heq => hm (heq ▸ hcode')
      rw [withoutFirst_cons_of_mem hcode' hmem, ih,
        withoutFirst_cons_of_mem hcode' (List.mem_cons_of_mem _ hmem),
        List.erase_cons_tail (by simpa using hne)]
    · have hnone : ∀ code' ∈ codes, hasCode codePrefix code' m = false := by simpa using hother
      rw [withoutFirst_cons_of_none hnone, withoutFirst_cons_of_none, ih]
      rintro code' (_ | ⟨_, hmem⟩)
      · simpa using hm
      · exact hnone code' hmem

/-- Whether the message at a position is among the first of its code, as many of them as are both
expected and there. -/
def isServed (codePrefix : String) (codes : List String) (bucket : List Message) (i : Nat) : Bool :=
  codes.any fun code => bucket[i]?.any (hasCode codePrefix code) &&
    (bucket.take i).countP (hasCode codePrefix code) <
      min (codes.count code) (bucket.countP (hasCode codePrefix code))

theorem isServed_iff {i : Nat} : isServed codePrefix codes bucket i = true ↔
    ∃ m code, bucket[i]? = some m ∧ hasCode codePrefix code m = true ∧
      (bucket.take i).countP (hasCode codePrefix code) < codes.count code := by
  simp only [isServed, List.any_eq_true, Bool.and_eq_true, decide_eq_true_eq, Option.any_eq_true,
    lt_min_iff]
  constructor
  · rintro ⟨code, -, ⟨m, hm, hcode⟩, hlt, -⟩
    exact ⟨m, code, hm, hcode, hlt⟩
  · rintro ⟨m, code, hm, hcode, hlt⟩
    refine ⟨code, List.count_pos_iff.1 (by omega), ⟨m, hm, hcode⟩, hlt, ?_⟩
    -- the message itself is one more than those before it
    obtain ⟨hi, rfl⟩ := List.getElem?_eq_some_iff.1 hm
    calc (bucket.take i).countP (hasCode codePrefix code)
        < (bucket.take (i + 1)).countP (hasCode codePrefix code) := by
          rw [List.take_succ_eq_append_getElem hi, List.countP_append]
          simp [hcode]
      _ ≤ bucket.countP (hasCode codePrefix code) := (List.take_sublist _ _).countP_le

/-- What is left are the messages at all other positions. -/
theorem withoutFirst_eq_keepAt (codes : List String) (bucket : List Message) :
    withoutFirst codePrefix codes bucket =
      keepAt (fun i => !isServed codePrefix codes bucket i) bucket := by
  induction bucket generalizing codes with
  | nil => rfl
  | cons m rest ih =>
    rw [keepAt_cons]
    by_cases hm : ∃ code ∈ codes, hasCode codePrefix code m = true
    · obtain ⟨code, hmem, hcode⟩ := hm
      have hzero : isServed codePrefix codes (m :: rest) 0 = true :=
        isServed_iff.2 ⟨m, code, rfl, hcode, by simpa using hmem⟩
      have hsucc : ∀ i, isServed codePrefix codes (m :: rest) (i + 1) =
          isServed codePrefix (codes.erase code) rest i := by
        intro i
        rw [Bool.eq_iff_iff, isServed_iff, isServed_iff]
        refine exists_congr fun m' => exists_congr fun code' => and_congr_right fun _ =>
          and_congr_right fun _ => ?_
        rw [List.take_succ_cons, List.countP_cons, List.count_erase]
        simp only [hasCode_iff hcode, beq_iff_eq, eq_comm (a := code)]
        split <;> omega
      rw [withoutFirst_cons_of_mem hcode hmem, ih, if_neg (by simp [hzero])]
      exact keepAt_congr fun i => by rw [hsucc]
    · have hnone : ∀ code ∈ codes, hasCode codePrefix code m = false := by simpa using hm
      have hzero : isServed codePrefix codes (m :: rest) 0 = false := by
        rw [Bool.eq_false_iff]
        intro hserved
        obtain ⟨m', code, hm', hcode, hlt⟩ := isServed_iff.1 hserved
        obtain rfl := Option.some.inj hm'
        simp [hnone code (List.count_pos_iff.1 (by omega))] at hcode
      have hsucc : ∀ i, isServed codePrefix codes (m :: rest) (i + 1) =
          isServed codePrefix codes rest i := by
        intro i
        rw [Bool.eq_iff_iff, isServed_iff, isServed_iff]
        refine exists_congr fun m' => exists_congr fun code => and_congr_right fun _ =>
          and_congr_right fun _ => ?_
        rw [List.take_succ_cons, List.countP_cons]
        by_cases hmem : code ∈ codes
        · simp [hnone code hmem]
        · simp [List.count_eq_zero.2 hmem]
      rw [withoutFirst_cons_of_none hnone, ih, if_pos (by simp [hzero])]
      exact congrArg _ (keepAt_congr fun i => by rw [hsucc])

/-! ## Expectations that go without a message -/

/-- How many more messages are expected than there are, over the codes of a set. -/
def shortfall (codePrefix : String) (codes : List String) (bucket : List Message)
    (among : Finset String) : Nat :=
  ∑ code ∈ among, (codes.count code - bucket.countP (hasCode codePrefix code))

section Shortfall

variable {among : Finset String}

/-- Who gets a message is one expectation less, with one message less. -/
theorem shortfall_cons_taken (h : ∀ code', bucket.countP (hasCode codePrefix code') =
      bucket'.countP (hasCode codePrefix code') + if code' = code then 1 else 0) :
    shortfall codePrefix (code :: codes) bucket among =
      shortfall codePrefix codes bucket' among := by
  refine Finset.sum_congr rfl fun code' _ => ?_
  rw [h, List.count_cons]
  simp only [beq_iff_eq, eq_comm (a := code)]
  split <;> omega

/-- One more expectation adds one at most. -/
theorem shortfall_cons_le (code : String) (codes : List String) (bucket : List Message)
    (among : Finset String) :
    shortfall codePrefix (code :: codes) bucket among ≤
      shortfall codePrefix codes bucket among + 1 := by
  calc shortfall codePrefix (code :: codes) bucket among
      ≤ ∑ code' ∈ among, ((codes.count code' - bucket.countP (hasCode codePrefix code')) +
          if code' = code then 1 else 0) := by
        refine Finset.sum_le_sum fun code' _ => ?_
        rw [List.count_cons]
        simp only [beq_iff_eq, eq_comm (a := code)]
        split <;> omega
    _ = shortfall codePrefix codes bucket among + if code ∈ among then 1 else 0 := by
        rw [Finset.sum_add_distrib, Finset.sum_ite_eq', shortfall]
    _ ≤ shortfall codePrefix codes bucket among + 1 := by
        split <;> omega

/-- It adds one if no message has its code. -/
theorem shortfall_cons_missing (hcode : code ∈ among)
    (h : bucket.countP (hasCode codePrefix code) = 0) :
    shortfall codePrefix (code :: codes) bucket among =
      shortfall codePrefix codes bucket among + 1 := by
  calc shortfall codePrefix (code :: codes) bucket among
      = ∑ code' ∈ among, ((codes.count code' - bucket.countP (hasCode codePrefix code')) +
          if code' = code then 1 else 0) := by
        refine Finset.sum_congr rfl fun code' _ => ?_
        rw [List.count_cons]
        by_cases heq : code' = code
        · subst heq
          simp [h]
        · simp [heq, Ne.symm heq]
    _ = shortfall codePrefix codes bucket among + 1 := by
        rw [Finset.sum_add_distrib, Finset.sum_ite_eq', if_pos hcode, shortfall]

end Shortfall

/-- Serving codes takes the first messages of each and reports what is missing. -/
theorem serve_codes {ms : List ErrorMatch} (among : Finset String)
    (h : ∀ m ∈ ms, ∃ c ∈ among, m.kind.code? = some c) (bucket : List Message) :
    ∃ missing, serve codePrefix ms bucket =
        .ok (withoutFirst codePrefix (ms.filterMap (·.kind.code?)) bucket, missing) ∧
      missing.length = shortfall codePrefix (ms.filterMap (·.kind.code?)) bucket among ∧
      ∀ d ∈ missing, ∃ c line, d = .codeNotFound c (some line) := by
  induction ms generalizing bucket with
  | nil => exact ⟨[], by simp, by simp [shortfall], by simp⟩
  | cons m ms ih =>
    have hms : ∀ m ∈ ms, ∃ c ∈ among, m.kind.code? = some c :=
      fun m' hm' => h m' (List.mem_cons_of_mem _ hm')
    obtain ⟨code, hcode, hm⟩ := h m List.mem_cons_self
    obtain ⟨kind, line⟩ := m
    cases kind with
    | pattern p level => cases hm
    | code c =>
      obtain rfl := Option.some.inj hm
      have hcons : (⟨.code c, line⟩ :: ms : List ErrorMatch).filterMap (·.kind.code?) =
          c.content :: ms.filterMap (·.kind.code?) := rfl
      rw [serve, takeFirst_code, hcons]
      by_cases hany : bucket.any (hasCode codePrefix c.content) = true
      · -- the expectation takes the first message with its code
        obtain ⟨m', hm', hhas⟩ := List.any_eq_true.1 hany
        obtain ⟨m', before, after, -, hhas, hbucket, herase⟩ := List.exists_of_eraseP hm' hhas
        obtain ⟨missing, hserve, hlength, hkind⟩ :=
          ih hms (bucket.eraseP (hasCode codePrefix c.content))
        refine ⟨missing, ?_, ?_, hkind⟩
        · rw [if_pos hany]
          dsimp only
          rw [hserve, withoutFirst_eraseP]
        · rw [hlength]
          refine (shortfall_cons_taken fun code' => ?_).symm
          rw [herase, hbucket, countP_of_taken hhas]
      · have hnone : ∀ m ∈ bucket, ¬ hasCode codePrefix c.content m = true := by
          simpa using hany
        obtain ⟨missing, hserve, hlength, hkind⟩ := ih hms bucket
        refine ⟨unsatisfied codePrefix ⟨.code c, line⟩ :: missing, ?_, ?_, ?_⟩
        · rw [if_neg hany]
          dsimp only
          rw [hserve, ← withoutFirst_eraseP, List.eraseP_of_forall_not hnone]
          rfl
        · rw [List.length_cons, hlength, shortfall_cons_missing hcode]
          exact List.countP_eq_zero.2 hnone
        · rintro d (_ | ⟨_, hd⟩)
          · exact ⟨_, _, rfl⟩
          · exact hkind d hd

/-! ## Assignments of messages to codes -/

/-- Some of the expected codes have been given messages of a bucket. `spots` has, for each of them,
where its message stands, or nothing if it has none. -/
structure IsAssignment (codePrefix : String) (bucket : List Message) (codes : List String)
    (spots : List (Option Nat)) : Prop where
  /-- Every code has its entry. -/
  length_eq : spots.length = codes.length
  /-- A message that is assigned has the code. -/
  accepts : ∀ code i, (code, some i) ∈ codes.zip spots →
    ∃ m, bucket[i]? = some m ∧ hasCode codePrefix code m = true
  /-- No message is assigned twice. -/
  injective : ∀ i, spots.count (some i) ≤ 1

/-- A message without a code. It takes the place of one that has been assigned, so that the others
keep their positions. -/
def blank : Message := { level := .error, text := "" }

theorem hasCode_blank (codePrefix code : String) : hasCode codePrefix code blank = false := by
  simp [hasCode, blank]

/-- The messages with a code after one of them has made place. -/
theorem countP_set_blank {i : Nat} (hi : bucket[i]? = some m)
    (h : hasCode codePrefix code m = true) (code' : String) :
    bucket.countP (hasCode codePrefix code') =
      (bucket.set i blank).countP (hasCode codePrefix code') + if code' = code then 1 else 0 := by
  obtain ⟨hlt, rfl⟩ := List.getElem?_eq_some_iff.1 hi
  rw [List.countP_set hlt, hasCode_blank, if_neg Bool.false_ne_true, Nat.add_zero]
  simp only [hasCode_iff h]
  split
  · rename_i heq
    have hpos : 0 < bucket.countP (hasCode codePrefix code') :=
      List.countP_pos_iff.2 ⟨_, List.getElem_mem hlt, heq ▸ h⟩
    omega
  · omega

namespace IsAssignment

variable {spots : List (Option Nat)} {spot : Option Nat} {i : Nat}

theorem nil (codePrefix : String) (bucket : List Message) :
    IsAssignment codePrefix bucket [] [] where
  length_eq := rfl
  accepts := by simp
  injective := by simp

theorem tail (h : IsAssignment codePrefix bucket (code :: codes) (spot :: spots)) :
    IsAssignment codePrefix bucket codes spots where
  length_eq := by simpa using h.length_eq
  accepts code' j hj := h.accepts code' j (List.mem_cons_of_mem _ hj)
  injective j := (List.count_le_count_cons).trans (h.injective j)

/-- The code of an assigned message. -/
theorem exists_code (h : IsAssignment codePrefix bucket codes spots) (hi : some i ∈ spots) :
    ∃ code, (code, some i) ∈ codes.zip spots := by
  obtain ⟨k, hk, hspot⟩ := List.getElem_of_mem hi
  have hcode : k < codes.length := h.length_eq ▸ hk
  refine ⟨codes[k], List.mem_iff_getElem.2 ⟨k, ?_, ?_⟩⟩
  · rw [List.length_zip, ← h.length_eq]
    omega
  · rw [List.getElem_zip, hspot]

/-- Messages may be assigned again once another message has made place for a blank one. -/
theorem set_blank (h : IsAssignment codePrefix bucket codes spots) (hi : some i ∉ spots) :
    IsAssignment codePrefix (bucket.set i blank) codes spots where
  length_eq := h.length_eq
  accepts code j hj := by
    have hne : i ≠ j := fun heq => hi (heq ▸ (List.of_mem_zip hj).2)
    rw [List.getElem?_set_ne hne]
    exact h.accepts code j hj
  injective := h.injective

/-- A blank message is never assigned. -/
theorem not_mem_of_set_blank (h : IsAssignment codePrefix (bucket.set i blank) codes spots)
    (hlt : i < bucket.length) : some i ∉ spots := by
  intro hi
  obtain ⟨code, hcode⟩ := h.exists_code hi
  obtain ⟨m, hm, hhas⟩ := h.accepts code i hcode
  rw [List.getElem?_set_self hlt] at hm
  obtain rfl := Option.some.inj hm
  rw [hasCode_blank] at hhas
  cases hhas

theorem of_set_blank (h : IsAssignment codePrefix (bucket.set i blank) codes spots)
    (hlt : i < bucket.length) : IsAssignment codePrefix bucket codes spots where
  length_eq := h.length_eq
  accepts code j hj := by
    have hne : i ≠ j := fun heq => h.not_mem_of_set_blank hlt (heq ▸ (List.of_mem_zip hj).2)
    have hj' := h.accepts code j hj
    rwa [List.getElem?_set_ne hne] at hj'
  injective := h.injective

/-- One more code that goes without a message. -/
theorem cons_none (h : IsAssignment codePrefix bucket codes spots) (code : String) :
    IsAssignment codePrefix bucket (code :: codes) (none :: spots) where
  length_eq := by simp [h.length_eq]
  accepts code' j hj := by
    rcases List.mem_cons.1 hj with hj | hj
    · cases hj
    · exact h.accepts code' j hj
  injective j := by simpa [List.count_cons] using h.injective j

/-- One more code, with a message that has not been assigned. -/
theorem cons_some (h : IsAssignment codePrefix bucket codes spots) (hi : some i ∉ spots)
    (hm : bucket[i]? = some m) (hcode : hasCode codePrefix code m = true) :
    IsAssignment codePrefix bucket (code :: codes) (some i :: spots) where
  length_eq := by simp [h.length_eq]
  accepts code' j hj := by
    rcases List.mem_cons.1 hj with hj | hj
    · cases hj
      exact ⟨m, hm, hcode⟩
    · exact h.accepts code' j hj
  injective j := by
    by_cases hj : i = j
    · subst hj
      simp [List.count_eq_zero.2 hi]
    · simpa [List.count_cons, hj] using h.injective j

end IsAssignment

section Optimal

variable {among : Finset String}

/-- No assignment leaves fewer codes without a message. -/
theorem shortfall_le {spots : List (Option Nat)}
    (h : IsAssignment codePrefix bucket codes spots) :
    shortfall codePrefix codes bucket among ≤ spots.count none := by
  induction codes generalizing bucket spots with
  | nil => simp [shortfall]
  | cons code codes ih =>
    obtain _ | ⟨spot, spots⟩ := spots
    · simpa using h.length_eq
    cases spot with
    | none =>
      calc shortfall codePrefix (code :: codes) bucket among
          ≤ shortfall codePrefix codes bucket among + 1 := shortfall_cons_le code codes bucket among
        _ ≤ (none :: spots).count none := by
          rw [List.count_cons_self]
          exact Nat.add_le_add_right (ih h.tail) 1
    | some i =>
      obtain ⟨m, hm, hcode⟩ := h.accepts code i List.mem_cons_self
      have hi : some i ∉ spots := by
        have hone := h.injective i
        rw [List.count_cons_self] at hone
        exact List.count_eq_zero.1 (by omega)
      calc shortfall codePrefix (code :: codes) bucket among
          = shortfall codePrefix codes (bucket.set i blank) among :=
            shortfall_cons_taken (countP_set_blank hm hcode)
        _ ≤ spots.count none := ih (h.tail.set_blank hi)
        _ = (some i :: spots).count none := by simp

/-- An assignment that leaves as few codes without a message as possible. -/
theorem exists_assignment (h : ∀ code ∈ codes, code ∈ among) (bucket : List Message) :
    ∃ spots, IsAssignment codePrefix bucket codes spots ∧
      spots.count none = shortfall codePrefix codes bucket among := by
  induction codes generalizing bucket with
  | nil => exact ⟨[], .nil codePrefix bucket, by simp [shortfall]⟩
  | cons code codes ih =>
    have hcodes : ∀ code ∈ codes, code ∈ among := fun c hc => h c (List.mem_cons_of_mem _ hc)
    by_cases hany : ∃ m ∈ bucket, hasCode codePrefix code m = true
    · obtain ⟨m, hm, hcode⟩ := hany
      obtain ⟨i, hi⟩ := List.mem_iff_getElem?.1 hm
      obtain ⟨hlt, -⟩ := List.getElem?_eq_some_iff.1 hi
      obtain ⟨spots, hspots, hcount⟩ := ih hcodes (bucket.set i blank)
      refine ⟨some i :: spots, ?_, ?_⟩
      · exact (hspots.of_set_blank hlt).cons_some (hspots.not_mem_of_set_blank hlt) hi hcode
      · rw [shortfall_cons_taken (countP_set_blank hi hcode), ← hcount]
        simp
    · have hnone : bucket.countP (hasCode codePrefix code) = 0 := by
        rw [List.countP_eq_zero]
        exact fun m hm hcode => hany ⟨m, hm, hcode⟩
      obtain ⟨spots, hspots, hcount⟩ := ih hcodes bucket
      refine ⟨none :: spots, hspots.cons_none code, ?_⟩
      rw [List.count_cons_self, hcount, shortfall_cons_missing (h code List.mem_cons_self) hnone]

/-- **The shortfall is the least number of codes that go without a message.** -/
theorem isLeast_shortfall (codePrefix : String) (codes : List String) (bucket : List Message) :
    IsLeast {k | ∃ spots, IsAssignment codePrefix bucket codes spots ∧ spots.count none = k}
      (shortfall codePrefix codes bucket codes.toFinset) := by
  constructor
  · exact exists_assignment (fun code hcode => List.mem_toFinset.2 hcode) bucket
  · rintro k ⟨spots, hspots, rfl⟩
    exact shortfall_le hspots

end Optimal

end Matching

namespace Case

open Matching

/-- The codes that are expected on the line `n`, as often as they are expected. -/
def codesFor (c : Case) (n : Nat) : List String :=
  (c.errorMatches.filter (·.isFor n)).filterMap (·.kind.code?)

/-- **For codes it is best to take the first message.** Let only codes be expected on a line. A
check that concludes has taken from that line the first messages of each code, as many as are both
expected and there, and has left the others in order. It has reported as many missing codes as are
expected beyond that, and no assignment of messages to the expected codes has fewer. -/
theorem checkAnnotations_codes {c : Case} {codePrefix : String} {start final : Matching}
    {result : Except Fault Unit} {n : Nat}
    (hrun : outcome c.checkAnnotations start = (result, final)) (hresult : Concludes result)
    (hp : c.codePrefix = .ok codePrefix)
    (hcodes : ∀ m ∈ c.errorMatches, m.isFor n = true → ∃ code, m.kind = .code code) :
    final.bucket (some n) = keepAt
        (fun i => !isServed codePrefix (c.codesFor n) (start.bucket (some n)) i)
        (start.bucket (some n)) ∧
      ∃ es, final.errors = start.errors ++ es ∧
        es.countP (·.isCodeMissingOn n) = ∑ code ∈ (c.codesFor n).toFinset,
          ((c.codesFor n).count code -
            (start.bucket (some n)).countP (hasCode codePrefix code)) ∧
        IsLeast {k | ∃ spots, IsAssignment codePrefix (start.bucket (some n)) (c.codesFor n) spots ∧
          spots.count none = k} (es.countP (·.isCodeMissingOn n)) := by
  obtain ⟨s, t, hs, ht, hfinish⟩ := handled_of_concludes hp hrun hresult
  obtain ⟨hlines, es, herrors, hes⟩ := run_matchOther hs
  obtain ⟨fs, hserved⟩ := Served.of_run ht
  obtain ⟨gs, hfinal, hgs⟩ := c.finish_adds t
  obtain rfl : final = { t with errors := t.errors ++ gs } := by rwa [hfinish] at hfinal
  have hbucket : s.bucket (some n) = start.bucket (some n) := by
    rw [bucket_some, bucket_some, hlines]
  -- only codes are served on the line
  have honly : ∀ m ∈ c.errorMatches.filter (·.isFor n),
      ∃ code ∈ (c.codesFor n).toFinset, m.kind.code? = some code := by
    intro m hm
    obtain ⟨code, hcode⟩ := hcodes m (List.mem_filter.1 hm).1 (List.mem_filter.1 hm).2
    have hcode' : m.kind.code? = some code.content := by rw [hcode]; rfl
    exact ⟨code.content, List.mem_toFinset.2 (List.mem_filterMap.2 ⟨m, hm, hcode'⟩), hcode'⟩
  obtain ⟨missing, hserve, hlength, hkind⟩ := serve_codes _ honly (start.bucket (some n))
  have hline := hserved.line_eq n
  rw [hbucket, hserve] at hline
  obtain ⟨hleft, rfl⟩ := Prod.mk.inj (Except.ok.inj hline)
  -- what is missing on the line are codes
  have hcount : (es ++ fs ++ gs).countP (·.isCodeMissingOn n) =
      (fs.filter (·.isMissingOn n)).length := by
    have hes₀ : es.countP (·.isCodeMissingOn n) = 0 := by
      rw [List.countP_eq_zero]
      intro d hd h
      obtain ⟨p, rfl⟩ := hes d hd
      cases h
    have hgs₀ : gs.countP (·.isCodeMissingOn n) = 0 := by
      rw [List.countP_eq_zero]
      intro d hd h
      have hnot := hgs d hd
      rw [Discrepancy.isNotFound_of_isCodeMissingOn h] at hnot
      cases hnot
    rw [List.countP_append, List.countP_append, hes₀, hgs₀, Nat.zero_add, Nat.add_zero,
      ← List.countP_eq_length_filter]
    refine List.countP_congr fun d hd => ⟨Discrepancy.isMissingOn_of_isCodeMissingOn, fun h => ?_⟩
    obtain ⟨code, line, rfl⟩ := hkind d (List.mem_filter.2 ⟨hd, h⟩)
    exact h
  refine ⟨?_, es ++ fs ++ gs, ?_, ?_, ?_⟩
  · rw [bucket_errors, ← hleft]
    exact withoutFirst_eq_keepAt (c.codesFor n) _
  · show t.errors ++ gs = _
    rw [hserved.errors_eq, herrors]
    simp only [List.append_assoc]
  · rw [hcount, hlength]
    rfl
  · rw [hcount, hlength]
    exact isLeast_shortfall codePrefix (c.codesFor n) _

/-! ## A test that expects codes -/

/-- A test that expects two codes on line 2, each of them twice, and a text on line 3. -/
def coded : Case where
  config := default
  revision := ""
  directives := { sets := [
    { errorMatches := ["0308", "0412", "0308", "0412"].map fun code => ⟨.code ⟨code, {}⟩, .int 2⟩
      codePrefix := some ⟨"E", {}⟩ },
    { errorMatches := [⟨.pattern ⟨{ text := "unused" }, {}⟩ .error, .int 3⟩] }] }
  path := ⟨.relative, ["ui", "coded.rs"]⟩
  auxDir := ⟨.relative, ["ui", "auxiliary"]⟩

/-- Messages of which three on line 2 have the one code and one has the other. -/
def codedMessages : Diagnostics where
  lines := [[], [], [⟨.warning, "first", some "E0308"⟩, ⟨.error, "second", some "E0308"⟩,
    ⟨.error, "third", none⟩, ⟨.error, "fourth", some "E0412"⟩, ⟨.error, "fifth", some "0308"⟩,
    ⟨.error, "sixth", some "E0308"⟩, ⟨.error, "seventh", some "E0308"⟩]]

/-- What is left of the messages, and what is reported. -/
def codedOutcome : Matching where
  lines := [[], [], [⟨.warning, "first", some "E0308"⟩, ⟨.error, "third", none⟩,
    ⟨.error, "fifth", some "0308"⟩, ⟨.error, "seventh", some "E0308"⟩]]
  unknown := []
  errors := [
    .codeNotFound ⟨"E0412", {}⟩ (some (.int 2)),
    .patternNotFound ⟨{ text := "unused" }, {}⟩ (some (.int 3)),
    .unexpectedMessages [⟨.error, "third", none⟩, ⟨.error, "fifth", some "0308"⟩,
      ⟨.error, "seventh", some "E0308"⟩]
      (some ⟨coded.path, ⟨some coded.path, some (.int 2)⟩⟩)]

theorem coded_codes :
    outcome coded.checkAnnotations (.ofDiagnostics codedMessages) = (.ok (), codedOutcome) ∧
      Concludes (.ok ()) ∧ coded.codePrefix = .ok "E" ∧
      (∀ m ∈ coded.errorMatches, m.isFor 2 = true → ∃ code, m.kind = .code code) ∧
      codedOutcome.bucket (some 2) = keepAt
        (fun i => !isServed "E" (coded.codesFor 2) (codedMessages.lines.getD 2 []) i)
        (codedMessages.lines.getD 2 []) ∧
      ∃ es, codedOutcome.errors = [] ++ es ∧
        es.countP (·.isCodeMissingOn 2) = ∑ code ∈ (coded.codesFor 2).toFinset,
          ((coded.codesFor 2).count code -
            (codedMessages.lines.getD 2 []).countP (hasCode "E" code)) ∧
        IsLeast {k | ∃ spots, IsAssignment "E" (codedMessages.lines.getD 2 []) (coded.codesFor 2)
          spots ∧ spots.count none = k} (es.countP (·.isCodeMissingOn 2)) := by
  have hrun : outcome coded.checkAnnotations (.ofDiagnostics codedMessages) =
      (.ok (), codedOutcome) := rfl
  have hcodes : ∀ m ∈ coded.errorMatches, m.isFor 2 = true → ∃ code, m.kind = .code code := by
    intro m hm hline
    rcases List.mem_append.1 hm with hm | hm
    · obtain ⟨code, -, rfl⟩ := List.mem_map.1 hm
      exact ⟨_, rfl⟩
    · obtain rfl := List.mem_singleton.1 hm
      cases hline
  exact ⟨hrun, .passed (), rfl, hcodes, checkAnnotations_codes hrun (.passed ()) rfl hcodes⟩

end Case

end CompilerTest

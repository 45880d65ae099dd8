import CompilerTest.Proofs.Builds.Ownership

/-!
# A build is completed once

However requests come between each other, one build of a key runs at a time, no build of it is
started after one that was not interrupted, and all requests for the key get what this one build has
ended with (`Runs.builtOnce`). A request that has not ended can go on, or it waits for a promise
whose owner can (`Runs.progress`).
-/

namespace CompilerTest

namespace Sharing

variable {ι : Type} {what : ι → Run.Build} {l : List (Event ι)} {t t' : Traffic ι} {a e : Event ι}
  {i j : ι} {n : Nat} {k : BuildKey} {o o' : BuildOutcome}

/-! ## Events of a key -/

namespace Action

/-- Whether a build is started. -/
def isStart : Action → Bool
  | start => true
  | _ => false

/-- Whether a build ends without being interrupted. -/
def isFinish : Action → Bool
  | finish _ => true
  | _ => false

/-- Whether a build is interrupted. -/
def isInterrupt : Action → Bool
  | interrupt => true
  | _ => false

end Action

/-- The number of events of a kind for a key. -/
def count (what : ι → Run.Build) (kind : Action → Bool) (k : BuildKey) (l : List (Event ι)) : Nat :=
  l.countP fun e => kind e.action && (what e.who).key = k

/-- Whether an event does not start or finish a build again that an event before has finished. -/
def NotAgain (what : ι → Run.Build) (a e : Event ι) : Prop :=
  a.action.isFinish → (what a.who).key = (what e.who).key →
    e.action.isStart = false ∧ e.action.isFinish = false

theorem count_le_snoc (what : ι → Run.Build) (kind : Action → Bool) (k : BuildKey)
    (l : List (Event ι)) (e : Event ι) : count what kind k l ≤ count what kind k (l ++ [e]) := by
  rw [count, count, List.countP_append]
  exact Nat.le_add_right ..

theorem count_snoc_of_ne {kind : Action → Bool} (h : (what e.who).key ≠ k) :
    count what kind k (l ++ [e]) = count what kind k l := by
  simp [count, h]

theorem count_snoc_of_kind {kind : Action → Bool} (h : kind e.action = false) :
    count what kind k (l ++ [e]) = count what kind k l := by
  simp [count, h]

theorem count_snoc_self {kind : Action → Bool} (h : kind e.action = true)
    (hk : (what e.who).key = k) : count what kind k (l ++ [e]) = count what kind k l + 1 := by
  simp [count, h, hk]

/-- A kind of events that excludes itself later happens at most once. -/
theorem count_finish_le_one (h : l.Pairwise (NotAgain what)) :
    count what Action.isFinish k l ≤ 1 := by
  induction l with
  | nil => exact Nat.zero_le 1
  | cons a l ih =>
    obtain ⟨ha, hl⟩ := List.pairwise_cons.1 h
    rw [count, List.countP_cons]
    split
    next hfinish =>
      simp only [Bool.and_eq_true, decide_eq_true_eq] at hfinish
      have hzero : count what Action.isFinish k l = 0 := by
        rw [count, List.countP_eq_zero]
        intro e he hcount
        simp only [Bool.and_eq_true, decide_eq_true_eq] at hcount
        have hnot := (ha e he hfinish.1 (hfinish.2.trans hcount.2.symm)).2
        rw [hcount.1] at hnot
        cases hnot
      rw [count] at hzero
      omega
    next => exact ih hl

/-! ## No second build -/

namespace Sound

/-- The promise of a finished build stands for its key. -/
theorem slot?_of_finished (h : Sound what l t) (hi : ⟨i, .finish o⟩ ∈ l) :
    ∃ n, t.builds.slot? (what i).key = some n ∧ (t.phase i = .settling n o ∨
      (starters l)[n]? = some i ∧ t.builds.promise? n = some (.settled o)) := by
  obtain ⟨n, hphase | ⟨hn, hp⟩⟩ := h.finished hi
  · exact ⟨n, h.held (by rw [hphase]; rfl), .inl hphase⟩
  · obtain ⟨m, hm, hk, -, -⟩ := h.settled hp
    cases hn.symm.trans hm
    exact ⟨n, hk, .inr ⟨hn, hp⟩⟩

/-- Two requests that hold promises for the same key are one. -/
theorem eq_of_held {m : Nat} (h : Sound what l t) (hi : (t.phase i).held? = some n)
    (hj : (t.phase j).held? = some m) (hk : (what i).key = (what j).key) : i = j := by
  have hn := h.held hi
  rw [hk, h.held hj] at hn
  cases hn
  exact h.owner_unique (owned?_of_held? hi) (owned?_of_held? hj)

/-- No build is run for a key once a build for it has finished. -/
theorem not_building_of_finished (h : Sound what l t) (hj : ⟨j, .finish o⟩ ∈ l)
    (hk : (what j).key = (what i).key) : t.phase i ≠ .building n := by
  intro hi
  have hheld : (t.phase i).held? = some n := by rw [hi]; rfl
  obtain ⟨m, hm, hphase | ⟨-, hp⟩⟩ := h.slot?_of_finished hj
  · have hij := h.eq_of_held hheld (show (t.phase j).held? = some m by rw [hphase]; rfl) hk.symm
    rw [← hij, hi] at hphase
    cases hphase
  · rw [hk, h.held hheld] at hm
    cases hm
    rw [h.owned (owned?_of_held? hheld)] at hp
    cases hp

/-- What a request gets is what the finished build for its key has ended with. -/
theorem answer_eq (h : Sound what l t) (hi : ⟨i, .finish o⟩ ∈ l)
    (hk : (what j).key = (what i).key) (hj : t.phase j = .answered o') :
    j = i ∧ o' = o ∨ j ≠ i ∧ o' = Builds.reused (what j).description o := by
  obtain ⟨n, m, o'', hm, hp, hmk, hanswer⟩ := h.answered hj
  obtain ⟨m', hm', hslot', -, -⟩ := h.settled hp
  cases hm.symm.trans hm'
  -- the promise of the answer and that of the finished build stand in one slot, so they are one
  obtain ⟨n', hslot, hphase | ⟨hn, hp'⟩⟩ := h.slot?_of_finished hi
  · rw [← hk, ← hmk, hslot'] at hslot
    cases hslot
    rw [h.owned (show (t.phase i).owned? = some n by rw [hphase]; rfl)] at hp
    cases hp
  · rw [← hk, ← hmk, hslot'] at hslot
    cases hslot
    cases hn.symm.trans hm
    cases hp.symm.trans hp'
    exact hanswer

/-- The promise for the key of a request that has got arguments is settled with them, and a build of
the key has ended with them. -/
theorem settled_of_args {args : List String} (h : Sound what l t)
    (hj : t.phase j = .answered (.ok args)) :
    ∃ n i, t.builds.slot? (what j).key = some n ∧
      t.builds.promise? n = some (.settled (.ok args)) ∧
      (what i).key = (what j).key ∧ ⟨i, .finish (.ok args)⟩ ∈ l := by
  obtain ⟨n, i, o, hi, hp, hk, hanswer⟩ := h.answered hj
  obtain ⟨i', hi', hslot, -, hmem⟩ := h.settled hp
  cases hi.symm.trans hi'
  have ho : o = .ok args := by
    rcases hanswer with ⟨-, ho⟩ | ⟨-, ho⟩
    · exact ho.symm
    · exact Builds.reused_eq_ok_iff.1 ho.symm
  rw [ho] at hp hmem
  exact ⟨n, i, hk ▸ hslot, hp, hk, hmem⟩

/-- Arguments come from a build that has ended with them. -/
theorem finish_of_args {args : List String} (h : Sound what l t)
    (hj : t.phase j = .answered (.ok args)) :
    ∃ i, ⟨i, .finish (.ok args)⟩ ∈ l ∧ (what i).key = (what j).key := by
  obtain ⟨_, i, -, -, hk, hmem⟩ := h.settled_of_args hj
  exact ⟨i, hmem, hk⟩

end Sound

section Runs

variable [DecidableEq ι]

theorem notAgain_of_step (h : Sound what l t) (hs : Step what t e t') (ha : a ∈ l) :
    NotAgain what a e := by
  intro hfinish hk
  obtain ⟨j, action⟩ := a
  cases action with
  | finish o =>
    cases hs with
    | start hp hb =>
      obtain ⟨n, hslot, -⟩ := h.slot?_of_finished ha
      have hnone := (Builds.claim_new hb).1
      rw [← hk, hslot] at hnone
      cases hnone
    | finish hp => exact absurd hp (h.not_building_of_finished ha hk)
    | join | settle | interrupt | forget | cancel | wake | retry => exact ⟨rfl, rfl⟩
  | start | join | settle | interrupt | forget | cancel | wake | retry => cases hfinish

/-- No build of a key starts or finishes after one that has finished. -/
theorem Runs.notAgain (h : Runs what l t) : l.Pairwise (NotAgain what) := by
  induction h with
  | nil => exact .nil
  | snoc h hs ih =>
    refine List.pairwise_append.2 ⟨ih, List.pairwise_singleton .., fun a ha e he => ?_⟩
    rw [List.mem_singleton.1 he]
    exact notAgain_of_step h.sound hs ha

/-! ## Starts and interruptions -/

/-- Every start of a build but the last is made up for by an interruption, and so is the last if its
key is to be forgotten or is forgotten. -/
structure Balanced (what : ι → Run.Build) (l : List (Event ι)) (t : Traffic ι) (k : BuildKey) :
    Prop where
  le : count what Action.isStart k l ≤ count what Action.isInterrupt k l + 1
  of_slot?_eq_none (h : t.builds.slot? k = none) :
    count what Action.isStart k l ≤ count what Action.isInterrupt k l
  of_forgetting {i : ι} {n : Nat} (h : t.phase i = .forgetting n) (hk : (what i).key = k) :
    count what Action.isStart k l ≤ count what Action.isInterrupt k l

/-- A start is preceded by interruptions of all builds before. -/
theorem Balanced.start {b : Builds} (h : Balanced what l t k) (hsound : Sound what l t)
    (hb : t.builds.claim (what i).key = (n, true, b)) (hk : (what i).key = k) :
    Balanced what (l ++ [⟨i, .start⟩]) (t.next b i (.building n)) k where
  le := by
    have hle := h.of_slot?_eq_none (hk ▸ (Builds.claim_new hb).1)
    rw [count_snoc_self rfl hk, count_snoc_of_kind rfl]
    exact Nat.add_le_add_right hle 1
  of_slot?_eq_none hnone := by
    rw [next_builds, Builds.slot?_of_claim_new hb, if_pos hk.symm] at hnone
    cases hnone
  of_forgetting {j m} hj hjk := by
    by_cases hne : j = i
    · rw [hne, next_phase_self] at hj
      cases hj
    · rw [next_phase_of_ne _ _ _ hne] at hj
      have hslot := hsound.held (show (t.phase j).held? = some m by rw [hj]; rfl)
      rw [hjk, ← hk, (Builds.claim_new hb).1] at hslot
      cases hslot

/-- An interruption makes up for the build that is running. -/
theorem Balanced.interrupt (h : Balanced what l t k) (p : Phase) (hk : (what i).key = k) :
    Balanced what (l ++ [⟨i, .interrupt⟩]) (t.next t.builds i p) k := by
  have hle : count what Action.isStart k (l ++ [⟨i, .interrupt⟩]) ≤
      count what Action.isInterrupt k (l ++ [⟨i, .interrupt⟩]) := by
    rw [count_snoc_of_kind rfl, count_snoc_self rfl hk]
    exact h.le
  exact ⟨Nat.le_succ_of_le hle, fun _ => hle, fun _ _ => hle⟩

/-- Any other step neither starts nor interrupts a build of the key. -/
theorem Balanced.other (h : Balanced what l t k) (hs : Step what t e t')
    (hcount : count what Action.isStart k (l ++ [e]) = count what Action.isStart k l)
    (hnew : ∀ n, t'.phase e.who = .forgetting n → (what e.who).key ≠ k) :
    Balanced what (l ++ [e]) t' k := by
  have hmono := count_le_snoc what Action.isInterrupt k l e
  refine ⟨?_, ?_, ?_⟩
  · rw [hcount]
    exact Nat.le_trans h.le (Nat.add_le_add_right hmono 1)
  · intro hnone
    rw [hcount]
    refine Nat.le_trans ?_ hmono
    cases hold : t.builds.slot? k with
    | none => exact h.of_slot?_eq_none hold
    | some n =>
      rcases hs.slot?_stays hold with hstays | ⟨m, hm, hk⟩
      · rw [hnone] at hstays
        cases hstays
      · exact h.of_forgetting hm hk
  · intro j n hj hjk
    rw [hcount]
    refine Nat.le_trans ?_ hmono
    by_cases hne : j = e.who
    · rw [hne] at hj hjk
      exact absurd hjk (hnew n hj)
    · rw [hs.phase_of_ne hne] at hj
      exact h.of_forgetting hj hjk

theorem Balanced.step (h : Balanced what l t k) (hsound : Sound what l t)
    (hs : Step what t e t') : Balanced what (l ++ [e]) t' k := by
  by_cases hk : (what e.who).key = k
  · have hstep := hs
    cases hs with
    | start hp hb => exact h.start hsound hb hk
    | interrupt hp => exact h.interrupt _ hk
    | join | finish | settle | forget | cancel | wake | retry =>
      refine h.other hstep (count_snoc_of_kind rfl) fun n hn => ?_
      rw [next_phase_self] at hn
      cases hn
  · exact h.other hs (count_snoc_of_ne hk) fun _ _ => hk

theorem Runs.balanced (h : Runs what l t) (k : BuildKey) : Balanced what l t k := by
  induction h with
  | nil => exact ⟨Nat.zero_le 1, fun _ => Nat.le_refl 0, fun _ _ => Nat.le_refl 0⟩
  | snoc h hs ih => exact ih.step h.sound hs

/-- Only the interruption of its own build breaks a request. -/
theorem Runs.interrupt_mem (h : Runs what l t) (hi : (t.phase i).Broken) :
    ⟨i, .interrupt⟩ ∈ l := by
  induction h with
  | nil => cases hi
  | @snoc l t t' e h hs ih =>
    by_cases hne : i = e.who
    · subst hne
      cases hs with
      | interrupt hp => exact List.mem_append_right _ (List.mem_singleton_self _)
      | forget hp | cancel hp => exact List.mem_append_left _ (ih (by rw [hp]; trivial))
      | start | join | finish | settle | wake | retry =>
        rw [next_phase_self] at hi
        cases hi
    · rw [hs.phase_of_ne hne] at hi
      exact List.mem_append_left _ (ih hi)

/-! ## Completed once -/

/-- One build of a key is completed, and all who ask for it get what it has ended with. -/
structure BuiltOnce (what : ι → Run.Build) (l : List (Event ι)) (t : Traffic ι) : Prop where
  /-- One build of a key runs at a time. -/
  running {i j : ι} {n m : Nat} (hi : t.phase i = .building n) (hj : t.phase j = .building m)
    (hk : (what i).key = (what j).key) : i = j
  /-- One build of a key at most ends without being interrupted. -/
  finishes (k : BuildKey) : count what Action.isFinish k l ≤ 1
  /-- No build of a key starts after one that has ended without being interrupted. -/
  noRestart : l.Pairwise fun a e =>
    a.action.isFinish → (what a.who).key = (what e.who).key → e.action.isStart = false
  /-- There is one more start than there are interruptions, at most. -/
  starts (k : BuildKey) :
    count what Action.isStart k l ≤ count what Action.isInterrupt k l + 1
  /-- An answer comes from a build that has ended without being interrupted. -/
  source {j : ι} {o : BuildOutcome} (hj : t.phase j = .answered o) :
    ∃ i o', ⟨i, .finish o'⟩ ∈ l ∧ (what i).key = (what j).key
  /-- All who get arguments get the same arguments. -/
  agreement {i j : ι} {args args' : List String} (hk : (what i).key = (what j).key)
    (hi : t.phase i = .answered (.ok args)) (hj : t.phase j = .answered (.ok args')) : args = args'
  /-- All get the arguments of the build that has ended with arguments. -/
  result {i j : ι} {args : List String} {o : BuildOutcome} (hi : ⟨i, .finish (.ok args)⟩ ∈ l)
    (hk : (what j).key = (what i).key) (hj : t.phase j = .answered o) : o = .ok args
  /-- If a build has failed, its owner alone gets this failure, and the others get one of their own
  that names what they have asked for. -/
  failure {i j : ι} {f : Failure} {o : BuildOutcome} (hi : ⟨i, .finish (.error (.failed f))⟩ ∈ l)
    (hk : (what j).key = (what i).key) (hj : t.phase j = .answered o) :
    o = .error (.failed (if j = i then f else {
      command := { program := (what j).description }
      stderr := Bytes.ofText "previous build failed" }))
  /-- Any other fault of a build is that of all requests for it. -/
  fault {i j : ι} {f : Fault} {o : BuildOutcome} (hi : ⟨i, .finish (.error f)⟩ ∈ l)
    (hf : ∀ g, f ≠ .failed g) (hk : (what j).key = (what i).key) (hj : t.phase j = .answered o) :
    o = .error f
  /-- A request is broken off by the interruption of its own build only. -/
  interruption {i : ι} (hi : t.phase i = .interrupted) : ⟨i, .interrupt⟩ ∈ l

/-- **A build is completed once, and all agree on it.** -/
theorem Runs.builtOnce (h : Runs what l t) : BuiltOnce what l t where
  running hi hj hk := h.sound.eq_of_held (by rw [hi]; rfl) (by rw [hj]; rfl) hk
  finishes _ := count_finish_le_one h.notAgain
  noRestart := h.notAgain.imp fun hnot hfinish hk => (hnot hfinish hk).1
  starts k := (h.balanced k).le
  source hj := by
    obtain ⟨n, i, o', hi, hp, hk, -⟩ := h.sound.answered hj
    obtain ⟨i', hi', -, -, hmem⟩ := h.sound.settled hp
    cases hi.symm.trans hi'
    exact ⟨i, o', hmem, hk⟩
  agreement {i j args args'} hk hi hj := by
    obtain ⟨m, hmem, hmk⟩ := h.sound.finish_of_args hi
    rcases h.sound.answer_eq hmem (hk.symm.trans hmk.symm) hj with ⟨-, ho⟩ | ⟨-, ho⟩
    · cases ho
      rfl
    · cases ho
      rfl
  result {i j args o} hi hk hj := by
    rcases h.sound.answer_eq hi hk hj with ⟨-, ho⟩ | ⟨-, ho⟩
    · exact ho
    · exact ho
  failure {i j f o} hi hk hj := by
    rcases h.sound.answer_eq hi hk hj with ⟨hji, ho⟩ | ⟨hji, ho⟩
    · rw [ho, if_pos hji]
    · rw [ho, if_neg hji]
      rfl
  fault {i j f o} hi hf hk hj := by
    rcases h.sound.answer_eq hi hk hj with ⟨-, ho⟩ | ⟨-, ho⟩
    · exact ho
    · rw [ho]
      cases f with
      | failed g => exact absurd rfl (hf g)
      | _ => rfl
  interruption hi := h.interrupt_mem (by rw [hi]; trivial)

end Runs

/-! ## A build that is taken over -/

/-- Three requests for one build. -/
def takeoverBuild (i : Nat) : Run.Build where
  key := .named "lib"
  description := if i = 1 then "second" else "other"
  run := return none

/-- The first request is interrupted, the second one takes over and fails, and the third one asks
while the second one builds. -/
def takeover : List (Event Nat) := [
  ⟨0, .start⟩, ⟨1, .join⟩, ⟨0, .interrupt⟩, ⟨0, .forget⟩, ⟨0, .cancel⟩, ⟨1, .retry⟩, ⟨1, .start⟩,
  ⟨2, .join⟩, ⟨1, .finish (.error (.failed default))⟩, ⟨1, .settle⟩, ⟨2, .wake⟩]

theorem takeover_builtOnce : ∃ t, Runs takeoverBuild takeover t ∧ t.phase 0 = .interrupted ∧
    t.phase 1 = .answered (.error (.failed default)) ∧
    t.phase 2 = .answered (.error (.failed (Builds.earlierFailure "other"))) ∧
    BuiltOnce takeoverBuild takeover t := by
  have h : Runs takeoverBuild [] ⟨{}, fun _ => .asking⟩ := .nil
  have h := h.snoc (.start (i := 0) rfl rfl)
  have h := h.snoc (.join (i := 1) rfl rfl)
  have h := h.snoc (.interrupt (i := 0) rfl)
  have h := h.snoc (.forget (i := 0) rfl)
  have h := h.snoc (.cancel (i := 0) rfl)
  have h := h.snoc (.retry (i := 1) rfl rfl)
  have h := h.snoc (.start (i := 1) rfl rfl)
  have h := h.snoc (.join (i := 2) rfl rfl)
  have h := h.snoc (.finish (i := 1) rfl (.error (.failed default)))
  have h := h.snoc (.settle (i := 1) rfl)
  have h := h.snoc (.wake (i := 2) rfl rfl)
  exact ⟨_, h, rfl, rfl, rfl, Runs.builtOnce h⟩

/-! ## Progress -/

section Progress

variable [DecidableEq ι]

/-- The owner of a promise can go on. -/
theorem exists_step_of_owned (what : ι → Run.Build) (h : (t.phase i).owned? = some n) :
    ∃ action t', Step what t ⟨i, action⟩ t' := by
  cases hp : t.phase i with
  | building m => exact ⟨_, _, .interrupt hp⟩
  | settling m o => exact ⟨_, _, .settle hp⟩
  | forgetting m => exact ⟨_, _, .forget hp⟩
  | cancelling m => exact ⟨_, _, .cancel hp⟩
  | asking | waiting | answered | interrupted =>
    rw [hp] at h
    cases h

/-- **No request is stuck.** A request that has not ended can go on, or it waits for a promise whose
owner can. -/
theorem Runs.progress (h : Runs what l t) (hi : ¬(t.phase i).Ended) :
    ∃ j action t', Step what t ⟨j, action⟩ t' ∧
      (j = i ∨ ∃ n, t.phase i = .waiting n ∧ (t.phase j).owned? = some n) := by
  cases hp : t.phase i with
  | asking =>
    rcases hb : t.builds.claim (what i).key with ⟨n, isNew, b⟩
    cases isNew with
    | true => exact ⟨i, _, _, .start hp hb, .inl rfl⟩
    | false => exact ⟨i, _, _, .join hp hb, .inl rfl⟩
  | building n | settling n | forgetting n | cancelling n =>
    have howned : (t.phase i).owned? = some n := by rw [hp]; rfl
    obtain ⟨action, t', hs⟩ := exists_step_of_owned what howned
    exact ⟨i, action, t', hs, .inl rfl⟩
  | waiting n =>
    obtain ⟨m, hm, -⟩ := h.sound.waited hp
    have hlt : n < t.builds.promises.length := by
      rw [h.sound.length_eq]
      exact (List.getElem?_eq_some_iff.1 hm).1
    cases hb : t.builds.promises[n] with
    | pending =>
      obtain ⟨j, hj⟩ := h.sound.pending (List.getElem?_eq_some_iff.2 ⟨hlt, hb⟩)
      obtain ⟨action, t', hs⟩ := exists_step_of_owned what hj
      exact ⟨j, action, t', hs, .inr ⟨n, rfl, hj⟩⟩
    | settled o =>
      exact ⟨i, _, _, .wake hp (List.getElem?_eq_some_iff.2 ⟨hlt, hb⟩), .inl rfl⟩
    | cancelled =>
      exact ⟨i, _, _, .retry hp (List.getElem?_eq_some_iff.2 ⟨hlt, hb⟩), .inl rfl⟩
  | answered o | interrupted =>
    rw [hp] at hi
    exact absurd trivial hi

end Progress

end Sharing

end CompilerTest

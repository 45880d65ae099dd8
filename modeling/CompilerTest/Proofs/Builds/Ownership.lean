import CompilerTest.Proofs.Builds.Traffic

/-!
# Promises and their owners

Every promise was made by the request that started its build, and only this request can settle or
cancel it. `Sound` says so in every state of a run: it ties slots, promises, requests and what has
happened together, and every step preserves it (`Sound.step`).
-/

namespace CompilerTest

namespace Sharing

variable {ι : Type} {what : ι → Run.Build} {l : List (Event ι)} {t t' : Traffic ι} {e : Event ι}
  {i j : ι} {n : Nat} {k : BuildKey} {p : Promise}

theorem owned?_of_held? {p : Phase} (h : p.held? = some n) : p.owned? = some n := by
  cases p with
  | building | settling | forgetting => exact h
  | asking | cancelling | waiting | answered | interrupted => cases h

theorem getElem?_starters (e : Event ι) (h : (starters l)[n]? = some i) :
    (starters (l ++ [e]))[n]? = some i := by
  rw [starters, List.filterMap_append]
  exact (List.getElem?_append_left (List.getElem?_eq_some_iff.1 h).1).trans h

theorem starters_start (l : List (Event ι)) (i : ι) :
    starters (l ++ [⟨i, .start⟩]) = starters l ++ [i] := by
  rw [starters, List.filterMap_append]
  rfl

theorem starters_of_starter?_eq_none (l : List (Event ι)) (h : e.starter? = none) :
    starters (l ++ [e]) = starters l := by
  rw [starters, List.filterMap_append, List.filterMap_cons_none h, List.filterMap_nil,
    List.append_nil, starters]

/-! ## The invariant -/

/-- How slots, promises, requests and events belong together. -/
structure Sound (what : ι → Run.Build) (l : List (Event ι)) (t : Traffic ι) : Prop where
  /-- There is one promise for each build that was started. -/
  length_eq : t.builds.promises.length = (starters l).length
  /-- The promise of a slot was made for its key. -/
  slot_key {k : BuildKey} {n : Nat} (h : t.builds.slot? k = some n) :
    ∃ i, (starters l)[n]? = some i ∧ (what i).key = k
  /-- A promise that a request waits for was made for its key. -/
  waited {i : ι} {n : Nat} (h : t.phase i = .waiting n) :
    ∃ j, (starters l)[n]? = some j ∧ (what j).key = (what i).key
  /-- The promise that a request holds stands for its key. -/
  held {i : ι} {n : Nat} (h : (t.phase i).held? = some n) :
    t.builds.slot? (what i).key = some n
  /-- The owner of a promise has made it. -/
  owner {i : ι} {n : Nat} (h : (t.phase i).owned? = some n) : (starters l)[n]? = some i
  /-- A promise with an owner is pending. -/
  owned {i : ι} {n : Nat} (h : (t.phase i).owned? = some n) :
    t.builds.promise? n = some .pending
  /-- A pending promise has an owner. -/
  pending {n : Nat} (h : t.builds.promise? n = some .pending) : ∃ i, (t.phase i).owned? = some n
  /-- A settled promise stands for its key, and its owner has finished with its outcome. -/
  settled {n : Nat} {o : BuildOutcome} (h : t.builds.promise? n = some (.settled o)) :
    ∃ i, (starters l)[n]? = some i ∧ t.builds.slot? (what i).key = some n ∧
      t.phase i = .answered o ∧ ⟨i, .finish o⟩ ∈ l
  /-- A build that is to be settled has finished. -/
  settling {i : ι} {n : Nat} {o : BuildOutcome} (h : t.phase i = .settling n o) :
    ⟨i, .finish o⟩ ∈ l
  /-- The promise of a finished build is to be settled or is settled. -/
  finished {i : ι} {o : BuildOutcome} (h : ⟨i, .finish o⟩ ∈ l) :
    ∃ n, t.phase i = .settling n o ∨
      (starters l)[n]? = some i ∧ t.builds.promise? n = some (.settled o)
  /-- An answer comes from a settled promise for the same key. -/
  answered {j : ι} {o : BuildOutcome} (h : t.phase j = .answered o) :
    ∃ n i o', (starters l)[n]? = some i ∧ t.builds.promise? n = some (.settled o') ∧
      (what i).key = (what j).key ∧
      (j = i ∧ o = o' ∨ j ≠ i ∧ o = Builds.reused (what j).description o')

namespace Sound

/-- A promise has one owner. -/
theorem owner_unique (h : Sound what l t) (hi : (t.phase i).owned? = some n)
    (hj : (t.phase j).owned? = some n) : i = j :=
  Option.some.inj ((h.owner hi).symm.trans (h.owner hj))

/-- A promise that another request owns is not that of the request that takes a step. -/
theorem not_owned_of_ne (h : Sound what l t) (hj : j ≠ i) (hn : (t.phase j).owned? = some n) :
    (t.phase i).owned? ≠ some n :=
  fun hi => hj (h.owner_unique hn hi)

/-- No request owns a settled promise. -/
theorem not_owned_of_settled {o : BuildOutcome} (h : Sound what l t)
    (hp : t.builds.promise? n = some (.settled o)) (i : ι) : (t.phase i).owned? ≠ some n := by
  intro hi
  rw [h.owned hi] at hp
  cases hp

theorem nil : Sound what [] ⟨{}, fun _ => .asking⟩ where
  length_eq := rfl
  slot_key h := by cases h
  waited h := by cases h
  held h := by cases h
  owner h := by cases h
  owned h := by cases h
  pending h := by cases h
  settled h := by cases h
  settling h := by cases h
  finished h := by cases h
  answered h := by cases h

/-- The request that makes a promise is found under its number. -/
theorem starters_claim {b : Builds} (h : Sound what l t)
    (hb : t.builds.claim k = (n, true, b)) : (starters (l ++ [⟨i, .start⟩]))[n]? = some i := by
  rw [starters_start, (Builds.claim_new hb).2.1, h.length_eq]
  simp

end Sound

/-! ## What a step leaves alone -/

section Step

variable [DecidableEq ι]

@[simp] theorem next_builds (t : Traffic ι) (b : Builds) (i : ι) (p : Phase) :
    (t.next b i p).builds = b := rfl

@[simp] theorem next_phase_self (t : Traffic ι) (b : Builds) (i : ι) (p : Phase) :
    (t.next b i p).phase i = p := Function.update_self ..

theorem next_phase_of_ne (t : Traffic ι) (b : Builds) (p : Phase) (h : j ≠ i) :
    (t.next b i p).phase j = t.phase j := Function.update_of_ne h ..

namespace Step

theorem phase_of_ne (hs : Step what t e t') (h : j ≠ e.who) : t'.phase j = t.phase j := by
  cases hs <;> exact next_phase_of_ne _ _ _ h

/-- A request that has ended does nothing. -/
theorem phase_of_answered {o : BuildOutcome} (hs : Step what t e t')
    (h : t.phase j = .answered o) : t'.phase j = .answered o := by
  by_cases hj : j = e.who
  · subst hj
    cases hs <;> simp_all
  · rw [hs.phase_of_ne hj, h]

/-- The slot of a key stays unless the key is forgotten. -/
theorem slot?_stays (hs : Step what t e t') (h : t.builds.slot? k = some n) :
    t'.builds.slot? k = some n ∨
      ∃ m, t.phase e.who = .forgetting m ∧ (what e.who).key = k := by
  cases hs with
  | @start i m b hp hb =>
    left
    have hk : k ≠ (what i).key := by
      intro hk
      rw [hk, (Builds.claim_new hb).1] at h
      cases h
    rw [next_builds, Builds.slot?_of_claim_new hb, if_neg hk, h]
  | join hp hb => rw [next_builds, (Builds.claim_old hb).2]; exact .inl h
  | @forget i m hp =>
    by_cases hk : (what i).key = k
    · exact .inr ⟨_, hp, hk⟩
    · left
      rw [next_builds, Builds.slot?_forget, if_neg fun hk' => hk hk'.symm, h]
  | finish | settle | interrupt | cancel | wake | retry => exact .inl h

/-- What is known of a promise stays unless its owner settles or cancels it. -/
theorem promise?_stays (hs : Step what t e t') (h : t.builds.promise? n = some p) :
    t'.builds.promise? n = some p ∨ (t.phase e.who).owned? = some n := by
  cases hs with
  | start hp hb =>
    have hlt := Builds.lt_length_of_promise? h
    have hn := (Builds.claim_new hb).2.1
    rw [next_builds, Builds.promise?_of_claim_new hb, if_neg (by omega)]
    exact .inl h
  | join hp hb => rw [next_builds, (Builds.claim_old hb).2]; exact .inl h
  | @settle i m o hp =>
    by_cases hm : n = m
    · right; rw [hp, hm]; rfl
    · left; rw [next_builds, Builds.promise?_settle, if_neg hm, h]
  | @cancel i m hp =>
    by_cases hm : n = m
    · right; rw [hp, hm]; rfl
    · left; rw [next_builds, Builds.promise?_cancel, if_neg hm, h]
  | finish | interrupt | forget | wake | retry => exact .inl h

/-- What is known of a promise is what was known before, or what the step does to it. -/
theorem promise?_cases (hs : Step what t e t') (h : t'.builds.promise? n = some p) :
    t.builds.promise? n = some p ∨ (p = .pending ∧ (t'.phase e.who).owned? = some n) ∨
      (∃ o, p = .settled o ∧ t.phase e.who = .settling n o ∧ t'.phase e.who = .answered o) ∨
      p = .cancelled := by
  cases hs with
  | start hp hb =>
    rw [next_builds, Builds.promise?_of_claim_new hb] at h
    split at h
    next he =>
      cases h
      exact .inr (.inl ⟨rfl, by rw [next_phase_self, he]; rfl⟩)
    next => exact .inl h
  | join hp hb => rw [next_builds, (Builds.claim_old hb).2] at h; exact .inl h
  | @settle i m o hp =>
    rw [next_builds, Builds.promise?_settle] at h
    split at h
    next he =>
      obtain ⟨_, -, rfl⟩ := Option.map_eq_some_iff.1 h
      exact .inr (.inr (.inl ⟨o, rfl, by rw [hp, he], next_phase_self ..⟩))
    next => exact .inl h
  | cancel hp =>
    rw [next_builds, Builds.promise?_cancel] at h
    split at h
    next he =>
      obtain ⟨_, -, rfl⟩ := Option.map_eq_some_iff.1 h
      exact .inr (.inr (.inr rfl))
    next => exact .inl h
  | finish | interrupt | forget | wake | retry => exact .inl h

/-- The owner of a promise that stays pending goes on owning it. -/
theorem owned?_stays (hs : Step what t e t') (h : (t.phase j).owned? = some n)
    (hp : t.builds.promise? n = some p) (hp' : t'.builds.promise? n = some .pending) :
    (t'.phase j).owned? = some n := by
  by_cases hne : j = e.who
  · subst hne
    cases hs with
    | finish hi | interrupt hi | forget hi =>
      rw [next_phase_self]
      rw [hi] at h
      exact h
    | settle hi =>
      rw [hi] at h
      cases h
      rw [next_builds, Builds.promise?_settle, if_pos rfl, hp] at hp'
      cases hp'
    | cancel hi =>
      rw [hi] at h
      cases h
      rw [next_builds, Builds.promise?_cancel, if_pos rfl, hp] at hp'
      cases hp'
    | start hi | join hi | wake hi | retry hi =>
      rw [hi] at h
      cases h
  · rw [hs.phase_of_ne hne]
    exact h

end Step

namespace Sound

/-- The slot of a promise stays in a step of a request that does not own it. -/
theorem slot?_stays (h : Sound what l t) (hs : Step what t e t')
    (hn : (t.phase e.who).owned? ≠ some n) (hk : t.builds.slot? k = some n) :
    t'.builds.slot? k = some n := by
  rcases hs.slot?_stays hk with hstays | ⟨m, hp, rfl⟩
  · exact hstays
  · -- the request that forgets the key holds the promise in its slot, which is then `n`
    have hm : t.builds.slot? (what e.who).key = some m := h.held (by rw [hp]; rfl)
    have hmn : m = n := Option.some.inj (hm.symm.trans hk)
    rw [hp, hmn] at hn
    exact absurd rfl hn

theorem promise?_stays (hs : Step what t e t')
    (hn : (t.phase e.who).owned? ≠ some n) (hp : t.builds.promise? n = some p) :
    t'.builds.promise? n = some p :=
  (hs.promise?_stays hp).resolve_right hn

theorem settled_stays {o : BuildOutcome} (h : Sound what l t) (hs : Step what t e t')
    (hp : t.builds.promise? n = some (.settled o)) : t'.builds.promise? n = some (.settled o) :=
  promise?_stays hs (h.not_owned_of_settled hp _) hp

/-! ## What a step preserves -/

theorem step_length (h : Sound what l t) (hs : Step what t e t') :
    t'.builds.promises.length = (starters (l ++ [e])).length := by
  cases hs with
  | start hp hb =>
    rw [starters_start, List.length_append, ← h.length_eq]
    exact Builds.length_of_claim_new hb
  | join hp hb =>
    rw [starters_of_starter?_eq_none l rfl, ← h.length_eq, next_builds, (Builds.claim_old hb).2]
  | settle hp =>
    rw [starters_of_starter?_eq_none l rfl, ← h.length_eq]
    exact Builds.length_settle ..
  | cancel hp =>
    rw [starters_of_starter?_eq_none l rfl, ← h.length_eq]
    exact Builds.length_cancel ..
  | finish | interrupt | forget | wake | retry =>
    rw [starters_of_starter?_eq_none l rfl]
    exact h.length_eq

theorem step_slot_key (h : Sound what l t) (hs : Step what t e t')
    (hk : t'.builds.slot? k = some n) :
    ∃ i, (starters (l ++ [e]))[n]? = some i ∧ (what i).key = k := by
  have hold : t.builds.slot? k = some n →
      ∃ i, (starters (l ++ [e]))[n]? = some i ∧ (what i).key = k := by
    intro hk
    obtain ⟨i, hi, hik⟩ := h.slot_key hk
    exact ⟨i, getElem?_starters e hi, hik⟩
  cases hs with
  | @start i m b hp hb =>
    rw [next_builds, Builds.slot?_of_claim_new hb] at hk
    split at hk
    next he =>
      cases hk
      exact ⟨i, h.starters_claim hb, he.symm⟩
    next => exact hold hk
  | join hp hb =>
    rw [next_builds, (Builds.claim_old hb).2] at hk
    exact hold hk
  | forget hp =>
    rw [next_builds, Builds.slot?_forget] at hk
    split at hk
    next => cases hk
    next => exact hold hk
  | finish | settle | interrupt | cancel | wake | retry => exact hold hk

theorem step_waited (h : Sound what l t) (hs : Step what t e t')
    (hj : t'.phase j = .waiting n) :
    ∃ i, (starters (l ++ [e]))[n]? = some i ∧ (what i).key = (what j).key := by
  by_cases hne : j = e.who
  · subst hne
    cases hs with
    | join hp hb =>
      rw [next_phase_self] at hj
      cases hj
      obtain ⟨i, hi, hik⟩ := h.slot_key (Builds.claim_old hb).1
      exact ⟨i, getElem?_starters _ hi, hik⟩
    | start | finish | settle | interrupt | forget | cancel | wake | retry =>
      rw [next_phase_self] at hj
      cases hj
  · rw [hs.phase_of_ne hne] at hj
    obtain ⟨i, hi, hik⟩ := h.waited hj
    exact ⟨i, getElem?_starters e hi, hik⟩

theorem step_held (h : Sound what l t) (hs : Step what t e t')
    (hj : (t'.phase j).held? = some n) : t'.builds.slot? (what j).key = some n := by
  by_cases hne : j = e.who
  · subst hne
    cases hs with
    | start hp hb =>
      rw [next_phase_self] at hj
      cases hj
      rw [next_builds, Builds.slot?_of_claim_new hb, if_pos rfl]
    | finish hp | interrupt hp =>
      rw [next_phase_self] at hj
      cases hj
      exact h.held (by rw [hp]; rfl)
    | join | settle | forget | cancel | wake | retry =>
      rw [next_phase_self] at hj
      cases hj
  · rw [hs.phase_of_ne hne] at hj
    exact h.slot?_stays hs (h.not_owned_of_ne hne (owned?_of_held? hj)) (h.held hj)

theorem step_owner (h : Sound what l t) (hs : Step what t e t')
    (hj : (t'.phase j).owned? = some n) : (starters (l ++ [e]))[n]? = some j := by
  by_cases hne : j = e.who
  · subst hne
    cases hs with
    | start hp hb =>
      rw [next_phase_self] at hj
      cases hj
      exact h.starters_claim hb
    | finish hp | interrupt hp | forget hp =>
      rw [next_phase_self] at hj
      cases hj
      exact getElem?_starters _ (h.owner (by rw [hp]; rfl))
    | join | settle | cancel | wake | retry =>
      rw [next_phase_self] at hj
      cases hj
  · rw [hs.phase_of_ne hne] at hj
    exact getElem?_starters e (h.owner hj)

theorem step_owned (h : Sound what l t) (hs : Step what t e t')
    (hj : (t'.phase j).owned? = some n) : t'.builds.promise? n = some .pending := by
  by_cases hne : j = e.who
  · subst hne
    cases hs with
    | start hp hb =>
      rw [next_phase_self] at hj
      cases hj
      rw [next_builds, Builds.promise?_of_claim_new hb, if_pos rfl]
    | finish hp | interrupt hp | forget hp =>
      rw [next_phase_self] at hj
      cases hj
      exact h.owned (by rw [hp]; rfl)
    | join | settle | cancel | wake | retry =>
      rw [next_phase_self] at hj
      cases hj
  · rw [hs.phase_of_ne hne] at hj
    exact promise?_stays hs (h.not_owned_of_ne hne hj) (h.owned hj)

theorem step_pending (h : Sound what l t) (hs : Step what t e t')
    (hp : t'.builds.promise? n = some .pending) : ∃ i, (t'.phase i).owned? = some n := by
  rcases hs.promise?_cases hp with hold | ⟨-, hi⟩ | ⟨_, hf, -, -⟩ | hf
  · obtain ⟨i, hi⟩ := h.pending hold
    exact ⟨i, hs.owned?_stays hi hold hp⟩
  · exact ⟨e.who, hi⟩
  · cases hf
  · cases hf

theorem step_settled {o : BuildOutcome} (h : Sound what l t) (hs : Step what t e t')
    (hp : t'.builds.promise? n = some (.settled o)) :
    ∃ i, (starters (l ++ [e]))[n]? = some i ∧ t'.builds.slot? (what i).key = some n ∧
      t'.phase i = .answered o ∧ ⟨i, .finish o⟩ ∈ l ++ [e] := by
  rcases hs.promise?_cases hp with hold | ⟨hf, -⟩ | ⟨_, ho, hi, hi'⟩ | hf
  · obtain ⟨i, hi, hk, hphase, hmem⟩ := h.settled hold
    exact ⟨i, getElem?_starters e hi, h.slot?_stays hs (h.not_owned_of_settled hold _) hk,
      hs.phase_of_answered hphase, List.mem_append_left _ hmem⟩
  · cases hf
  · cases ho
    have howned : (t.phase e.who).owned? = some n := by rw [hi]; rfl
    have hk : t.builds.slot? (what e.who).key = some n := h.held (by rw [hi]; rfl)
    have hk' : t'.builds.slot? (what e.who).key = some n := by
      rcases hs.slot?_stays hk with hstays | ⟨m, hm, -⟩
      · exact hstays
      · rw [hi] at hm
        cases hm
    exact ⟨e.who, getElem?_starters e (h.owner howned), hk', hi',
      List.mem_append_left _ (h.settling hi)⟩
  · cases hf

theorem step_settling {o : BuildOutcome} (h : Sound what l t) (hs : Step what t e t')
    (hj : t'.phase j = .settling n o) : ⟨j, .finish o⟩ ∈ l ++ [e] := by
  by_cases hne : j = e.who
  · subst hne
    cases hs with
    | finish hp o' =>
      rw [next_phase_self] at hj
      cases hj
      exact List.mem_append_right _ (List.mem_singleton_self _)
    | start | join | settle | interrupt | forget | cancel | wake | retry =>
      rw [next_phase_self] at hj
      cases hj
  · rw [hs.phase_of_ne hne] at hj
    exact List.mem_append_left _ (h.settling hj)

/-- A build that is to be settled is still to be settled after a step, or it is settled. -/
theorem settling_stays {o : BuildOutcome} (h : Sound what l t) (hs : Step what t e t')
    (hj : t.phase j = .settling n o) :
    t'.phase j = .settling n o ∨ t'.builds.promise? n = some (.settled o) := by
  by_cases hne : j = e.who
  · subst hne
    have hp : t.builds.promise? n = some .pending := h.owned (by rw [hj]; rfl)
    cases hs with
    | settle hi =>
      rw [hi] at hj
      cases hj
      right
      rw [next_builds, Builds.promise?_settle, if_pos rfl, hp]
      rfl
    | start hi | join hi | finish hi | interrupt hi | forget hi | cancel hi | wake hi | retry hi =>
      rw [hi] at hj
      cases hj
  · left
    rw [hs.phase_of_ne hne, hj]

theorem step_finished {o : BuildOutcome} (h : Sound what l t) (hs : Step what t e t')
    (hj : ⟨j, .finish o⟩ ∈ l ++ [e]) :
    ∃ n, t'.phase j = .settling n o ∨
      (starters (l ++ [e]))[n]? = some j ∧ t'.builds.promise? n = some (.settled o) := by
  rcases List.mem_append.1 hj with hj | hj
  · obtain ⟨n, hphase | ⟨hi, hp⟩⟩ := h.finished hj
    · have hi : (starters l)[n]? = some j := h.owner (by rw [hphase]; rfl)
      rcases h.settling_stays hs hphase with hstays | hp
      · exact ⟨n, .inl hstays⟩
      · exact ⟨n, .inr ⟨getElem?_starters e hi, hp⟩⟩
    · exact ⟨n, .inr ⟨getElem?_starters e hi, h.settled_stays hs hp⟩⟩
  · rw [← List.mem_singleton.1 hj] at hs
    cases hs with
    | @finish _ n hp o => exact ⟨n, .inl (next_phase_self ..)⟩

theorem step_answered {o : BuildOutcome} (h : Sound what l t) (hs : Step what t e t')
    (hj : t'.phase j = .answered o) :
    ∃ n i o', (starters (l ++ [e]))[n]? = some i ∧ t'.builds.promise? n = some (.settled o') ∧
      (what i).key = (what j).key ∧
      (j = i ∧ o = o' ∨ j ≠ i ∧ o = Builds.reused (what j).description o') := by
  by_cases hne : j = e.who
  · subst hne
    cases hs with
    | @settle i n o' hp =>
      rw [next_phase_self] at hj
      cases hj
      have hpending : t.builds.promise? n = some .pending := h.owned (by rw [hp]; rfl)
      have hsettled : (t.builds.settle n o).promise? n = some (.settled o) := by
        rw [Builds.promise?_settle, if_pos rfl, hpending]
        rfl
      exact ⟨n, i, o, getElem?_starters _ (h.owner (by rw [hp]; rfl)), hsettled, rfl,
        .inl ⟨rfl, rfl⟩⟩
    | @wake i n o' hp hb =>
      rw [next_phase_self] at hj
      cases hj
      obtain ⟨m, hm, hmk⟩ := h.waited hp
      obtain ⟨m', hm', -, hanswered, -⟩ := h.settled hb
      cases hm.symm.trans hm'
      have hdiff : i ≠ m := by
        intro he
        rw [← he, hp] at hanswered
        cases hanswered
      exact ⟨n, m, o', getElem?_starters _ hm, hb, hmk, .inr ⟨hdiff, rfl⟩⟩
    | start | join | finish | interrupt | forget | cancel | retry =>
      rw [next_phase_self] at hj
      cases hj
  · rw [hs.phase_of_ne hne] at hj
    obtain ⟨n, i, o', hi, hp, hk, ho⟩ := h.answered hj
    exact ⟨n, i, o', getElem?_starters e hi, h.settled_stays hs hp, hk, ho⟩

/-- **A step preserves the invariant.** -/
theorem step (h : Sound what l t) (hs : Step what t e t') : Sound what (l ++ [e]) t' where
  length_eq := h.step_length hs
  slot_key := h.step_slot_key hs
  waited := h.step_waited hs
  held := h.step_held hs
  owner := h.step_owner hs
  owned := h.step_owned hs
  pending := h.step_pending hs
  settled := h.step_settled hs
  settling := h.step_settling hs
  finished := h.step_finished hs
  answered := h.step_answered hs

end Sound

/-- **Every run is sound.** -/
theorem Runs.sound (h : Runs what l t) : Sound what l t := by
  induction h with
  | nil => exact .nil
  | snoc _ hs ih => exact ih.step hs

end Step

end Sharing

end CompilerTest

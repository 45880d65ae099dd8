import CompilerTest.Proofs.Builds.Once

/-!
# Waiting for builds

Nobody waits in vain, and requests for different builds do not meet (`Runs.unstranded`). A promise
that somebody waits for has ended, or there is one request that has to end it; no request finds a
cancelled promise in the slot of its key; and what is done for one key neither changes what stands
in the slot of another key nor what the requests for another key can do.
-/

namespace CompilerTest

namespace Sharing

variable {ι : Type} {what : ι → Run.Build} {l : List (Event ι)} {t t' : Traffic ι} {e : Event ι}
  {i j : ι} {n : Nat} {k : BuildKey}

/-! ## Promises that were made -/

/-- A promise that was made is settled or cancelled, or the request that has made it owns it. -/
theorem Sound.promise_cases (h : Sound what l t) (hi : (starters l)[n]? = some i) :
    (∃ o, t.builds.promise? n = some (.settled o)) ∨ t.builds.promise? n = some .cancelled ∨
      t.builds.promise? n = some .pending ∧ (t.phase i).owned? = some n := by
  have hlt : n < t.builds.promises.length := by
    rw [h.length_eq]
    exact (List.getElem?_eq_some_iff.1 hi).1
  have hp : t.builds.promise? n = some t.builds.promises[n] := List.getElem?_eq_getElem hlt
  rw [hp]
  cases hb : t.builds.promises[n] with
  | settled o => exact .inl ⟨o, rfl⟩
  | cancelled => exact .inr (.inl rfl)
  | pending =>
    rw [hb] at hp
    obtain ⟨j, hj⟩ := h.pending hp
    rw [Option.some.inj ((h.owner hj).symm.trans hi)] at hj
    exact .inr (.inr ⟨rfl, hj⟩)

section Step

variable [DecidableEq ι]

/-! ## What a request can do -/

/-- Whether a request can take a step. -/
def Enabled (what : ι → Run.Build) (t : Traffic ι) (e : Event ι) : Prop := ∃ t', Step what t e t'

/-- Whether the builds let a request for a key, standing where it stands, do something. They are
looked at in two places only: the slot of the key, and the promise that the request waits for. -/
def Allows (key : BuildKey) (b : Builds) : Phase → Action → Prop
  | .asking, .start => b.slot? key = none
  | .asking, .join => b.slot? key ≠ none
  | .building _, .finish _ => True
  | .building _, .interrupt => True
  | .settling _ _, .settle => True
  | .forgetting _, .forget => True
  | .cancelling _, .cancel => True
  | .waiting n, .wake => ∃ o, b.promise? n = some (.settled o)
  | .waiting n, .retry => b.promise? n = some .cancelled
  | _, _ => False

theorem allows_of_step (hs : Step what t e t') :
    Allows (what e.who).key t.builds (t.phase e.who) e.action := by
  cases hs with
  | start hp hb =>
    rw [hp]
    exact (Builds.claim_new hb).1
  | join hp hb =>
    rw [hp]
    show t.builds.slot? _ ≠ none
    rw [(Builds.claim_old hb).1]
    exact Option.some_ne_none _
  | wake hp hb =>
    rw [hp]
    exact ⟨_, hb⟩
  | retry hp hb =>
    rw [hp]
    exact hb
  | finish hp | interrupt hp | settle hp | forget hp | cancel hp =>
    rw [hp]
    trivial

theorem enabled_of_allows {action : Action}
    (h : Allows (what i).key t.builds (t.phase i) action) : Enabled what t ⟨i, action⟩ := by
  cases hp : t.phase i with
  | asking =>
    rw [hp] at h
    rcases hb : t.builds.claim (what i).key with ⟨n, isNew, b⟩
    cases action with
    | start =>
      cases isNew with
      | true => exact ⟨_, .start hp hb⟩
      | false =>
        have hslot := (Builds.claim_old hb).1
        rw [show t.builds.slot? (what i).key = none from h] at hslot
        cases hslot
    | join =>
      cases isNew with
      | true => exact absurd (Builds.claim_new hb).1 h
      | false => exact ⟨_, .join hp hb⟩
    | _ => exact h.elim
  | building n =>
    rw [hp] at h
    cases action with
    | finish o => exact ⟨_, .finish hp o⟩
    | interrupt => exact ⟨_, .interrupt hp⟩
    | _ => exact h.elim
  | settling n o =>
    rw [hp] at h
    cases action with
    | settle => exact ⟨_, .settle hp⟩
    | _ => exact h.elim
  | forgetting n =>
    rw [hp] at h
    cases action with
    | forget => exact ⟨_, .forget hp⟩
    | _ => exact h.elim
  | cancelling n =>
    rw [hp] at h
    cases action with
    | cancel => exact ⟨_, .cancel hp⟩
    | _ => exact h.elim
  | waiting n =>
    rw [hp] at h
    cases action with
    | wake =>
      obtain ⟨o, ho⟩ := h
      exact ⟨_, .wake hp ho⟩
    | retry => exact ⟨_, .retry hp h⟩
    | _ => exact h.elim
  | answered | interrupted =>
    rw [hp] at h
    exact h.elim

theorem enabled_iff_allows {action : Action} :
    Enabled what t ⟨i, action⟩ ↔ Allows (what i).key t.builds (t.phase i) action :=
  ⟨fun ⟨_, hs⟩ => allows_of_step hs, enabled_of_allows⟩

/-! ## Steps for another key -/

/-- The slot of a key is changed only by the requests for it. -/
theorem Step.slot?_of_ne (hs : Step what t e t') (hk : (what e.who).key ≠ k) :
    t'.builds.slot? k = t.builds.slot? k := by
  cases hs with
  | start hp hb => rw [next_builds, Builds.slot?_of_claim_new hb, if_neg (Ne.symm hk)]
  | join hp hb => rw [next_builds, (Builds.claim_old hb).2]
  | forget hp => rw [next_builds, Builds.slot?_forget, if_neg (Ne.symm hk)]
  | finish | settle | interrupt | cancel | wake | retry => rfl

/-- What is known of a promise is changed only by the requests for the key that it was made for. -/
theorem Sound.promise?_of_ne (h : Sound what l t) (hs : Step what t e t')
    (hn : (starters l)[n]? = some i) (hk : (what e.who).key ≠ (what i).key) :
    t'.builds.promise? n = t.builds.promise? n := by
  have hlt : n < t.builds.promises.length := by
    rw [h.length_eq]
    exact (List.getElem?_eq_some_iff.1 hn).1
  have hp : t.builds.promise? n = some t.builds.promises[n] := List.getElem?_eq_getElem hlt
  rw [hp]
  refine Sound.promise?_stays hs (fun howned => hk ?_) hp
  rw [Option.some.inj ((h.owner howned).symm.trans hn)]

/-- **Keys do not interfere.** A step for one key neither enables nor disables a step for another
key. -/
theorem Sound.enabled_iff_of_ne (h : Sound what l t) (hs : Step what t e t')
    (hk : (what e.who).key ≠ (what j).key) (action : Action) :
    Enabled what t' ⟨j, action⟩ ↔ Enabled what t ⟨j, action⟩ := by
  have hne : j ≠ e.who := fun hj => hk (by rw [hj])
  rw [enabled_iff_allows, enabled_iff_allows, hs.phase_of_ne hne]
  cases hp : t.phase j with
  | asking => cases action <;> simp only [Allows, hs.slot?_of_ne hk]
  | waiting n =>
    obtain ⟨i, hi, hik⟩ := h.waited hp
    have hpromise := h.promise?_of_ne hs hi (by rwa [hik])
    cases action <;> simp only [Allows, hpromise]
  | building | settling | forgetting | cancelling | answered | interrupted =>
    cases action <;> exact Iff.rfl

/-! ## Slots hold no cancelled promise -/

/-- A promise in a slot is settled, or there is a request that holds it. -/
def SlotsHeld (t : Traffic ι) : Prop :=
  ∀ k n, t.builds.slot? k = some n →
    (∃ o, t.builds.promise? n = some (.settled o)) ∨ ∃ i, (t.phase i).held? = some n

/-- A held promise that stays in its slot is settled in a step, or it goes on being held. -/
theorem Sound.held_stays (h : Sound what l t) (hs : Step what t e t')
    (hi : (t.phase i).held? = some n) (hslot : t'.builds.slot? (what i).key = some n) :
    (∃ o, t'.builds.promise? n = some (.settled o)) ∨ ∃ j, (t'.phase j).held? = some n := by
  by_cases hne : i = e.who
  · subst hne
    have hpending := h.owned (owned?_of_held? hi)
    cases hs with
    | finish hp | interrupt hp =>
      rw [hp] at hi
      exact .inr ⟨_, by rw [next_phase_self]; exact hi⟩
    | @settle i m o hp =>
      rw [hp] at hi
      cases hi
      left
      rw [next_builds, Builds.promise?_settle, if_pos rfl, hpending]
      exact ⟨o, rfl⟩
    | forget hp =>
      -- its slot is empty after this step
      rw [next_builds, Builds.slot?_forget, if_pos rfl] at hslot
      cases hslot
    | start hp | join hp | cancel hp | wake hp | retry hp =>
      rw [hp] at hi
      cases hi
  · exact .inr ⟨i, by rw [hs.phase_of_ne hne]; exact hi⟩

theorem SlotsHeld.step (hheld : SlotsHeld t) (h : Sound what l t) (hs : Step what t e t') :
    SlotsHeld t' := by
  intro k n hslot
  have hold : t.builds.slot? k = some n →
      (∃ o, t'.builds.promise? n = some (.settled o)) ∨ ∃ j, (t'.phase j).held? = some n := by
    intro hk
    rcases hheld k n hk with ⟨o, ho⟩ | ⟨i, hi⟩
    · exact .inl ⟨o, h.settled_stays hs ho⟩
    · obtain ⟨i', hi', rfl⟩ := h.slot_key hk
      obtain rfl := Option.some.inj ((h.owner (owned?_of_held? hi)).symm.trans hi')
      exact h.held_stays hs hi hslot
  have hslot' := hslot
  cases hs with
  | @start i m b hp hb =>
    rw [next_builds, Builds.slot?_of_claim_new hb] at hslot'
    split at hslot'
    next =>
      cases hslot'
      exact .inr ⟨i, by rw [next_phase_self]; rfl⟩
    next => exact hold hslot'
  | join hp hb =>
    rw [next_builds, (Builds.claim_old hb).2] at hslot'
    exact hold hslot'
  | forget hp =>
    rw [next_builds, Builds.slot?_forget] at hslot'
    split at hslot'
    next => cases hslot'
    next => exact hold hslot'
  | finish | settle | interrupt | cancel | wake | retry => exact hold hslot'

theorem Runs.slotsHeld (h : Runs what l t) : SlotsHeld t := by
  induction h with
  | nil => intro k n hslot; cases hslot
  | snoc h hs ih => exact ih.step h.sound hs

/-! ## Nobody waits in vain -/

/-- No request is stranded, and requests for different keys do not meet. -/
structure Unstranded (what : ι → Run.Build) (l : List (Event ι)) (t : Traffic ι) : Prop where
  /-- Who waits, waits for a promise that is settled or cancelled, or for one that is pending and
  that exactly one request has to settle or to cancel; this request is for the same key, and it can
  go on. -/
  waiting {i : ι} {n : Nat} (hi : t.phase i = .waiting n) :
    (∃ o, t.builds.promise? n = some (.settled o)) ∨ t.builds.promise? n = some .cancelled ∨
      t.builds.promise? n = some .pending ∧ ∃ j, (t.phase j).owned? = some n ∧
        (∀ j', (t.phase j').owned? = some n → j' = j) ∧ (what j).key = (what i).key ∧
        ∃ action, Enabled what t ⟨j, action⟩
  /-- The promise that stands for a key is known, and it is not cancelled. -/
  slot {k : BuildKey} {n : Nat} (hk : t.builds.slot? k = some n) :
    ∃ p, t.builds.promise? n = some p ∧ p ≠ .cancelled
  /-- Who forgets a key takes the promise out of its slot that it has made itself. -/
  forgets {i : ι} {t' : Traffic ι} (hs : Step what t ⟨i, .forget⟩ t') :
    ∃ n, t.phase i = .forgetting n ∧ (starters l)[n]? = some i ∧
      t.builds.slot? (what i).key = some n ∧ t'.builds.slot? (what i).key = none
  /-- A step for one key changes neither the slot of another key nor the promise in it. -/
  slotStays {e : Event ι} {t' : Traffic ι} (hs : Step what t e t') {k : BuildKey}
    (hk : (what e.who).key ≠ k) : t'.builds.slot? k = t.builds.slot? k ∧
      ∀ n, t.builds.slot? k = some n → t'.builds.promise? n = t.builds.promise? n
  /-- A step for one key neither enables nor disables a step of a request for another key. -/
  enabledIff {e : Event ι} {t' : Traffic ι} (hs : Step what t e t') {j : ι}
    (hj : (what e.who).key ≠ (what j).key) (action : Action) :
    Enabled what t' ⟨j, action⟩ ↔ Enabled what t ⟨j, action⟩

/-- **No request is stranded, and keys do not interfere.** -/
theorem Runs.unstranded (h : Runs what l t) : Unstranded what l t where
  waiting {i n} hi := by
    obtain ⟨j, hj, hk⟩ := h.sound.waited hi
    rcases h.sound.promise_cases hj with hsettled | hcancelled | ⟨hpending, howned⟩
    · exact .inl hsettled
    · exact .inr (.inl hcancelled)
    · obtain ⟨action, hstep⟩ := exists_step_of_owned what howned
      exact .inr (.inr ⟨hpending, j, howned, fun j' hj' => h.sound.owner_unique hj' howned, hk,
        action, hstep⟩)
  slot {k n} hk := by
    rcases h.slotsHeld k n hk with ⟨o, ho⟩ | ⟨i, hi⟩
    · exact ⟨.settled o, ho, by simp⟩
    · exact ⟨.pending, h.sound.owned (owned?_of_held? hi), by simp⟩
  forgets {i t'} hs := by
    cases hs with
    | @forget i n hp =>
      have hheld : (t.phase i).held? = some n := by rw [hp]; rfl
      exact ⟨n, hp, h.sound.owner (owned?_of_held? hheld), h.sound.held hheld,
        by rw [next_builds, Builds.slot?_forget, if_pos rfl]⟩
  slotStays hs _ hk := by
    refine ⟨hs.slot?_of_ne hk, fun n hn => ?_⟩
    obtain ⟨i, hi, hik⟩ := h.sound.slot_key hn
    exact h.sound.promise?_of_ne hs hi (by rwa [hik])
  enabledIff hs _ hj action := h.sound.enabled_iff_of_ne hs hj action

/-! ## Between forgetting and cancelling -/

/-- Three requests for one build, and one for another. -/
def handoverBuild (i : Nat) : Run.Build where
  key := .named (if i = 3 then "other" else "lib")
  description := "build"
  run := return none

/-- The first request is interrupted and has forgotten its key, but its promise is not cancelled
yet: the second request waits for it while the third one builds anew. -/
def handover : List (Event Nat) := [
  ⟨0, .start⟩, ⟨1, .join⟩, ⟨3, .start⟩, ⟨0, .interrupt⟩, ⟨0, .forget⟩, ⟨2, .start⟩]

theorem handover_unstranded : ∃ t, Runs handoverBuild handover t ∧ t.phase 0 = .cancelling 0 ∧
    t.phase 1 = .waiting 0 ∧ t.phase 2 = .building 2 ∧ t.phase 3 = .building 1 ∧
    Unstranded handoverBuild handover t := by
  have h : Runs handoverBuild [] ⟨{}, fun _ => .asking⟩ := .nil
  have h := h.snoc (.start (i := 0) rfl rfl)
  have h := h.snoc (.join (i := 1) rfl rfl)
  have h := h.snoc (.start (i := 3) rfl rfl)
  have h := h.snoc (.interrupt (i := 0) rfl)
  have h := h.snoc (.forget (i := 0) rfl)
  have h := h.snoc (.start (i := 2) rfl rfl)
  exact ⟨_, h, rfl, rfl, rfl, rfl, Runs.unstranded h⟩

end Step

end Sharing

end CompilerTest

import CompilerTest.Builds

/-!
# Slots and promises

What each operation on shared builds does to the slot of a key and to what is known of a promise. No
later proof looks into the two lists.
-/

namespace CompilerTest

namespace Builds

/-- The number of the promise that stands for a key. -/
def slot? (b : Builds) (key : BuildKey) : Option Nat := b.slots.lookup key

variable {b b' : Builds} {key : BuildKey} {n m : Nat}

theorem lt_length_of_promise? {p : Promise} (h : b.promise? n = some p) : n < b.promises.length :=
  (List.getElem?_eq_some_iff.1 h).1

/-! ## Claiming -/

/-- A claim that finds a promise changes nothing. -/
theorem claim_old (h : b.claim key = (n, false, b')) : b.slot? key = some n ∧ b' = b := by
  unfold claim at h
  split at h
  next m hm =>
    cases h
    exact ⟨hm, rfl⟩
  next => cases h

theorem claim_of_slot? (h : b.slot? key = some n) : b.claim key = (n, false, b) := by
  unfold slot? at h
  rw [claim, h]

/-- A claim that finds no promise makes one. -/
theorem claim_new (h : b.claim key = (n, true, b')) :
    b.slot? key = none ∧ n = b.promises.length ∧
      b' = ⟨b.slots ++ [(key, n)], b.promises ++ [.pending]⟩ := by
  unfold claim at h
  split at h
  next => cases h
  next hnone =>
    cases h
    exact ⟨hnone, rfl, rfl⟩

theorem length_of_claim_new (h : b.claim key = (n, true, b')) :
    b'.promises.length = b.promises.length + 1 := by
  obtain ⟨-, -, rfl⟩ := claim_new h
  simp

theorem slot?_of_claim_new (h : b.claim key = (n, true, b')) (other : BuildKey) :
    b'.slot? other = if other = key then some n else b.slot? other := by
  obtain ⟨hnone, -, rfl⟩ := claim_new h
  unfold slot? at hnone ⊢
  rw [List.lookup_append]
  split
  next hk =>
    rw [hk, hnone, List.lookup_cons_self]
    rfl
  next hk =>
    have hne : (other == key) = false := by simpa using hk
    rw [List.lookup_cons, hne, List.lookup_nil, Option.or_none]

theorem promise?_of_claim_new (h : b.claim key = (n, true, b')) (m : Nat) :
    b'.promise? m = if m = n then some .pending else b.promise? m := by
  obtain ⟨-, rfl, rfl⟩ := claim_new h
  unfold promise?
  rw [List.getElem?_append]
  split
  next hlt => rw [if_neg (by omega)]
  next hge =>
    split
    next he => simp [he]
    next hne =>
      rw [List.getElem?_eq_none (by simp; omega), List.getElem?_eq_none (by omega)]

/-! ## Settling and cancelling -/

@[simp] theorem length_settle (b : Builds) (n : Nat) (outcome : BuildOutcome) :
    (b.settle n outcome).promises.length = b.promises.length := List.length_set

@[simp] theorem length_cancel (b : Builds) (n : Nat) :
    (b.cancel n).promises.length = b.promises.length := List.length_set

/-- What is known of promises after one has been replaced. -/
theorem promise?_set (b : Builds) (n : Nat) (p : Promise) (m : Nat) :
    ({ b with promises := b.promises.set n p } : Builds).promise? m =
      if m = n then (b.promise? m).map fun _ => p else b.promise? m := by
  unfold promise?
  by_cases hm : m = n
  · rw [if_pos hm, hm, List.getElem?_set_self']
    rfl
  · rw [if_neg hm, List.getElem?_set_ne fun h => hm h.symm]

theorem promise?_settle (b : Builds) (n : Nat) (outcome : BuildOutcome) (m : Nat) :
    (b.settle n outcome).promise? m =
      if m = n then (b.promise? m).map fun _ => .settled outcome else b.promise? m :=
  b.promise?_set n (.settled outcome) m

theorem promise?_cancel (b : Builds) (n m : Nat) :
    (b.cancel n).promise? m =
      if m = n then (b.promise? m).map fun _ => .cancelled else b.promise? m :=
  b.promise?_set n .cancelled m

/-! ## Forgetting -/

theorem slot?_forget (b : Builds) (key other : BuildKey) :
    (b.forget key).slot? other = if other = key then none else b.slot? other := by
  unfold slot? forget
  induction b.slots with
  | nil => simp
  | cons slot slots ih =>
    obtain ⟨k, n⟩ := slot
    by_cases hk : k = key
    · rw [List.filter_cons_of_neg (by simpa using hk), ih]
      split
      next => rfl
      next hne =>
        have hother : (other == k) = false := by simpa [hk] using hne
        rw [List.lookup_cons, hother]
    · rw [List.filter_cons_of_pos (by simpa using hk), List.lookup_cons, List.lookup_cons, ih]
      by_cases ho : other = k
      · simp [ho, hk]
      · have hother : (other == k) = false := by simpa using ho
        rw [hother]

/-! ## Answers -/

/-- Arguments are handed out again as they are, and nothing else becomes arguments. -/
theorem reused_eq_ok_iff {description : String} {outcome : BuildOutcome} {args : List String} :
    reused description outcome = .ok args ↔ outcome = .ok args := by
  cases outcome with
  | ok args' => exact Iff.rfl
  | error f =>
    constructor
    · intro h
      cases f <;> cases h
    · intro h
      cases h

end Builds

end CompilerTest

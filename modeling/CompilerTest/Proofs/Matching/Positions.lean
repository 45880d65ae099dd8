import CompilerTest.Case.Matching
import Mathlib.Data.List.GetD
import Mathlib.Tactic.Common

/-!
# Positions of messages

Matching takes messages out of lists, so the position of a message changes while its identity does
not. A spot names a message by its position before anything was taken, and what is left of a list is
described by the positions that are kept.
-/

namespace CompilerTest

/-- Where a message stands before matching. -/
structure Spot where
  /-- Its line; nothing for the messages without a line. -/
  line : Option Nat
  /-- Its position among the messages of that line. -/
  index : Nat
  deriving DecidableEq

namespace Matching

/-! ## Buckets -/

/-- The messages on a line, or those without a line. -/
def bucket (s : Matching) : Option Nat → List Message
  | none => s.unknown
  | some n => s.lines.getD n []

/-- The state with other messages on a line, or without a line. -/
def setBucket (s : Matching) (line : Option Nat) (ms : List Message) : Matching :=
  match line with
  | none => { s with unknown := ms }
  | some n => { s with lines := s.lines.set n ms }

/-- The message at a spot. -/
def message? (s : Matching) (p : Spot) : Option Message := (s.bucket p.line)[p.index]?

@[simp] theorem bucket_none (s : Matching) : s.bucket none = s.unknown := rfl

theorem bucket_some (s : Matching) (n : Nat) : s.bucket (some n) = s.lines.getD n [] := rfl

/-- A bucket that is not empty belongs to a line that is there. -/
theorem lt_length_of_bucket {s : Matching} {n : Nat} (h : s.bucket (some n) ≠ []) :
    n < s.lines.length := by
  by_contra hn
  exact h (List.getD_eq_default _ _ (by omega))

theorem bucket_setBucket {s : Matching} {line : Option Nat} (h : s.bucket line ≠ [])
    (ms : List Message) (line' : Option Nat) :
    (s.setBucket line ms).bucket line' = if line' = line then ms else s.bucket line' := by
  cases line with
  | none => cases line' <;> simp [setBucket, bucket]
  | some n =>
    have hn := lt_length_of_bucket h
    cases line' with
    | none => simp [setBucket, bucket]
    | some n' =>
      by_cases hnn : n' = n
      · subst hnn; simp [setBucket, bucket, hn]
      · simp [setBucket, bucket, hnn, List.getElem?_set_ne (Ne.symm hnn)]

@[simp] theorem setBucket_errors (s : Matching) (line : Option Nat) (ms : List Message) :
    (s.setBucket line ms).errors = s.errors := by
  cases line <;> rfl

@[simp] theorem setBucket_length (s : Matching) (line : Option Nat) (ms : List Message) :
    (s.setBucket line ms).lines.length = s.lines.length := by
  cases line <;> simp [setBucket]

end Matching

/-! ## Kept positions -/

section KeepAt

variable {α : Type} {keep keep' : Nat → Bool} {l : List α}

/-- The items of a list whose positions pass a test, in order. -/
def keepAt (keep : Nat → Bool) (l : List α) : List α :=
  (l.zipIdx.filter fun x => keep x.2).map Prod.fst

theorem mem_keepAt {a : α} : a ∈ keepAt keep l ↔ ∃ i, l[i]? = some a ∧ keep i = true := by
  simp only [keepAt, List.mem_map, List.mem_filter, Prod.exists, exists_and_right, exists_eq_right,
    List.mem_zipIdx_iff_getElem?]

theorem keepAt_congr (h : ∀ i, keep i = keep' i) : keepAt keep l = keepAt keep' l := by
  rw [funext h]

@[simp] theorem keepAt_true : keepAt (fun _ => true) l = l := by
  have h : (l.zipIdx.filter fun _ => true) = l.zipIdx := List.filter_eq_self.2 (by simp)
  rw [keepAt, h, List.zipIdx_map_fst]

end KeepAt

end CompilerTest

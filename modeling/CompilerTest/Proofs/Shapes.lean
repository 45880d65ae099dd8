import CompilerTest.Json.Schema
import Mathlib.Tactic.Common

/-!
# What checks let through

One lemma for each way to build a check says which values pass it. A number that passes as an
integer is equal to a whole number, and comparing it is comparing that number.
-/

namespace CompilerTest

/-! ## Numbers -/

/-- Comparing a number without a fraction with a whole number. -/
theorem Double.below_iff_of_whole {x : Double} {k : Int} (h : x.whole? = some k) (n : Int) :
    x.below n = true ↔ k < n := by
  cases x with
  | nan => cases h
  | infinite negative => cases h
  | finite negative s e =>
    rw [whole?] at h
    split at h
    case isFalse => cases h
    case isTrue hwhole =>
      obtain rfl := Option.some.inj h
      by_cases he : e < 0
      · -- the significand is a multiple of the power of two that it is divided by
        have hmod : s % Nat.pow 2 (-e).toNat = 0 := by simpa [isWhole, he] using hwhole
        have hpos : (0 : Int) < Nat.pow 2 (-e).toNat := by
          exact_mod_cast Nat.pow_pos (show 0 < 2 by omega)
        have hs : ((s / Nat.pow 2 (-e).toNat : Nat) : Int) * Nat.pow 2 (-e).toNat = s := by
          rw [← Int.natCast_mul, Nat.div_mul_cancel (Nat.dvd_of_mod_eq_zero hmod)]
        simp only [below, if_pos he, decide_eq_true_eq]
        generalize s / Nat.pow 2 (-e).toNat = q at hs ⊢
        generalize Nat.pow 2 (-e).toNat = d at hs hpos ⊢
        rw [← hs]
        cases negative with
        | false => exact Int.mul_lt_mul_right hpos
        | true =>
          rw [if_pos rfl, if_pos rfl, ← Int.neg_mul]
          exact Int.mul_lt_mul_right hpos
      · cases negative <;> simp [below, he]

theorem Number.below_iff_of_whole {x : Number} {k : Int} (h : x.whole? = some k) (n : Int) :
    x.below n = true ↔ k < n := by
  cases x with
  | int i =>
    obtain rfl := Option.some.inj h
    exact decide_eq_true_iff
  | real x => exact Double.below_iff_of_whole h n

namespace Json

/-- The integers are the numbers that are equal to a whole number. -/
theorem isOf_integer_iff {v : Json} :
    v.isOf .integer = true ↔ ∃ x k, v = .number x ∧ x.whole? = some k := by
  cases v <;> simp [isOf, Option.isSome_iff_exists]

/-- The texts are the values that have a text. -/
theorem isOf_string_iff {v : Json} : v.isOf .string = true ↔ ∃ s, v.text? = some s := by
  cases v <;> simp [isOf, text?]

theorem isOf_boolean_iff {v : Json} : v.isOf .boolean = true ↔ ∃ b, v = .bool b := by
  cases v <;> simp [isOf]

theorem isOf_array_iff {v : Json} : v.isOf .array = true ↔ ∃ items, v = .array items := by
  cases v <;> simp [isOf]

theorem isOf_object_iff {v : Json} : v.isOf .object = true ↔ ∃ ms, v = .object ms := by
  cases v <;> simp [isOf]

namespace Check

variable {check : Check} {checks : List Check} {v : Json}

theorem all_eq_none_iff : all checks v = none ↔ ∀ check ∈ checks, check v = none :=
  List.findSome?_eq_none_iff

theorem within_eq_none_iff {part : String} : within part check v = none ↔ check v = none :=
  Option.map_eq_none_iff

theorem kind_eq_none_iff {kinds : List Kind} :
    kind kinds v = none ↔ ∃ k ∈ kinds, v.isOf k = true := by
  simp [kind]

theorem kind_singleton_eq_none_iff {k : Kind} : kind [k] v = none ↔ v.isOf k = true := by
  simp [kind]

/-- A value is one of some texts iff it is a text that is among them. -/
theorem oneOf_map_text_eq_none_iff {names : List String} :
    oneOf (names.map .text) v = none ↔ ∃ name ∈ names, v = .text name := by
  cases v <;> simp [oneOf, agrees]

theorem atLeast_eq_none_iff {n : Int} :
    atLeast n v = none ↔ ∀ x, v.number? = some x → x.below n = false := by
  unfold atLeast
  cases v.number? <;> simp

theorem each_eq_none_iff : each check v = none ↔ ∀ w ∈ v.items?.getD [], check w = none := by
  have hfrom (i : Nat) (items : List Json) :
      eachFrom check i items = none ↔ ∀ w ∈ items, check w = none := by
    induction items generalizing i with
    | nil => simp [eachFrom]
    | cons w items ih => simp [eachFrom, within_eq_none_iff, ih]
  exact hfrom 0 _

theorem required_eq_none_iff {names : List String} :
    required names v = none ↔
      (v.isOf .object = true → ∀ name ∈ names, v.has name = true) := by
  simp [required]

theorem member_eq_none_iff {name : String} :
    member name check v = none ↔ ∀ w, v.get? name = some w → check w = none := by
  unfold member
  cases v.get? name <;> simp [within_eq_none_iff]

theorem everyMember_eq_none_iff :
    everyMember check v = none ↔ ∀ m ∈ v.members, check m.2 = none := by
  simp [everyMember, within_eq_none_iff]

theorem closed_eq_none_iff {names : List String} :
    closed names v = none ↔ ∀ m ∈ v.members, m.1 ∈ names := by
  simp [closed]

/-- An object that is closed has no other members. -/
theorem mem_of_closed {names : List String} (h : closed names v = none) {name : String}
    (hname : v.has name = true) : name ∈ names := by
  obtain ⟨m, hm, hk⟩ := List.lookup_isSome_iff.1 hname
  rw [beq_iff_eq.1 hk]
  exact closed_eq_none_iff.1 h m hm

theorem either_eq_none_iff : either checks v = none ↔ ∃ check ∈ checks, check v = none := by
  simp [either]

end Check

end Json

end CompilerTest

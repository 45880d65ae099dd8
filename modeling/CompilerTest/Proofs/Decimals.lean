import CompilerTest.Decimal.Shortest
import Mathlib.Algebra.Order.Field.Power
import Mathlib.Data.Rat.Cast.Order
import Mathlib.Tactic.Positivity

/-!
# The texts of floating-point numbers

The text of a finite number has a point or an exponent in it, so it is never that of an integer
(`text_ne_toString`). A number that is read from a numeral is normal: it has all 53 bits of the
significand unless it is too small for that (`normal_ofDecimal`). So there is only one such number
for a power of two (`eq_finite_of_whole`), and only one text.
-/

namespace CompilerTest

namespace Decimal

/-! ## Characters -/

section Characters

variable {layout : Layout} {digits : List Char} {point e : Int}

theorem slash_not_mem_toDigits (n : Nat) : '/' ∉ Nat.toDigits 10 n := fun h =>
  absurd (Nat.isDigit_of_mem_toDigits (by decide) (by decide) h) (by decide)

theorem slash_not_mem_significant (m : Nat) (p : Int) : '/' ∉ (significant m p).1 := by
  intro h
  have hdrop := List.dropWhile_subset _ (List.mem_reverse.1 h)
  exact slash_not_mem_toDigits m (List.mem_reverse.1 hdrop)

theorem slash_not_mem_exponentText : '/' ∉ (exponentText e).toList := by
  rw [exponentText, String.toList_ofList]
  split_ifs <;> simp [slash_not_mem_toDigits]

theorem slash_not_mem_layOut (hdigits : '/' ∉ digits) :
    '/' ∉ (layOut layout digits point).toList := by
  have htake (l : List Char) (n : Nat) (h : '/' ∉ l) : '/' ∉ l.take n :=
    fun hmem => h (List.mem_of_mem_take hmem)
  have hdrop (l : List Char) (n : Nat) (h : '/' ∉ l) : '/' ∉ l.drop n :=
    fun hmem => h (List.mem_of_mem_drop hmem)
  have htail : '/' ∉ digits.tail := fun hmem => hdigits (List.mem_of_mem_tail hmem)
  have hpadded (n : Nat) : '/' ∉ digits ++ List.replicate n '0' := by simp [hdigits]
  unfold layOut
  dsimp only
  split_ifs <;> simp [htake, hdrop, htail, hpadded, hdigits, slash_not_mem_exponentText]

/-- A number is laid out with a point or with an exponent. -/
theorem point_or_exponent_mem_layOut :
    '.' ∈ (layOut layout digits point).toList ∨ 'e' ∈ (layOut layout digits point).toList := by
  unfold layOut exponentText
  dsimp only
  split_ifs <;> simp

end Characters

end Decimal

namespace Double

/-- A finite number has a text without slashes, but with a point or an exponent. -/
theorem exists_text_finite (negative : Bool) (s : Nat) (e : Int) :
    ∃ body, (finite negative s e).text = (if negative then "-" ++ body else body) ∧
      '/' ∉ body.toList ∧ ('.' ∈ body.toList ∨ 'e' ∈ body.toList) := by
  refine ⟨_, rfl, ?_⟩
  by_cases hzero : s = 0
  · rw [if_pos hzero]
    decide
  · rw [if_neg hzero]
    obtain ⟨m, p⟩ := Decimal.shortest s e
    have hdigits := Decimal.slash_not_mem_significant m p
    exact ⟨Decimal.slash_not_mem_layOut hdigits, Decimal.point_or_exponent_mem_layOut⟩

theorem slash_not_mem_text (x : Double) : '/' ∉ x.text.toList := by
  cases x with
  | nan => decide
  | infinite negative => cases negative <;> decide
  | finite negative s e =>
    obtain ⟨body, htext, hslash, -⟩ := exists_text_finite negative s e
    rw [htext]
    split_ifs <;> simp [hslash]

/-- No number that may have a fraction has the text of an integer. -/
theorem text_ne_toString (x : Double) (n : Nat) : x.text ≠ toString n := by
  intro h
  have hdigit : ∀ c ∈ x.text.toList, c.isDigit = true := by
    intro c hc
    rw [h] at hc
    exact Nat.isDigit_of_mem_toDigits (by decide) (by decide) (Nat.toList_repr ▸ hc)
  cases x with
  | nan => exact absurd (hdigit 'n' (by decide)) (by decide)
  | infinite negative => exact absurd (hdigit 'n' (by cases negative <;> decide)) (by decide)
  | finite negative s e =>
    obtain ⟨body, htext, -, hmark⟩ := exists_text_finite negative s e
    have hbody (c : Char) (hc : c ∈ body.toList) : c.isDigit = true := by
      refine hdigit c ?_
      rw [htext]
      split_ifs <;> simp [hc]
    rcases hmark with hpoint | hexponent
    · exact absurd (hbody '.' hpoint) (by decide)
    · exact absurd (hbody 'e' hexponent) (by decide)

/-! ## Normal numbers -/

/-- Whether a number has the form that the format gives it: all bits of the significand are used,
unless the exponent is the least one. -/
def Normal : Double → Prop
  | finite _ s e => s < 2 ^ 53 ∧ minExponent ≤ e ∧ (2 ^ 52 ≤ s ∨ e = minExponent)
  | _ => True

/-- The whole part of `num / den`, divided by `2 ^ q`. -/
def wholeScaled (num den : Nat) (q : Int) : Nat :=
  (if q < 0 then num * Nat.pow 2 (-q).toNat else num) /
    (if q < 0 then den else den * Nat.pow 2 q.toNat)

section Rounding

variable {num den k : Nat} {q : Int}

theorem wholeScaled_lt_iff (hden : 0 < den) :
    wholeScaled num den q < k ↔ (num : ℚ) / den < k * 2 ^ q := by
  have hden' : (0 : ℚ) < den := by exact_mod_cast hden
  unfold wholeScaled
  by_cases hq : q < 0
  · obtain ⟨m, rfl⟩ : ∃ m : Nat, q = -m := ⟨(-q).toNat, by omega⟩
    have hpow : (0 : ℚ) < 2 ^ m := by positivity
    rw [if_pos hq, if_pos hq, Nat.div_lt_iff_lt_mul hden, neg_neg, Int.toNat_natCast,
      div_lt_iff₀ hden', zpow_neg, zpow_natCast, mul_right_comm, ← div_eq_mul_inv,
      lt_div_iff₀ hpow]
    exact_mod_cast Iff.rfl
  · obtain ⟨m, rfl⟩ : ∃ m : Nat, q = m := ⟨q.toNat, by omega⟩
    have hpos : 0 < den * Nat.pow 2 m := Nat.mul_pos hden (Nat.pow_pos (by decide))
    rw [if_neg hq, if_neg hq, Int.toNat_natCast, Nat.div_lt_iff_lt_mul hpos, div_lt_iff₀ hden',
      zpow_natCast, mul_assoc, mul_comm ((2 : ℚ) ^ m)]
    exact_mod_cast Iff.rfl

theorem le_wholeScaled_iff (hden : 0 < den) :
    k ≤ wholeScaled num den q ↔ k * 2 ^ q ≤ (num : ℚ) / den := by
  rw [← not_lt, wholeScaled_lt_iff hden, not_lt]

theorem roundScaled_bounds (num den : Nat) (q : Int) :
    wholeScaled num den q ≤ roundScaled num den q ∧
      roundScaled num den q ≤ wholeScaled num den q + 1 := by
  unfold roundScaled
  dsimp only
  rw [wholeScaled]
  split_ifs <;> omega

/-- The quotient lies between two powers of two. -/
theorem quotient_bounds (hnum : num ≠ 0) (hden : den ≠ 0) :
    (2 : ℚ) ^ ((Nat.log2 num : Int) - (Nat.log2 den + 1 : Nat)) ≤ (num : ℚ) / den ∧
      (num : ℚ) / den < 2 ^ ((Nat.log2 num + 1 : Nat) - (Nat.log2 den : Int)) := by
  have hpos : (0 : ℚ) < den := by exact_mod_cast Nat.pos_of_ne_zero hden
  have hnumLow : (2 : ℚ) ^ Nat.log2 num ≤ num := by exact_mod_cast Nat.log2_self_le hnum
  have hnumHigh : (num : ℚ) < 2 ^ (Nat.log2 num + 1) := by exact_mod_cast Nat.lt_log2_self
  have hdenLow : (2 : ℚ) ^ Nat.log2 den ≤ den := by exact_mod_cast Nat.log2_self_le hden
  have hdenHigh : (den : ℚ) < 2 ^ (Nat.log2 den + 1) := by exact_mod_cast Nat.lt_log2_self
  rw [zpow_sub₀ two_ne_zero, zpow_sub₀ two_ne_zero, zpow_natCast, zpow_natCast, zpow_natCast,
    zpow_natCast]
  exact ⟨div_le_div₀ (by positivity) hnumLow hpos hdenHigh.le,
    div_lt_div₀ hnumHigh hdenLow (by positivity) (by positivity)⟩

theorem two_pow_mul_zpow (k : Nat) (e : Int) : ((2 ^ k : Nat) : ℚ) * 2 ^ e = 2 ^ (k + e) := by
  rw [zpow_add₀ two_ne_zero, zpow_natCast, Nat.cast_pow, Nat.cast_ofNat]

/-- The exponent leaves a whole part of at most 53 bits, and of no less if it is not the least
one. -/
theorem exponentFor_spec (hnum : num ≠ 0) (hden : den ≠ 0) :
    minExponent ≤ exponentFor num den ∧ wholeScaled num den (exponentFor num den) < 2 ^ 53 ∧
      (2 ^ 52 ≤ wholeScaled num den (exponentFor num den) ∨
        exponentFor num den = minExponent) := by
  have hpos := Nat.pos_of_ne_zero hden
  obtain ⟨hlow, hhigh⟩ := quotient_bounds hnum hden
  obtain ⟨q, hq⟩ : ∃ q : Int, q = Nat.log2 num - Nat.log2 den - 52 := ⟨_, rfl⟩
  have hexponent : exponentFor num den =
      max minExponent (if wholeScaled num den q < 2 ^ 52 then q - 1 else q) := by
    subst hq
    rfl
  -- before the least exponent comes in, the whole part has exactly 53 bits
  obtain ⟨r, hr, hrlow, hrhigh⟩ : ∃ r, exponentFor num den = max minExponent r ∧
      (2 : ℚ) ^ (52 + r) ≤ (num : ℚ) / den ∧ (num : ℚ) / den < 2 ^ (53 + r) := by
    by_cases hsmall : wholeScaled num den q < 2 ^ 52
    · refine ⟨q - 1, by rw [hexponent, if_pos hsmall], ?_, ?_⟩
      · convert hlow using 2
        omega
      · rw [wholeScaled_lt_iff hpos, two_pow_mul_zpow] at hsmall
        convert hsmall using 2
        omega
    · refine ⟨q, by rw [hexponent, if_neg hsmall], ?_, ?_⟩
      · rw [not_lt, le_wholeScaled_iff hpos, two_pow_mul_zpow] at hsmall
        exact hsmall
      · convert hhigh using 2
        omega
  rw [hr, wholeScaled_lt_iff hpos, le_wholeScaled_iff hpos, two_pow_mul_zpow, two_pow_mul_zpow]
  refine ⟨le_max_left _ _, hrhigh.trans_le ?_, ?_⟩
  · exact zpow_le_zpow_right₀ one_le_two (by simp)
  · rcases le_total r minExponent with hle | hle
    · exact .inr (max_eq_left hle)
    · rw [max_eq_right hle]
      exact .inl hrlow

theorem normal_ofRatio (negative : Bool) (hden : den ≠ 0) : (ofRatio negative num den).Normal := by
  unfold ofRatio
  by_cases hnum : num = 0
  · rw [if_pos hnum]
    exact ⟨by decide, le_rfl, .inr rfl⟩
  obtain ⟨hmin, hhigh, hlow⟩ := exponentFor_spec hnum hden
  obtain ⟨hge, hle⟩ := roundScaled_bounds num den (exponentFor num den)
  have hbits : Nat.pow 2 53 = 2 ^ 53 := rfl
  rw [if_neg hnum]
  by_cases hcarry : roundScaled num den (exponentFor num den) = Nat.pow 2 53
  · simp only [if_pos hcarry]
    split_ifs
    · trivial
    · exact ⟨by decide, by omega, .inl le_rfl⟩
  · simp only [if_neg hcarry]
    split_ifs
    · trivial
    · exact ⟨by omega, hmin, hlow.imp_left fun h => h.trans hge⟩

end Rounding

/-- A number that is read from a numeral is normal. -/
theorem normal_ofDecimal (negative : Bool) (digits : Nat) (exponent : Int) :
    (ofDecimal negative digits exponent).Normal := by
  have hzero : (zero negative).Normal := ⟨by decide, le_rfl, .inr rfl⟩
  unfold ofDecimal
  dsimp only
  split_ifs
  · exact hzero
  · trivial
  · exact normal_ofRatio negative (pow_ne_zero _ (by decide))
  · exact normal_ofRatio negative one_ne_zero

/-- There is one normal number for each power of two of the significand. -/
theorem eq_finite_of_whole {x : Double} (hx : x.Normal) {k : Nat} (hk : k < 52)
    (h : x.whole? = some (2 ^ k)) : x = .finite false (2 ^ 52) (k - 52) := by
  cases x with
  | nan => cases h
  | infinite negative => cases h
  | finite negative s e =>
    obtain ⟨hbits, hmin, hfull⟩ := hx
    rw [whole?] at h
    split_ifs at h with hwhole
    have hvalue : (if negative then -_ else _) = (2 ^ k : Int) := Option.some.inj h
    have hpos : (0 : Int) < 2 ^ k := by positivity
    -- the value is positive, so it has no sign
    cases negative with
    | true =>
      rw [if_pos rfl] at hvalue
      omega
    | false =>
      rw [if_neg Bool.false_ne_true] at hvalue
      have hvalue :
          (if e < 0 then s / Nat.pow 2 (-e).toNat else s * Nat.pow 2 e.toNat) = 2 ^ k := by
        exact_mod_cast hvalue
      by_cases he : e < 0
      · rw [if_pos he] at hvalue
        obtain ⟨m, rfl⟩ : ∃ m : Nat, e = -m := ⟨(-e).toNat, by omega⟩
        rw [isWhole, if_pos he, neg_neg, Int.toNat_natCast, beq_iff_eq] at hwhole
        rw [neg_neg, Int.toNat_natCast] at hvalue
        have hs : s = 2 ^ (k + m) := by
          rw [pow_add, ← hvalue]
          exact (Nat.div_mul_cancel (Nat.dvd_of_mod_eq_zero hwhole)).symm
        have hbelow : k + m < 53 := (Nat.pow_lt_pow_iff_right (by decide)).1 (hs ▸ hbits)
        have habove : 52 ≤ k + m := by
          rcases hfull with hfull | hleast
          · exact (Nat.pow_le_pow_iff_right (by decide)).1 (hs ▸ hfull)
          · rw [minExponent] at hleast
            omega
        obtain rfl : m = 52 - k := by omega
        rw [hs]
        congr 2
        · omega
        · omega
      · rw [if_neg he] at hvalue
        have hfull : 2 ^ 52 ≤ s := by
          rcases hfull with hfull | hleast
          · exact hfull
          · rw [minExponent] at hleast
            omega
        have hlarge : s ≤ 2 ^ k := by
          rw [← hvalue]
          exact Nat.le_mul_of_pos_right s (Nat.pow_pos (by decide))
        have hsmall : 2 ^ k < 2 ^ 52 := Nat.pow_lt_pow_right (by decide) hk
        omega

end Double

end CompilerTest

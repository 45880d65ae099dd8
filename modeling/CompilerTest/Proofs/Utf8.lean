import CompilerTest.Text.Bytes
import Mathlib.Tactic.Common

/-!
# Decoding

Decoding takes characters off a byte string one after the other. A step takes a character off iff
its encoding is there (`step_eq_some_iff`), so decoding is exact: a byte string is the text that it
encodes, if it encodes one (`text?_eq_some_iff`).
-/

namespace CompilerTest

namespace Bytes

open String (utf8EncodeChar)

variable {b lo hi : UInt8} {bytes rest after : Bytes} {c : Char} {cs : List Char}
  {acc fuel n v : Nat}

/-! ## Characters -/

/-- The bytes that stand for a code point. -/
inductive StandsFor (v : Nat) : Bytes → Prop where
  | one {a : UInt8} (hv : v ≤ 0x7f) (ha : a.toNat = v) : StandsFor v [a]
  | two {a b : UInt8} (hv : 0x80 ≤ v ∧ v ≤ 0x7ff) (ha : a.toNat = 0xc0 + v / 64)
    (hb : b.toNat = 0x80 + v % 64) : StandsFor v [a, b]
  | three {a b c : UInt8} (hv : 0x800 ≤ v ∧ v ≤ 0xffff) (ha : a.toNat = 0xe0 + v / 4096)
    (hb : b.toNat = 0x80 + v / 64 % 64) (hc : c.toNat = 0x80 + v % 64) : StandsFor v [a, b, c]
  | four {a b c d : UInt8} (hv : 0x10000 ≤ v ∧ v ≤ 0x10ffff) (ha : a.toNat = 0xf0 + v / 262144)
    (hb : b.toNat = 0x80 + v / 4096 % 64) (hc : c.toNat = 0x80 + v / 64 % 64)
    (hd : d.toNat = 0x80 + v % 64) : StandsFor v [a, b, c, d]

theorem char_ofNat_toNat (h : v.isValidChar) : (Char.ofNat v).toNat = v := by
  rw [Char.ofNat, dif_pos h]
  rfl

theorem char_bounds (c : Char) : c.toNat ≤ 0x10ffff ∧ (0xd7ff < c.toNat → 0xe000 ≤ c.toNat) := by
  have : c.toNat.isValidChar := c.valid
  unfold Nat.isValidChar at this
  omega

theorem standsFor_utf8EncodeChar (c : Char) : StandsFor c.toNat (utf8EncodeChar c) := by
  have hbound := (char_bounds c).1
  simp only [utf8EncodeChar, Char.toNat_val]
  split_ifs with hone htwo hthree
  · exact .one hone (by rw [UInt8.toNat_ofNat']; omega)
  · refine .two (by omega) ?_ ?_ <;> rw [UInt8.toNat_ofNat'] <;> omega
  · refine .three (by omega) ?_ ?_ ?_ <;> rw [UInt8.toNat_ofNat'] <;> omega
  · refine .four (by omega) ?_ ?_ ?_ ?_ <;> rw [UInt8.toNat_ofNat'] <;> omega

theorem StandsFor.unique (h : StandsFor v bytes) (h' : StandsFor v rest) : bytes = rest := by
  cases h <;> cases h' <;> simp [← UInt8.toNat_inj] <;> omega

/-- What the first byte of a character asks for. -/
theorem lead?_eq_some_iff : lead? b = some (n, lo, hi) ↔
    b.toNat < 0x80 ∧ (n, lo, hi) = (0, 0x80, 0xbf) ∨
    (0xc2 ≤ b.toNat ∧ b.toNat ≤ 0xdf) ∧ (n, lo, hi) = (1, 0x80, 0xbf) ∨
    (0xe0 ≤ b.toNat ∧ b.toNat ≤ 0xef) ∧ (n, lo, hi) =
      (2, if b.toNat = 0xe0 then 0xa0 else 0x80, if b.toNat = 0xed then 0x9f else 0xbf) ∨
    (0xf0 ≤ b.toNat ∧ b.toNat ≤ 0xf4) ∧ (n, lo, hi) =
      (3, if b.toNat = 0xf0 then 0x90 else 0x80, if b.toNat = 0xf4 then 0x8f else 0xbf) := by
  have hsame {x : UInt8} : b = x ↔ b.toNat = x.toNat := UInt8.toNat_inj.symm
  simp only [lead?, Bool.and_eq_true, decide_eq_true_eq, beq_iff_eq, UInt8.lt_iff_toNat_lt,
    UInt8.le_iff_toNat_le, hsame, UInt8.reduceToNat]
  split_ifs <;> grind

theorem continued_succ_eq_some_iff : continued acc (n + 1) lo hi rest = (some v, after) ↔
    ∃ b tail, rest = b :: tail ∧ lo.toNat ≤ b.toNat ∧ b.toNat ≤ hi.toNat ∧
      continued (acc * 64 + b.toNat % 64) n 0x80 0xbf tail = (some v, after) := by
  cases rest with
  | nil => simp [continued]
  | cons b rest =>
    simp only [continued, Bool.and_eq_true, decide_eq_true_eq, UInt8.le_iff_toNat_le]
    grind

theorem step_eq_some_iff_lead : step b rest = (some c, after) ↔
    ∃ n lo hi v, lead? b = some (n, lo, hi) ∧
      continued (leadBits b n) n lo hi rest = (some v, after) ∧ Char.ofNat v = c := by
  rw [step]
  rcases lead? b with _ | ⟨n, lo, hi⟩
  · simp
  · rcases hcontinued : continued (leadBits b n) n lo hi rest with ⟨_ | v, tail⟩ <;> grind

/-- The bytes that are read as a code point stand for it, and it is a character. -/
theorem standsFor_of_continued (hlead : lead? b = some (n, lo, hi))
    (h : continued (leadBits b n) n lo hi rest = (some v, after)) :
    v.isValidChar ∧ ∃ bytes, StandsFor v bytes ∧ b :: rest = bytes ++ after := by
  rcases lead?_eq_some_iff.1 hlead with ⟨hb, h'⟩ | ⟨hb, h'⟩ | ⟨hb, h'⟩ | ⟨hb, h'⟩ <;> cases h'
  all_goals
    simp only [continued_succ_eq_some_iff, continued, leadBits, Prod.mk.injEq, Option.some.injEq,
      apply_ite UInt8.toNat, UInt8.reduceToNat] at h
  · obtain ⟨hv, rfl⟩ := h
    exact ⟨.inl (by omega), [b], .one (by omega) hv, rfl⟩
  · obtain ⟨b₁, _, rfl, _, _, hv, rfl⟩ := h
    exact ⟨.inl (by omega), [b, b₁], .two (by omega) (by omega) (by omega), rfl⟩
  · obtain ⟨b₁, _, rfl, hlo, hhi, b₂, _, rfl, _, _, hv, rfl⟩ := h
    -- the bounds rule out shorter forms and surrogates
    have : 0x80 ≤ b₁.toNat ∧ b₁.toNat ≤ 0xbf ∧ (b.toNat = 0xe0 → 0xa0 ≤ b₁.toNat) ∧
        (b.toNat = 0xed → b₁.toNat ≤ 0x9f) := by split_ifs at hlo hhi <;> omega
    refine ⟨by unfold Nat.isValidChar; omega, [b, b₁, b₂], .three ?_ ?_ ?_ ?_, rfl⟩ <;> omega
  · obtain ⟨b₁, _, rfl, hlo, hhi, b₂, _, rfl, _, _, b₃, _, rfl, _, _, hv, rfl⟩ := h
    -- the bounds rule out shorter forms and what is past the last code point
    have : 0x80 ≤ b₁.toNat ∧ b₁.toNat ≤ 0xbf ∧ (b.toNat = 0xf0 → 0x90 ≤ b₁.toNat) ∧
        (b.toNat = 0xf4 → b₁.toNat ≤ 0x8f) := by split_ifs at hlo hhi <;> omega
    refine ⟨.inr (by omega), [b, b₁, b₂, b₃], .four ?_ ?_ ?_ ?_ ?_, rfl⟩ <;> omega

/-- The bytes that stand for a character are read as its code point. -/
theorem StandsFor.exists_continued (h : StandsFor c.toNat bytes) (after : Bytes) :
    ∃ b rest n lo hi, bytes ++ after = b :: rest ∧ lead? b = some (n, lo, hi) ∧
      continued (leadBits b n) n lo hi rest = (some c.toNat, after) := by
  have hchar := char_bounds c
  cases h with
  | one hv ha =>
    refine ⟨_, _, _, _, _, rfl, lead?_eq_some_iff.2 (.inl ⟨by omega, rfl⟩), ?_⟩
    simp only [continued, leadBits, Prod.mk.injEq, Option.some.injEq]
    exact ⟨by omega, rfl⟩
  | two hv ha hb =>
    refine ⟨_, _, _, _, _, rfl, lead?_eq_some_iff.2 (.inr (.inl ⟨by omega, rfl⟩)), ?_⟩
    simp only [continued_succ_eq_some_iff, UInt8.reduceToNat]
    refine ⟨_, _, rfl, by omega, by omega, ?_⟩
    simp only [continued, leadBits, Prod.mk.injEq, Option.some.injEq]
    exact ⟨by omega, rfl⟩
  | three hv ha hb hc =>
    refine ⟨_, _, _, _, _, rfl, lead?_eq_some_iff.2 (.inr (.inr (.inl ⟨by omega, rfl⟩))), ?_⟩
    simp only [continued_succ_eq_some_iff, apply_ite UInt8.toNat, UInt8.reduceToNat]
    refine ⟨_, _, rfl, ?_, ?_, _, _, rfl, ?_, ?_, ?_⟩
    · split_ifs <;> omega
    · split_ifs <;> omega
    · omega
    · omega
    · simp only [continued, leadBits, Prod.mk.injEq, Option.some.injEq]
      exact ⟨by omega, rfl⟩
  | four hv ha hb hc hd =>
    refine ⟨_, _, _, _, _, rfl, lead?_eq_some_iff.2 (.inr (.inr (.inr ⟨by omega, rfl⟩))), ?_⟩
    simp only [continued_succ_eq_some_iff, apply_ite UInt8.toNat, UInt8.reduceToNat]
    refine ⟨_, _, rfl, ?_, ?_, _, _, rfl, ?_, ?_, _, _, rfl, ?_, ?_, ?_⟩
    · split_ifs <;> omega
    · split_ifs <;> omega
    iterate 4 omega
    · simp only [continued, leadBits, Prod.mk.injEq, Option.some.injEq]
      exact ⟨by omega, rfl⟩

/-- **A step takes a character off iff its encoding is there.** -/
theorem step_eq_some_iff :
    step b rest = (some c, after) ↔ b :: rest = utf8EncodeChar c ++ after := by
  rw [step_eq_some_iff_lead]
  constructor
  · rintro ⟨n, lo, hi, v, hlead, hcontinued, rfl⟩
    obtain ⟨hchar, bytes, hbytes, heq⟩ := standsFor_of_continued hlead hcontinued
    have hencode := standsFor_utf8EncodeChar (Char.ofNat v)
    rw [char_ofNat_toNat hchar] at hencode
    rw [heq, hbytes.unique hencode]
  · intro heq
    obtain ⟨b', rest', n, lo, hi, heq', hlead, hcontinued⟩ :=
      (standsFor_utf8EncodeChar c).exists_continued after
    obtain ⟨rfl, rfl⟩ := List.cons.inj (heq.trans heq')
    exact ⟨n, lo, hi, _, hlead, hcontinued, Char.ofNat_toNat c⟩

/-! ## Texts -/

theorem mapM_id_eq_some_iff {l : List (Option Char)} : l.mapM id = some cs ↔ l = cs.map some := by
  induction l generalizing cs with
  | nil => cases cs <;> simp
  | cons o l ih =>
    cases o with
    | none => cases cs <;> simp
    | some c => cases cs <;> simp [Option.bind_eq_some_iff, ih, and_comm]

/-- A byte string is taken off as characters iff it is made of their encodings. -/
theorem characters_eq_map_some_iff (hfuel : bytes.length ≤ fuel) :
    characters fuel bytes = cs.map some ↔ bytes = cs.flatMap utf8EncodeChar := by
  induction fuel generalizing bytes cs with
  | zero =>
    obtain rfl := List.length_eq_zero_iff.1 (Nat.le_zero.1 hfuel)
    cases cs <;> simp [characters, String.utf8EncodeChar_ne_nil]
  | succ fuel ih =>
    match bytes, cs with
    | [], cs => cases cs <;> simp [characters, String.utf8EncodeChar_ne_nil]
    | b :: rest, [] => simp [characters]
    | b :: rest, c :: cs =>
      rw [List.flatMap_cons, ← step_eq_some_iff, List.map_cons, characters, List.cons.injEq,
        Prod.ext_iff]
      refine and_congr_right fun hc => ih ?_
      -- the step has taken a byte off
      have hstep := step_eq_some_iff.1 (Prod.ext hc rfl : step b rest = (some c, (step b rest).2))
      have hlength := congrArg List.length hstep
      have hpos := List.length_pos_iff.2 (String.utf8EncodeChar_ne_nil (c := c))
      rw [List.length_append, List.length_cons] at hlength
      rw [List.length_cons] at hfuel
      omega

/-- **Decoding is exact**: a byte string is read as a text iff it is its encoding. -/
theorem text?_eq_some_iff {text : String} : text? bytes = some text ↔ bytes = ofText text := by
  rw [ofText, ← characters_eq_map_some_iff (Nat.le_refl _), ← mapM_id_eq_some_iff, text?,
    Option.map_eq_some_iff]
  constructor
  · rintro ⟨cs, hcs, rfl⟩
    rwa [String.toList_ofList]
  · exact fun h => ⟨_, h, String.ofList_toList⟩

end Bytes

end CompilerTest

import CompilerTest.Proofs.Outcome
import CompilerTest.Regex.Replacement
import Mathlib.Data.List.TakeWhile

/-!
# Replacements that fit a pattern

A replacement is read as a template: plain bytes, and escapes, some of which refer to groups of the
pattern. Not every byte string is a template, and not every template fits every pattern. The grammar
of those that do is written down here over the bytes that are left to be read.

Main statement: a replacement is read to its end iff it fits the pattern (`template_ok_iff`).
-/

namespace CompilerTest

namespace Regex

/-! ## The grammar -/

/-- Whether a name in angle brackets refers to a group of a pattern: it is the name of a group, or
it is none that a group may have and spells the number of one. -/
def NamesGroup (r : Regex) (name : List Nat) : Prop :=
  if Unicode.isIdentifier name then
    ∃ number, r.names.lookup (textOf name) = some number ∧ number ≤ r.groups
  else ∃ number : Nat,
    Text.integer? (textOf name) = .ok number ∧ number < 1073741823 ∧ number ≤ r.groups

/-- Whether a backslash and this character, with what follows, begin with an escape that fits a
pattern, and what is left after the escape. -/
inductive Escape (r : Regex) : Nat → List Nat → List Nat → Prop where
  /-- The name or the number of a group in angle brackets. -/
  | named {name rest : List Nat} (hname : NamesGroup r name) (hclose : '>'.toNat ∉ name) :
    Escape r 'g'.toNat ('<'.toNat :: (name ++ '>'.toNat :: rest)) rest
  /-- A zero takes at most two octal digits. -/
  | zero {l : List Nat} :
    Escape r '0'.toNat l (l.drop ((l.take 2).takeWhile Unicode.isOctalDigit).length)
  /-- Three octal digits are a byte. -/
  | octal {c d e : Nat} {rest : List Nat} (hne : c ≠ '0'.toNat)
    (hc : Unicode.isOctalDigit c = true) (hd : Unicode.isOctalDigit d = true)
    (he : Unicode.isOctalDigit e = true) (hbyte : valueOf 8 [c, d, e] ≤ 0o377) :
    Escape r c (d :: e :: rest) rest
  /-- One digit is the number of a group. -/
  | digit {c : Nat} {l : List Nat} (hne : c ≠ '0'.toNat) (hc : Unicode.isAsciiDigit c = true)
    (hend : ∀ d ∈ l.head?, Unicode.isAsciiDigit d = false)
    (hgroup : valueOf 10 [c] ≤ r.groups) :
    Escape r c l l
  /-- Two digits are the number of a group, unless they begin an octal number. -/
  | digits {c d : Nat} {rest : List Nat} (hne : c ≠ '0'.toNat)
    (hc : Unicode.isAsciiDigit c = true) (hd : Unicode.isAsciiDigit d = true)
    (hend : Unicode.isOctalDigit c = true → Unicode.isOctalDigit d = true →
      ∀ e ∈ rest.head?, Unicode.isOctalDigit e = false)
    (hgroup : valueOf 10 [c, d] ≤ r.groups) :
    Escape r c (d :: rest) rest
  /-- A letter is a control character, and other characters mean themselves. -/
  | other {c : Nat} {l : List Nat} (hdigit : Unicode.isAsciiDigit c = false)
    (hother : (controlEscape? c).isSome ∨ Unicode.isAsciiLetter c = false) :
    Escape r c l l

/-- Whether bytes are a template that fits a pattern. -/
inductive Fits (r : Regex) : List Nat → Prop where
  | nil : Fits r []
  | plain {c : Nat} {rest : List Nat} (hc : c ≠ 0x5c) (hrest : Fits r rest) : Fits r (c :: rest)
  | escape {c : Nat} {l rest : List Nat} (hc : Escape r c l rest) (hrest : Fits r rest) :
    Fits r (0x5c :: c :: l)

variable {r : Regex} {α β : Type} {c : Cursor}

theorem Escape.length_le {b : Nat} {l rest : List Nat} (h : Escape r b l rest) :
    rest.length ≤ l.length := by
  cases h with
  | named => simp; omega
  | zero => simp
  | octal => simp; omega
  | digit => exact Nat.le_refl _
  | digits => simp
  | other => exact Nat.le_refl _

/-- No escape takes a backslash at the end. -/
theorem Escape.eq_backslash {b : Nat} {rest : List Nat} (h : Escape r b [0x5c] rest) :
    rest = [0x5c] := by
  cases h with
  | zero => rfl
  | digit => rfl
  | digits _ _ hd => exact absurd hd (by decide)
  | other => rfl

theorem Fits.ne_backslash {l : List Nat} (h : Fits r l) : l ≠ [0x5c] := by
  rintro rfl
  cases h with
  | plain hc hrest => exact hc rfl

/-- A replacement without a backslash fits every pattern. -/
theorem fits_of_not_mem {l : List Nat} (h : 0x5c ∉ l) : Fits r l := by
  induction l with
  | nil => exact .nil
  | cons b l ih =>
    rw [List.mem_cons, not_or] at h
    exact .plain (Ne.symm h.1) (ih h.2)

/-! ## Names hold no backslash -/

theorem mem_of_scanDigits {l rest : List Char} {digits found : List Nat} {joined : Bool}
    (h : Text.scanDigits digits joined l = some (found, rest)) {ch : Char} (hch : ch ∈ l) :
    ch = '_' ∨ (Unicode.digitValue? ch.toNat).isSome ∨ ch ∈ rest := by
  induction l generalizing digits joined with
  | nil => cases hch
  | cons b l ih =>
    rw [Text.scanDigits] at h
    by_cases hb : b = '_'
    · rw [if_pos hb] at h
      split at h
      · cases h
      · rcases List.mem_cons.1 hch with rfl | hch
        · exact .inl hb
        · exact ih h hch
    · rw [if_neg hb] at h
      cases hdigit : Unicode.digitValue? b.toNat with
      | some d =>
        rw [hdigit] at h
        rcases List.mem_cons.1 hch with rfl | hch
        · exact .inr (.inl (by rw [hdigit]; rfl))
        · exact ih h hch
      | none =>
        rw [hdigit] at h
        dsimp only at h
        split at h
        · cases h
        · cases h
          exact .inr (.inr hch)

theorem mem_dropWhile_or {p : Char → Bool} {l : List Char} {ch : Char} (h : ch ∈ l) :
    p ch = true ∨ ch ∈ l.dropWhile p := by
  rw [← List.takeWhile_append_dropWhile (p := p) (l := l), List.mem_append] at h
  exact h.imp_left List.mem_takeWhile_imp

theorem mem_strip_or {text : String} {ch : Char} (h : ch ∈ text.toList) :
    Unicode.isSpace ch.toNat = true ∨ ch ∈ (Text.strip text).toList := by
  rw [Text.strip, String.toList_ofList, List.mem_reverse]
  rcases mem_dropWhile_or (p := fun ch => Unicode.isSpace ch.toNat) h with hblank | h
  · exact .inl hblank
  · exact mem_dropWhile_or (p := fun ch => Unicode.isSpace ch.toNat) (List.mem_reverse.2 h)

theorem mem_takeSign_or {l : List Char} {ch : Char} (h : ch ∈ l) :
    ch = '-' ∨ ch = '+' ∨ ch ∈ (Text.takeSign l).2 := by
  unfold Text.takeSign
  split
  · exact (List.mem_cons.1 h).imp_right .inr
  · exact .inr (List.mem_cons.1 h)
  · exact .inr (.inr h)

/-- A numeral holds blanks, a sign, underscores and digits only. -/
theorem mem_of_integer? {text : String} {n : Int} (h : Text.integer? text = .ok n) {ch : Char}
    (hch : ch ∈ text.toList) : Unicode.isSpace ch.toNat = true ∨ ch = '-' ∨ ch = '+' ∨ ch = '_' ∨
      (Unicode.digitValue? ch.toNat).isSome := by
  rcases mem_strip_or hch with hblank | hch
  · exact .inl hblank
  refine .inr ((mem_takeSign_or hch).imp_right (Or.imp_right fun hch => ?_))
  unfold Text.integer? at h
  dsimp only at h
  generalize Text.takeSign (Text.strip text).toList = signed at h hch
  cases hscan : Text.scanDigits [] false signed.2 with
  | none =>
    rw [hscan] at h
    cases h
  | some scanned =>
    obtain ⟨digits, rest⟩ := scanned
    rw [hscan] at h
    dsimp only at h
    have hrest : rest = [] := by
      by_contra hne
      have hnot : (!rest.isEmpty) = true := by simpa using hne
      rw [if_pos hnot] at h
      split_ifs at h
    have hfound := mem_of_scanDigits hscan hch
    rw [hrest] at hfound
    simpa using hfound

theorem not_namesGroup_nil : ¬ NamesGroup r [] := by
  have hnone : (Text.integer? (textOf [])).toOption = none := by decide +kernel
  rw [NamesGroup, if_neg (by decide)]
  rintro ⟨number, hnumber, -⟩
  rw [hnumber] at hnone
  cases hnone

theorem not_mem_of_namesGroup {name : List Nat} (h : NamesGroup r name) : 0x5c ∉ name := by
  intro hmem
  rw [NamesGroup] at h
  by_cases hname : Unicode.isIdentifier name = true
  · cases name with
    | nil => cases hmem
    | cons b name =>
      rw [Unicode.isIdentifier, Bool.and_eq_true, List.all_eq_true] at hname
      obtain ⟨hstart, hcontinue⟩ := hname
      rcases List.mem_cons.1 hmem with rfl | hmem
      · exact absurd hstart (by decide +kernel)
      · exact absurd (hcontinue _ hmem) (by decide +kernel)
  · rw [if_neg hname] at h
    obtain ⟨number, hnumber, -⟩ := h
    have hch : '\\' ∈ (textOf name).toList := by
      rw [textOf, String.toList_ofList]
      exact List.mem_map.2 ⟨0x5c, hmem, rfl⟩
    have hno := mem_of_integer? hnumber hch
    revert hno
    decide +kernel

/-! ## Steps of reading -/

@[simp] theorem Cursor.rest_moved (c : Cursor) (position : Nat) (rest : List Nat) :
    (c.moved position rest).rest = rest := rfl

/-- Whether a step of reading succeeds, and how. -/
def Gives (x : Reading α) (c : Cursor) (Q : α → Cursor → Prop) : Prop :=
  ∃ a d, x c = .ok (a, d) ∧ Q a d

section Gives

variable {Q : α → Cursor → Prop}

theorem gives_pure {a : α} : Gives (pure a) c Q ↔ Q a c := by
  constructor
  · rintro ⟨_, _, ⟨⟩, h⟩
    exact h
  · exact fun h => ⟨a, c, rfl, h⟩

theorem gives_bind {x : Reading α} {f : α → Reading β} {Q : β → Cursor → Prop} :
    Gives (x >>= f) c Q ↔ Gives x c fun a d => Gives (f a) d Q := by
  constructor
  · rintro ⟨b, e, h, hQ⟩
    obtain ⟨⟨a, d⟩, hx, hf⟩ := bind_ok_iff.1 h
    exact ⟨a, d, hx, b, e, hf, hQ⟩
  · rintro ⟨a, d, hx, b, e, hf, hQ⟩
    exact ⟨b, e, bind_ok_iff.2 ⟨(a, d), hx, hf⟩, hQ⟩

theorem gives_congr {x : Reading α} {Q' : α → Cursor → Prop}
    (h : ∀ a d, x c = .ok (a, d) → (Q a d ↔ Q' a d)) : Gives x c Q ↔ Gives x c Q' :=
  exists₂_congr fun a d => and_congr_right fun hx => h a d hx

theorem not_gives_fail {defect : Defect} {back : Nat} :
    ¬ Gives (fail defect back : Reading α) c Q := by
  rintro ⟨_, _, ⟨⟩, _⟩

theorem not_gives_throw {e : Error} : ¬ Gives (throw e : Reading α) c Q := by
  rintro ⟨_, _, ⟨⟩, _⟩

theorem gives_get {Q : Cursor → Cursor → Prop} : Gives get c Q ↔ Q c c := gives_pure (a := c)

theorem gives_set {Q : PUnit → Cursor → Prop} {d : Cursor} : Gives (set d) c Q ↔ Q ⟨⟩ d := by
  constructor
  · rintro ⟨_, _, ⟨⟩, h⟩
    exact h
  · exact fun h => ⟨⟨⟩, d, rfl, h⟩

theorem gives_checked {d : Cursor} {Q : Cursor → Cursor → Prop} :
    Gives (liftM d.checked : Reading Cursor) c Q ↔ d.rest ≠ [0x5c] ∧ Q d c := by
  unfold Cursor.checked
  split
  · rename_i h
    simp only [h]
    constructor
    · rintro ⟨_, _, ⟨⟩, _⟩
    · rintro ⟨h, -⟩
      exact absurd rfl h
  · rename_i h
    constructor
    · rintro ⟨_, _, ⟨⟩, hQ⟩
      exact ⟨h, hQ⟩
    · exact fun hQ => ⟨d, c, rfl, hQ.2⟩

end Gives

section Tokens

variable {b : Nat} {l : List Nat} {Q : Option Token → Cursor → Prop}

theorem gives_peek_nil (hc : c.rest = []) : Gives peek c Q ↔ Q none c := by
  rw [peek, gives_bind, gives_get, hc]
  exact gives_pure

theorem gives_peek_escape (hc : c.rest = 0x5c :: b :: l) :
    Gives peek c Q ↔ Q (some (.escape b)) c := by
  rw [peek, gives_bind, gives_get, hc]
  exact gives_pure

theorem gives_peek_plain (hc : c.rest = b :: l) (hb : b ≠ 0x5c) :
    Gives peek c Q ↔ Q (some (.plain b)) c := by
  rw [peek, gives_bind, gives_get, hc]
  split
  · contradiction
  · rename_i h
    cases h
    exact absurd rfl hb
  · rename_i h
    cases h
    exact gives_pure

theorem gives_next_nil (hc : c.rest = []) : Gives next c Q ↔ Q none c := by
  rw [next, gives_bind, gives_peek_nil hc]
  exact gives_pure

/-- A token is taken unless it leaves a backslash with nothing after it. -/
theorem gives_next_plain (hc : c.rest = b :: l) (hb : b ≠ 0x5c) :
    Gives next c Q ↔ l ≠ [0x5c] ∧ Q (some (.plain b)) (c.moved (c.position + 1) l) := by
  rw [next, gives_bind, gives_peek_plain hc hb]
  dsimp only
  have hdrop : c.rest.drop (Token.plain b).size = l := by rw [hc]; rfl
  rw [gives_bind, gives_get, gives_bind, hdrop, gives_checked, gives_bind, gives_set, gives_pure]
  rfl

theorem gives_next_escape (hc : c.rest = 0x5c :: b :: l) :
    Gives next c Q ↔ l ≠ [0x5c] ∧ Q (some (.escape b)) (c.moved (c.position + 2) l) := by
  rw [next, gives_bind, gives_peek_escape hc]
  dsimp only
  have hdrop : c.rest.drop (Token.escape b).size = l := by rw [hc]; rfl
  rw [gives_bind, gives_get, gives_bind, hdrop, gives_checked, gives_bind, gives_set, gives_pure]
  rfl

end Tokens

/-- What is left begins with a plain character or an escape, unless nothing is left. -/
theorem rest_cases {l : List Nat} (hl : l ≠ [0x5c]) :
    l = [] ∨ (∃ b m, l = b :: m ∧ b ≠ 0x5c) ∨ ∃ b m, l = 0x5c :: b :: m := by
  match l with
  | [] => exact .inl rfl
  | [b] =>
    refine .inr (.inl ⟨b, [], rfl, ?_⟩)
    rintro rfl
    exact hl rfl
  | b :: d :: m =>
    by_cases hb : b = 0x5c
    · exact .inr (.inr ⟨d, m, by rw [hb]⟩)
    · exact .inr (.inl ⟨b, d :: m, rfl, hb⟩)

theorem gives_takeWhile {p : Nat → Bool} (hp : p 0x5c = false) (n : Nat) (hc : c.rest ≠ [0x5c])
    {Q : List Nat → Cursor → Prop} :
    Gives (takeWhile n p) c Q ↔
      c.rest.drop ((c.rest.take n).takeWhile p).length ≠ [0x5c] ∧
        Q ((c.rest.take n).takeWhile p)
          (c.moved (c.position + ((c.rest.take n).takeWhile p).length)
            (c.rest.drop ((c.rest.take n).takeWhile p).length)) := by
  induction n generalizing c Q with
  | zero =>
    rw [takeWhile, gives_pure]
    exact (and_iff_right hc).symm
  | succ n ih =>
    rw [takeWhile, gives_bind]
    rcases rest_cases hc with hrest | ⟨b, l, hrest, hb⟩ | ⟨b, l, hrest⟩
    · rw [gives_peek_nil hrest, gives_pure]
      have hkept : (c.rest.take (n + 1)).takeWhile p = [] := by rw [hrest]; rfl
      rw [hkept]
      exact (and_iff_right hc).symm
    · rw [gives_peek_plain hrest hb]
      dsimp only
      cases hpb : p b with
      | false =>
        rw [if_neg Bool.false_ne_true, gives_pure]
        have hkept : (c.rest.take (n + 1)).takeWhile p = [] := by
          rw [hrest, List.take_succ_cons, List.takeWhile_cons_of_neg (by rw [hpb]; decide)]
        rw [hkept]
        exact (and_iff_right hc).symm
      | true =>
        have htaken : (c.rest.take (n + 1)).takeWhile p = b :: (l.take n).takeWhile p := by
          rw [hrest, List.take_succ_cons, List.takeWhile_cons_of_pos hpb]
        rw [if_pos rfl, gives_bind, gives_next_plain hrest hb, htaken, List.length_cons, hrest,
          List.drop_succ_cons]
        by_cases hl : l = [0x5c]
        · have hnone : (l.take n).takeWhile p = [] := by
            rw [hl]
            cases n <;> simp [hp]
          rw [hnone]
          exact iff_of_false (fun h => h.1 hl) (fun h => h.1 hl)
        · rw [and_iff_right hl, gives_bind, ih (c := c.moved (c.position + 1) l) hl]
          simp only [gives_pure, Cursor.moved]
          rw [Nat.add_assoc, Nat.add_comm 1]
    · rw [gives_peek_escape hrest, gives_pure]
      have hkept : (c.rest.take (n + 1)).takeWhile p = [] := by
        rw [hrest, List.take_succ_cons, List.takeWhile_cons_of_neg (by rw [hp]; decide)]
      rw [hkept]
      exact (and_iff_right hc).symm

/-! ## Names in angle brackets -/

theorem gives_accept_of_head {ch : Char} {l : List Nat} (hne : ch.toNat ≠ 0x5c)
    (hc : c.rest = ch.toNat :: l) {Q : Bool → Cursor → Prop} :
    Gives (accept ch) c Q ↔ l ≠ [0x5c] ∧ Q true (c.moved (c.position + 1) l) := by
  rw [accept, nextIs, gives_bind, gives_bind, gives_peek_plain hc hne, gives_pure, beq_self_eq_true,
    if_pos rfl, gives_bind, gives_next_plain hc hne, gives_pure]

/-- Another character is not taken. -/
theorem gives_accept_of_other {ch : Char} (hc : c.rest ≠ [0x5c])
    (hhead : ∀ l, c.rest ≠ ch.toNat :: l) {Q : Bool → Cursor → Prop} :
    Gives (accept ch) c Q ↔ Q false c := by
  rw [accept, nextIs, gives_bind, gives_bind]
  rcases rest_cases hc with hrest | ⟨b, l, hrest, hb⟩ | ⟨b, l, hrest⟩
  · rw [gives_peek_nil hrest, gives_pure]
    exact gives_pure
  · have hne : b ≠ ch.toNat := by
      rintro rfl
      exact hhead l hrest
    rw [gives_peek_plain hrest hb, gives_pure, if_neg (by simpa using hne), gives_pure]
  · rw [gives_peek_escape hrest, gives_pure, if_neg (by simp), gives_pure]

/-- Whether an item occurs in a list, and what holds of the parts before and after it. -/
def Splits (x : Nat) (l : List Nat) (P : List Nat → List Nat → Prop) : Prop :=
  ∃ front back, l = front ++ x :: back ∧ x ∉ front ∧ P front back

section Splits

variable {x b : Nat} {m : List Nat} {P : List Nat → List Nat → Prop}

theorem not_splits_nil : ¬ Splits x [] P := by
  rintro ⟨front, back, h, -⟩
  simp at h

theorem splits_cons_self : Splits x (x :: m) P ↔ P [] m := by
  constructor
  · rintro ⟨front, back, h, hfront, hP⟩
    cases front with
    | nil =>
      cases h
      exact hP
    | cons d front =>
      cases h
      exact absurd List.mem_cons_self hfront
  · exact fun hP => ⟨[], m, rfl, List.not_mem_nil, hP⟩

theorem splits_cons_of_ne (hb : b ≠ x) :
    Splits x (b :: m) P ↔ Splits x m fun front back => P (b :: front) back := by
  constructor
  · rintro ⟨front, back, h, hfront, hP⟩
    cases front with
    | nil =>
      cases h
      exact absurd rfl hb
    | cons d front =>
      cases h
      exact ⟨front, back, rfl, fun hx => hfront (List.mem_cons_of_mem _ hx), hP⟩
  · rintro ⟨front, back, rfl, hfront, hP⟩
    refine ⟨b :: front, back, rfl, ?_, hP⟩
    rw [List.mem_cons, not_or]
    exact ⟨Ne.symm hb, hfront⟩

end Splits

section TakeUntil

variable {what : String} {fuel b : Nat} {acc m : List Nat} {Q : List Nat → Cursor → Prop}

theorem not_gives_takeUntil_nil (hrest : c.rest = []) :
    ¬ Gives (takeUntil '>' what (fuel + 1) acc) c Q := by
  rw [takeUntil, gives_bind, gives_next_nil hrest]
  dsimp only
  split
  · exact not_gives_fail
  · exact not_gives_fail

theorem gives_takeUntil_self (hrest : c.rest = '>'.toNat :: m) :
    Gives (takeUntil '>' what (fuel + 1) acc) c Q ↔
      m ≠ [0x5c] ∧ acc ≠ [] ∧ Q acc (c.moved (c.position + 1) m) := by
  have his : (Token.plain '>'.toNat).is '>' = true := by decide
  rw [takeUntil, gives_bind, gives_next_plain hrest (by decide)]
  refine and_congr_right fun _ => ?_
  dsimp only
  rw [if_pos his]
  cases acc with
  | nil => exact iff_of_false not_gives_fail fun h => h.1 rfl
  | cons d acc =>
    rw [if_neg (by simp), gives_pure]
    exact (and_iff_right (List.cons_ne_nil d acc)).symm

theorem gives_takeUntil_plain (hrest : c.rest = b :: m) (hb : b ≠ 0x5c) (hclose : b ≠ '>'.toNat) :
    Gives (takeUntil '>' what (fuel + 1) acc) c Q ↔ m ≠ [0x5c] ∧
      Gives (takeUntil '>' what fuel (acc ++ [b])) (c.moved (c.position + 1) m) Q := by
  have his : (Token.plain b).is '>' = false := by simpa [Token.is] using hclose
  rw [takeUntil, gives_bind, gives_next_plain hrest hb]
  refine and_congr_right fun _ => ?_
  dsimp only
  rw [his, if_neg Bool.false_ne_true]
  rfl

theorem gives_takeUntil_escape (hrest : c.rest = 0x5c :: b :: m) :
    Gives (takeUntil '>' what (fuel + 1) acc) c Q ↔ m ≠ [0x5c] ∧
      Gives (takeUntil '>' what fuel (acc ++ [0x5c, b])) (c.moved (c.position + 2) m) Q := by
  have his : (Token.escape b).is '>' = false := by simp [Token.is]
  rw [takeUntil, gives_bind, gives_next_escape hrest]
  refine and_congr_right fun _ => ?_
  dsimp only
  rw [his, if_neg Bool.false_ne_true]
  rfl

/-- A name ends at the first terminator, if it may hold no backslash. -/
theorem gives_takeUntil (hfuel : c.rest.length < fuel) (hc : c.rest ≠ [0x5c])
    (hQ : ∀ name d, Q name d → 0x5c ∉ name) :
    Gives (takeUntil '>' what fuel acc) c Q ↔
      Splits '>'.toNat c.rest fun name l =>
        l ≠ [0x5c] ∧ acc ++ name ≠ [] ∧
          Q (acc ++ name) (c.moved (c.position + (name.length + 1)) l) := by
  induction fuel generalizing c acc with
  | zero => exact absurd hfuel (Nat.not_lt_zero _)
  | succ fuel ih =>
    rcases rest_cases hc with hrest | ⟨b, m, hrest, hb⟩ | ⟨b, m, hrest⟩
    · rw [hrest]
      exact iff_of_false (not_gives_takeUntil_nil hrest) not_splits_nil
    · rw [hrest, List.length_cons] at hfuel
      by_cases hclose : b = '>'.toNat
      · rw [hclose] at hrest
        rw [gives_takeUntil_self hrest, hrest, splits_cons_self, List.append_nil]
        rfl
      · rw [gives_takeUntil_plain hrest hb hclose, hrest, splits_cons_of_ne hclose]
        by_cases hm : m = [0x5c]
        · refine iff_of_false (fun h => h.1 hm) ?_
          rw [hm, splits_cons_of_ne (by decide)]
          exact not_splits_nil
        · have hlength : m.length < fuel := Nat.lt_of_succ_lt_succ hfuel
          rw [and_iff_right hm, ih (c := c.moved (c.position + 1) m) hlength hm]
          simp only [List.append_assoc, List.singleton_append, List.length_cons, Cursor.moved,
            Nat.add_assoc, Nat.add_comm 1]
    · -- an escape would put a backslash into the name
      rw [hrest, List.length_cons, List.length_cons] at hfuel
      rw [gives_takeUntil_escape hrest, hrest, splits_cons_of_ne (by decide)]
      refine iff_of_false ?_ ?_
      · rintro ⟨hm, hgives⟩
        have hlength : m.length < fuel := by omega
        obtain ⟨name, l, -, -, -, -, hname⟩ :=
          (ih (c := c.moved (c.position + 2) m) hlength hm).1 hgives
        exact hQ _ _ hname (by simp)
      · rintro ⟨name, l, -, -, -, -, hname⟩
        exact hQ _ _ hname (by simp)

end TakeUntil

/-! ## Escapes -/

theorem gives_groupPiece {number back : Nat} {Q : Piece → Cursor → Prop} :
    Gives (groupPiece r number back) c Q ↔ number ≤ r.groups ∧ Q (.group number) c := by
  unfold groupPiece
  by_cases h : number > r.groups
  · rw [if_pos h]
    exact iff_of_false not_gives_fail fun hle => absurd hle.1 (Nat.not_le.2 h)
  · rw [if_neg h, gives_pure, and_iff_right (Nat.not_lt.1 h)]

theorem gives_pieceOfName {name : List Nat} {Q : List Nat → Prop} :
    Gives (pieceOfName r name) c (fun _ d => Q d.rest) ↔ NamesGroup r name ∧ Q c.rest := by
  unfold pieceOfName
  dsimp only
  rw [NamesGroup]
  by_cases hname : Unicode.isIdentifier name = true
  · rw [if_pos hname, if_pos hname]
    cases r.names.lookup (textOf name) with
    | none => exact iff_of_false not_gives_throw (by simp)
    | some number =>
      rw [gives_groupPiece]
      simp
  · rw [if_neg hname, if_neg hname]
    cases hn : Text.integer? (textOf name) with
    | error e => exact iff_of_false not_gives_fail (by simp)
    | ok n =>
      simp only [Except.ok.injEq]
      by_cases hneg : n < 0
      · rw [if_pos hneg]
        refine iff_of_false not_gives_fail ?_
        rintro ⟨⟨number, rfl, -⟩, -⟩
        omega
      · obtain ⟨k, rfl⟩ := Int.eq_ofNat_of_zero_le (Int.not_lt.1 hneg)
        rw [if_neg hneg, Int.toNat_natCast]
        by_cases hbig : k ≥ 1073741823
        · rw [if_pos hbig]
          refine iff_of_false not_gives_fail ?_
          rintro ⟨⟨number, hk, hlt, -⟩, -⟩
          omega
        · rw [if_neg hbig, gives_groupPiece]
          constructor
          · rintro ⟨hle, hQ⟩
            exact ⟨⟨k, rfl, by omega, hle⟩, hQ⟩
          · rintro ⟨⟨number, hk, -, hle⟩, hQ⟩
            exact ⟨by omega, hQ⟩

theorem escape_g_iff {l rest : List Nat} :
    Escape r 'g'.toNat l rest ↔ ∃ name, l = '<'.toNat :: (name ++ '>'.toNat :: rest) ∧
      '>'.toNat ∉ name ∧ NamesGroup r name := by
  constructor
  · intro h
    generalize hg : 'g'.toNat = g at h
    cases h with
    | named hname hclose => exact ⟨_, rfl, hclose, hname⟩
    | zero => exact absurd hg (by decide)
    | octal hne hc => subst hg; exact absurd hc (by decide)
    | digit hne hc => subst hg; exact absurd hc (by decide)
    | digits hne hc => subst hg; exact absurd hc (by decide)
    | other hdigit hother => subst hg; exact absurd hother (by decide)
  · rintro ⟨name, rfl, hclose, hname⟩
    exact .named hname hclose

theorem gives_takeName {what : String} (hc : c.rest ≠ [0x5c]) {Q : List Nat → Cursor → Prop}
    (hQ : ∀ name d, Q name d → 0x5c ∉ name) :
    Gives (takeName '>' what) c Q ↔
      Splits '>'.toNat c.rest fun name l =>
        l ≠ [0x5c] ∧ name ≠ [] ∧ Q name (c.moved (c.position + (name.length + 1)) l) := by
  rw [takeName, gives_bind, rounds, gives_bind, gives_get, gives_pure,
    gives_takeUntil (Nat.lt_succ_self _) hc hQ]
  rfl

theorem gives_namedPiece (hc : c.rest ≠ [0x5c]) {Q : List Nat → Prop} :
    Gives (namedPiece r) c (fun _ d => Q d.rest) ↔
      ∃ rest, Escape r 'g'.toNat c.rest rest ∧ rest ≠ [0x5c] ∧ Q rest := by
  unfold namedPiece
  rw [gives_bind]
  by_cases hopen : ∃ l, c.rest = '<'.toNat :: l
  · obtain ⟨l, hrest⟩ := hopen
    rw [gives_accept_of_head (by decide) hrest, hrest]
    dsimp only
    rw [Bool.not_true, if_neg Bool.false_ne_true, gives_bind,
      gives_congr fun name d _ => gives_pieceOfName (Q := Q)]
    have hbackslash (name : List Nat) (d : Cursor) (h : NamesGroup r name ∧ Q d.rest) :
        0x5c ∉ name := not_mem_of_namesGroup h.1
    constructor
    · rintro ⟨hl, hgives⟩
      obtain ⟨name, rest, hsplit, hclose, hrest', -, hname, hQ⟩ :=
        (gives_takeName (c := c.moved (c.position + 1) l) hl hbackslash).1 hgives
      refine ⟨rest, escape_g_iff.2 ⟨name, ?_, hclose, hname⟩, hrest', hQ⟩
      exact congrArg ('<'.toNat :: ·) hsplit
    · rintro ⟨rest, hescape, hrest', hQ⟩
      obtain ⟨name, hsplit, hclose, hname⟩ := escape_g_iff.1 hescape
      obtain ⟨-, rfl⟩ := List.cons.inj hsplit
      have hl : name ++ '>'.toNat :: rest ≠ [0x5c] := by
        cases name with
        | nil => simp
        | cons d name => simp
      have hne : name ≠ [] := by
        rintro rfl
        exact not_namesGroup_nil hname
      refine ⟨hl, (gives_takeName (c := c.moved (c.position + 1) _) hl hbackslash).2 ?_⟩
      exact ⟨name, rest, rfl, hclose, hrest', hne, hname, hQ⟩
  · rw [gives_accept_of_other hc (fun l hl => hopen ⟨l, hl⟩)]
    refine iff_of_false ?_ ?_
    · dsimp only
      rw [Bool.not_false, if_pos rfl, gives_bind]
      exact not_gives_fail
    · rintro ⟨rest, hescape, -⟩
      obtain ⟨name, hrest, -⟩ := escape_g_iff.1 hescape
      exact hopen ⟨_, hrest⟩

/-! ## Numbers -/

theorem head_of_takeWhile {p : Nat → Bool} (l : List Nat) :
    (∃ d m, l = d :: m ∧ p d = true ∧ (l.take 1).takeWhile p = [d]) ∨
      ((∀ d ∈ l.head?, p d = false) ∧ (l.take 1).takeWhile p = []) := by
  cases l with
  | nil => exact .inr ⟨by simp, rfl⟩
  | cons d m =>
    cases hp : p d with
    | true => exact .inl ⟨d, m, rfl, hp, by simp [hp]⟩
    | false => exact .inr ⟨by simpa using hp, by simp [hp]⟩

theorem isAsciiDigit_of_isOctalDigit {d : Nat} (h : Unicode.isOctalDigit d = true) :
    Unicode.isAsciiDigit d = true := by
  simp only [Unicode.isOctalDigit, Unicode.isAsciiDigit, Bool.and_eq_true, decide_eq_true_eq] at *
  omega

section Digits

variable {b d e : Nat} {l rest : List Nat}

/-- A digit with no digit after it is the number of a group. -/
theorem escape_digit_iff (hne : b ≠ '0'.toNat) (hb : Unicode.isAsciiDigit b = true)
    (hend : ∀ d ∈ l.head?, Unicode.isAsciiDigit d = false) :
    Escape r b l rest ↔ rest = l ∧ valueOf 10 [b] ≤ r.groups := by
  constructor
  · intro h
    cases h with
    | named => exact absurd hb (by decide)
    | zero => exact absurd rfl hne
    | octal _ _ hd =>
      have hd' := isAsciiDigit_of_isOctalDigit hd
      rw [hend _ rfl] at hd'
      cases hd'
    | digit _ _ _ hgroup => exact ⟨rfl, hgroup⟩
    | digits _ _ hd =>
      rw [hend _ rfl] at hd
      cases hd
    | other hdigit =>
      rw [hb] at hdigit
      cases hdigit
  · rintro ⟨rfl, hgroup⟩
    exact .digit hne hb hend hgroup

/-- Three octal digits are a byte. -/
theorem escape_octal_iff (hne : b ≠ '0'.toNat) (hb : Unicode.isOctalDigit b = true)
    (hd : Unicode.isOctalDigit d = true) (he : Unicode.isOctalDigit e = true) :
    Escape r b (d :: e :: l) rest ↔ rest = l ∧ valueOf 8 [b, d, e] ≤ 0o377 := by
  have hb' := isAsciiDigit_of_isOctalDigit hb
  have hd' := isAsciiDigit_of_isOctalDigit hd
  constructor
  · intro h
    generalize hl : d :: e :: l = digits at h
    cases h with
    | named => exact absurd hb (by decide)
    | zero => exact absurd rfl hne
    | octal _ _ _ _ hbyte =>
      cases hl
      exact ⟨rfl, hbyte⟩
    | digit _ _ hend =>
      cases hl
      rw [hend d rfl] at hd'
      cases hd'
    | digits _ _ _ hend =>
      cases hl
      rw [hend hb hd e rfl] at he
      cases he
    | other hdigit =>
      rw [hb'] at hdigit
      cases hdigit
  · rintro ⟨rfl, hbyte⟩
    exact .octal hne hb hd he hbyte

/-- Two digits are the number of a group otherwise. -/
theorem escape_digits_iff (hne : b ≠ '0'.toNat) (hb : Unicode.isAsciiDigit b = true)
    (hd : Unicode.isAsciiDigit d = true)
    (hend : Unicode.isOctalDigit b = true → Unicode.isOctalDigit d = true →
      ∀ e ∈ l.head?, Unicode.isOctalDigit e = false) :
    Escape r b (d :: l) rest ↔ rest = l ∧ valueOf 10 [b, d] ≤ r.groups := by
  constructor
  · intro h
    cases h with
    | named => exact absurd hb (by decide)
    | zero => exact absurd rfl hne
    | octal _ hc hd he =>
      rw [hend hc hd _ rfl] at he
      cases he
    | digit _ _ hend =>
      rw [hend d rfl] at hd
      cases hd
    | digits _ _ _ _ hgroup => exact ⟨rfl, hgroup⟩
    | other hdigit =>
      rw [hb] at hdigit
      cases hdigit
  · rintro ⟨rfl, hgroup⟩
    exact .digits hne hb hd hend hgroup

end Digits

theorem gives_octalValue {ds : List Nat} {Q : Nat → Cursor → Prop} :
    Gives (octalValue ds) c Q ↔ valueOf 8 ds ≤ 0o377 ∧ Q (valueOf 8 ds) c := by
  unfold octalValue
  dsimp only
  by_cases h : valueOf 8 ds > 0o377
  · rw [if_pos h]
    exact iff_of_false not_gives_fail fun hle => absurd hle.1 (Nat.not_le.2 h)
  · rw [if_neg h, gives_pure, and_iff_right (Nat.not_lt.1 h)]

/-- Whether an escape with one way to go on can be read. -/
theorem exists_escape_iff {b : Nat} {l m : List Nat} {P : Prop} {Q : List Nat → Prop}
    (h : ∀ rest, Escape r b l rest ↔ rest = m ∧ P) :
    (∃ rest, Escape r b l rest ∧ rest ≠ [0x5c] ∧ Q rest) ↔ m ≠ [0x5c] ∧ P ∧ Q m := by
  simp only [h]
  constructor
  · rintro ⟨rest, ⟨rfl, hP⟩, hne, hQ⟩
    exact ⟨hne, hP, hQ⟩
  · rintro ⟨hne, hP, hQ⟩
    exact ⟨m, ⟨rfl, hP⟩, hne, hQ⟩

theorem gives_digitPiece {b : Nat} (hne : b ≠ '0'.toNat) (hb : Unicode.isAsciiDigit b = true)
    (hc : c.rest ≠ [0x5c]) {Q : List Nat → Prop} :
    Gives (digitPiece r b) c (fun _ d => Q d.rest) ↔
      ∃ rest, Escape r b c.rest rest ∧ rest ≠ [0x5c] ∧ Q rest := by
  unfold digitPiece
  rw [gives_bind, gives_takeWhile (by decide) 1 hc]
  dsimp only
  rcases head_of_takeWhile (p := Unicode.isAsciiDigit) c.rest with
    ⟨d, m, hrest, hd, htaken⟩ | ⟨hend, htaken⟩
  · rw [htaken, hrest]
    cases hoctal : Unicode.isOctalDigit b && Unicode.isOctalDigit d with
    | false =>
      rw [exists_escape_iff fun rest => escape_digits_iff hne hb hd fun hb' hd' => by
        rw [hb', hd'] at hoctal
        cases hoctal]
      simp only [List.isEmpty_cons, Bool.not_false, Bool.and_true, List.all_cons, List.all_nil,
        hoctal, Bool.false_eq_true, if_false, gives_bind, gives_pure, List.isEmpty_nil, if_true,
        gives_groupPiece]
      rfl
    | true =>
      obtain ⟨hb', hd'⟩ := Bool.and_eq_true_iff.1 hoctal
      by_cases hm : m = [0x5c]
      · refine iff_of_false (fun h => h.1 hm) ?_
        rintro ⟨rest, hescape, hrest', -⟩
        have hend : Unicode.isOctalDigit b = true → Unicode.isOctalDigit d = true →
            ∀ e ∈ m.head?, Unicode.isOctalDigit e = false := by
          rintro - - e he
          rw [hm] at he
          cases he
          decide
        exact hrest' (((escape_digits_iff hne hb hd hend).1 hescape).1.trans hm)
      simp only [List.isEmpty_cons, Bool.not_false, Bool.and_true, List.all_cons, List.all_nil,
        hoctal, if_true, gives_bind, List.length_singleton, List.drop_succ_cons, List.drop_zero]
      rw [and_iff_right hm, gives_takeWhile (by decide) 1 (by rwa [Cursor.rest_moved]),
        Cursor.rest_moved]
      rcases head_of_takeWhile (p := Unicode.isOctalDigit) m with
        ⟨e, l, rfl, he, hthird⟩ | ⟨hend, hthird⟩
      · rw [exists_escape_iff fun rest => escape_octal_iff hne hb' hd' he, hthird]
        simp only [List.isEmpty_cons, Bool.false_eq_true, if_false, gives_bind, gives_octalValue,
          gives_pure]
        rfl
      · rw [exists_escape_iff fun rest => escape_digits_iff hne hb hd fun _ _ => hend, hthird]
        simp only [List.isEmpty_nil, if_true, gives_groupPiece]
        rfl
  · rw [exists_escape_iff fun rest => escape_digit_iff hne hb hend, htaken]
    simp only [List.isEmpty_nil, Bool.not_true, Bool.and_false, Bool.false_and, Bool.false_eq_true,
      if_false, gives_bind, gives_pure, if_true, gives_groupPiece]
    rfl

/-! ## Templates -/

theorem escape_zero_iff {l rest : List Nat} :
    Escape r '0'.toNat l rest ↔
      rest = l.drop ((l.take 2).takeWhile Unicode.isOctalDigit).length := by
  constructor
  · intro h
    generalize hz : '0'.toNat = z at h
    cases h with
    | named => exact absurd hz (by decide)
    | zero => rfl
    | octal hne => exact absurd hz.symm hne
    | digit hne => exact absurd hz.symm hne
    | digits hne => exact absurd hz.symm hne
    | other hdigit =>
      subst hz
      exact absurd hdigit (by decide)
  · rintro rfl
    exact .zero

theorem escape_other_iff {b : Nat} {l rest : List Nat} (hg : b ≠ 'g'.toNat)
    (hb : Unicode.isAsciiDigit b = false) :
    Escape r b l rest ↔
      rest = l ∧ ((controlEscape? b).isSome ∨ Unicode.isAsciiLetter b = false) := by
  constructor
  · intro h
    cases h with
    | named => exact absurd rfl hg
    | zero => exact absurd hb (by decide)
    | octal _ hc =>
      rw [isAsciiDigit_of_isOctalDigit hc] at hb
      cases hb
    | digit _ hc =>
      rw [hc] at hb
      cases hb
    | digits _ hc =>
      rw [hc] at hb
      cases hb
    | other _ hother => exact ⟨rfl, hother⟩
  · rintro ⟨rfl, hother⟩
    exact .other hb hother

theorem gives_escapedPieces {b : Nat} (hc : c.rest ≠ [0x5c]) {Q : List Nat → Prop} :
    Gives (escapedPieces r b) c (fun _ d => Q d.rest) ↔
      ∃ rest, Escape r b c.rest rest ∧ rest ≠ [0x5c] ∧ Q rest := by
  unfold escapedPieces
  by_cases hg : b = 'g'.toNat
  · rw [if_pos hg, gives_bind, hg]
    simp only [gives_pure]
    exact gives_namedPiece hc
  by_cases hzero : b = '0'.toNat
  · rw [if_neg hg, if_pos hzero, gives_bind, gives_takeWhile (by decide) 2 hc, gives_pure, hzero]
    simp only [escape_zero_iff, exists_eq_left]
    rfl
  rw [if_neg hg, if_neg hzero]
  by_cases hdigit : Unicode.isAsciiDigit b = true
  · rw [if_pos hdigit, gives_bind]
    simp only [gives_pure]
    exact gives_digitPiece hzero hdigit hc
  rw [if_neg hdigit,
    exists_escape_iff fun rest => escape_other_iff hg (Bool.eq_false_iff.2 hdigit),
    and_iff_right hc]
  cases controlEscape? b with
  | some code =>
    rw [gives_pure]
    simp
  | none =>
    dsimp only
    cases Unicode.isAsciiLetter b with
    | true =>
      rw [if_pos rfl]
      exact iff_of_false not_gives_fail (by simp)
    | false =>
      rw [if_neg Bool.false_ne_true, gives_pure]
      simp

/-- What is left once an escape has been read. -/
theorem escape_of_escapedPieces {b : Nat} {pieces : List Piece} {d : Cursor}
    (hc : c.rest ≠ [0x5c]) (h : escapedPieces r b c = .ok (pieces, d)) :
    Escape r b c.rest d.rest ∧ d.rest ≠ [0x5c] := by
  have hgives : Gives (escapedPieces r b) c fun _ e => e.rest = d.rest := ⟨pieces, d, h, rfl⟩
  obtain ⟨rest, hescape, hne, heq⟩ := (gives_escapedPieces (Q := (· = d.rest)) hc).1 hgives
  rw [heq] at hescape hne
  exact ⟨hescape, hne⟩

theorem fits_plain_iff {b : Nat} {l : List Nat} (hb : b ≠ 0x5c) : Fits r (b :: l) ↔ Fits r l := by
  constructor
  · intro h
    cases h with
    | plain _ hrest => exact hrest
    | escape => exact absurd rfl hb
  · exact .plain hb

theorem fits_escape_iff {b : Nat} {l : List Nat} :
    Fits r (0x5c :: b :: l) ↔ ∃ rest, Escape r b l rest ∧ Fits r rest := by
  constructor
  · intro h
    cases h with
    | plain hb _ => exact absurd rfl hb
    | escape hescape hrest => exact ⟨_, hescape, hrest⟩
  · rintro ⟨rest, hescape, hrest⟩
    exact .escape hescape hrest

/-- The parts of a template are read to its end iff it fits the pattern. -/
theorem gives_readPieces {fuel : Nat} (hfuel : c.rest.length < fuel) (hc : c.rest ≠ [0x5c]) :
    Gives (readPieces r fuel) c (fun _ _ => True) ↔ Fits r c.rest := by
  induction fuel generalizing c with
  | zero => exact absurd hfuel (Nat.not_lt_zero _)
  | succ fuel ih =>
    rw [readPieces, gives_bind]
    rcases rest_cases hc with hrest | ⟨b, l, hrest, hb⟩ | ⟨b, l, hrest⟩
    · rw [gives_next_nil hrest, gives_pure, hrest]
      exact iff_of_true trivial .nil
    · rw [hrest, List.length_cons] at hfuel
      have hlength : l.length < fuel := Nat.lt_of_succ_lt_succ hfuel
      rw [gives_next_plain hrest hb, hrest, fits_plain_iff hb]
      dsimp only
      rw [gives_bind]
      simp only [gives_pure]
      constructor
      · rintro ⟨hl, hgives⟩
        exact (ih (c := c.moved (c.position + 1) l) hlength hl).1 hgives
      · intro h
        exact ⟨h.ne_backslash,
          (ih (c := c.moved (c.position + 1) l) hlength h.ne_backslash).2 h⟩
    · rw [hrest, List.length_cons, List.length_cons] at hfuel
      rw [gives_next_escape hrest, hrest, fits_escape_iff]
      dsimp only
      by_cases hl : l = [0x5c]
      · refine iff_of_false (fun h => h.1 hl) ?_
        rintro ⟨rest, hescape, hfits⟩
        rw [hl] at hescape
        exact hfits.ne_backslash hescape.eq_backslash
      have hafter {pieces : List Piece} {d : Cursor}
          (h : escapedPieces r b (c.moved (c.position + 2) l) = .ok (pieces, d)) :
          Gives (readPieces r fuel) d (fun _ _ => True) ↔ Fits r d.rest := by
        obtain ⟨hescape, hd⟩ := escape_of_escapedPieces hl h
        have hle : d.rest.length ≤ l.length := hescape.length_le
        exact ih (by omega) hd
      rw [and_iff_right hl, gives_bind, gives_congr fun pieces d h => by
        rw [gives_bind, gives_congr fun _ _ _ => gives_pure, hafter h],
        gives_escapedPieces (Q := Fits r) hl]
      refine exists_congr fun rest => and_congr_right fun _ => ?_
      exact and_iff_right_of_imp Fits.ne_backslash

/-- **A replacement is read to its end iff it fits the pattern.** -/
theorem template_ok_iff {replacement : Bytes} :
    (∃ pieces, template r replacement = .ok pieces) ↔ Fits r (replacement.map UInt8.toNat) := by
  unfold template
  dsimp only
  by_cases hmem : 0x5c ∈ replacement.map UInt8.toNat
  · rw [if_neg (by simpa using hmem)]
    generalize replacement.map UInt8.toNat = codes
    generalize hstart : Cursor.mk false codes 0 codes [] [] [] none [] = start
    have hrest : start.rest = codes := by rw [← hstart]
    rw [← hrest]
    by_cases hcodes : start.rest = [0x5c]
    · refine iff_of_false ?_ fun h => h.ne_backslash hcodes
      rw [Cursor.checked, if_pos hcodes]
      rintro ⟨pieces, ⟨⟩⟩
    · rw [Cursor.checked, if_neg hcodes, ← gives_readPieces (Nat.lt_succ_self _) hcodes]
      constructor
      · rintro ⟨pieces, h⟩
        obtain ⟨_, ⟨⟩, h⟩ := bind_ok_iff.1 h
        obtain ⟨⟨found, d⟩, hread, -⟩ := bind_ok_iff.1 h
        exact ⟨found, d, hread, trivial⟩
      · rintro ⟨found, d, hread, -⟩
        exact ⟨found, bind_ok_iff.2 ⟨start, rfl, bind_ok_iff.2 ⟨(found, d), hread, rfl⟩⟩⟩
  · rw [if_pos (by simpa using hmem)]
    exact iff_of_true ⟨_, rfl⟩ (fits_of_not_mem hmem)

end Regex

end CompilerTest

import CompilerTest.Diagnostics.Decode
import CompilerTest.Proofs.Outcome
import Mathlib.Data.List.Induction
import Mathlib.Tactic.Common

/-!
# Decoding line by line

Decoding handles one line of output after the other and adds what it finds to what there is. Main
statement: decoding two parts of an output, the first of which ends with a line feed, gives together
what decoding the whole gives, and of an output that is decoded its lines are shown or, for those
that hold diagnostics, their rendered texts (`decode_lineByLine`).
-/

namespace CompilerTest

/-! ## Lines of byte strings -/

namespace Bytes

/-- Every byte is in a line. -/
theorem flatten_linesFrom (line bytes : Bytes) :
    (linesFrom line bytes).flatten = line.reverse ++ bytes := by
  fun_induction linesFrom line bytes with
  | case1 line h => simpa using h
  | case2 line h => simp
  | case3 line rest ih => simp [ih]
  | case4 line b rest _ h ih => simp [ih]
  | case5 line b rest _ h ih => simp [ih]

theorem flatten_lines (bytes : Bytes) : bytes.lines.flatten = bytes := flatten_linesFrom [] bytes

/-- A byte that does not begin the terminator of two bytes. -/
theorem linesFrom_cons {b : UInt8} {rest : Bytes} (line : Bytes)
    (h : b = 0x0d → rest.head? ≠ some 0x0a) :
    linesFrom line (b :: rest) =
      if b == 0x0a || b == 0x0d then (b :: line).reverse :: linesFrom [] rest
      else linesFrom (b :: line) rest := by
  rw [linesFrom]
  rintro rest' rfl rfl
  exact h rfl rfl

/-- What comes after a line feed begins a line. -/
theorem linesFrom_append (line a b : Bytes) (h : a.getLast? = some 0x0a) :
    linesFrom line (a ++ b) = linesFrom line a ++ linesFrom [] b := by
  fun_induction linesFrom line a with
  | case1 => cases h
  | case2 => cases h
  | case3 line rest ih =>
    rw [List.cons_append, List.cons_append, linesFrom, List.cons_append]
    congr 1
    cases rest with
    | nil => simp [linesFrom]
    | cons c rest => exact ih (by simpa [List.getLast?_cons_cons] using h)
  | case4 line c rest hcrlf hend ih =>
    cases rest with
    | nil =>
      obtain rfl : c = 0x0a := by simpa using h
      rw [List.cons_append, linesFrom_cons line fun h => absurd h (by decide)]
      simp [linesFrom]
    | cons d rest =>
      rw [List.cons_append, linesFrom_cons line fun hc hd => ?_, if_pos hend, List.cons_append]
      · congr 1
        exact ih (by simpa [List.getLast?_cons_cons] using h)
      · obtain rfl : d = 0x0a := by simpa using hd
        exact hcrlf rest hc rfl
  | case5 line c rest hcrlf hend ih =>
    cases rest with
    | nil =>
      obtain rfl : c = 0x0a := by simpa using h
      exact absurd rfl hend
    | cons d rest =>
      rw [List.cons_append, linesFrom_cons line fun hc hd => ?_, if_neg hend]
      · exact ih (by simpa [List.getLast?_cons_cons] using h)
      · obtain rfl : d = 0x0a := by simpa using hd
        exact hcrlf rest hc rfl

theorem lines_append {a b : Bytes} (h : a = [] ∨ a.getLast? = some 0x0a) :
    (a ++ b).lines = a.lines ++ b.lines := by
  rcases h with rfl | h
  · rfl
  · exact linesFrom_append [] a b h

end Bytes

namespace Diagnostics

/-! ## Findings together -/

/-- The buckets of two lists of them, line by line. -/
def mergeLines : List (List Message) → List (List Message) → List (List Message)
  | [], ys => ys
  | x :: xs, [] => x :: xs
  | x :: xs, y :: ys => (x ++ y) :: mergeLines xs ys

@[simp] theorem mergeLines_nil (xs : List (List Message)) : mergeLines xs [] = xs := by
  cases xs <;> rfl

theorem getD_mergeLines (xs ys : List (List Message)) (n : Nat) :
    (mergeLines xs ys).getD n [] = xs.getD n [] ++ ys.getD n [] := by
  fun_induction mergeLines xs ys generalizing n with
  | case1 ys => simp
  | case2 x xs => simp
  | case3 x xs y ys ih =>
    cases n with
    | zero => simp
    | succ n => simpa using ih n

theorem length_mergeLines (xs ys : List (List Message)) :
    (mergeLines xs ys).length = max xs.length ys.length := by
  fun_induction mergeLines xs ys with
  | case1 ys => simp
  | case2 x xs => simp
  | case3 x xs y ys ih => simp [ih]

theorem addAt_mergeLines (m : Message) (n : Nat) (xs ys : List (List Message)) :
    addAt m n (mergeLines xs ys) = mergeLines xs (addAt m n ys) := by
  fun_induction addAt m n ys generalizing xs with
  | case1 => cases xs <;> simp [mergeLines, addAt]
  | case2 bucket rest => cases xs <;> simp [mergeLines, addAt]
  | case3 n ih =>
    cases xs with
    | nil => simp [mergeLines, addAt]
    | cons x xs => simpa [mergeLines, addAt] using ih xs
  | case4 n bucket rest ih =>
    cases xs with
    | nil => simp [mergeLines, addAt]
    | cons x xs => simpa [mergeLines, addAt] using ih xs

/-- What has been found in two parts of an output. -/
def Decoding.append (a b : Decoding) : Decoding where
  diagnostics := {
    rendered := a.diagnostics.rendered ++ b.diagnostics.rendered
    lines := mergeLines a.diagnostics.lines b.diagnostics.lines
    unknown := a.diagnostics.unknown ++ b.diagnostics.unknown }
  warnings := a.warnings ++ b.warnings

/-- Changes to findings that may as well be made after adding a message. -/
def Unnoticed (f : Decoding → Decoding) : Prop :=
  ∀ line payload d, addOwn line payload (f d) = f (addOwn line payload d)

theorem unnoticed_append (a : Decoding) : Unnoticed a.append := by
  intro line payload d
  unfold addOwn Decoding.append
  simp only
  cases Level.ofText? ((payload.get? "level").getD (.text "")).asText with
  | none => simp
  | some level =>
    unfold push
    rcases line with - | n
    · simp
    · dsimp only
      split_ifs
      · simp
      · simp [addAt_mergeLines]

theorem unnoticed_rendered (bytes : Bytes) : Unnoticed fun d =>
    { d with diagnostics := { d.diagnostics with rendered := bytes } } := by
  intro line payload d
  unfold addOwn
  simp only
  cases Level.ofText? ((payload.get? "level").getD (.text "")).asText with
  | none => rfl
  | some level =>
    unfold push
    rcases line with - | n
    · rfl
    · dsimp only
      split_ifs <;> rfl

section Unnoticed

variable {f : Decoding → Decoding} (s : Subject)

-- by the recursion of reading: a diagnostic, its members, its children, the items among these
mutual

theorem insertTree_map (hf : Unnoticed f) (parent : Option Int) :
    ∀ (payload : Json) (d : Decoding),
      insertTree s parent payload (f d) = (insertTree s parent payload d).map f
  | .object ms, d => by
    rw [insertTree, insertTree]
    cases primaryLine s (((Json.object ms).get? "spans").getD .null) with
    | error e => rfl
    | ok own =>
      -- the message of the diagnostic itself comes before those of its children
      simp only [bind, Except.bind, hf _ _ d]
      exact insertMembers_map hf _ ms _
  | .null, d | .bool _, d | .number _, d | .text _, d | .broken _, d | .array _, d => by
    simp only [insertTree, Except.map]

theorem insertMembers_map (hf : Unnoticed f) (line : Option Int) :
    ∀ (ms : List (String × Json)) (d : Decoding),
      insertMembers s line ms (f d) = (insertMembers s line ms d).map f
  | [], d => by simp only [insertMembers, Except.map]
  | (name, value) :: rest, d => by
    rw [insertMembers, insertMembers, insertChildren_map hf line value d,
      insertMembers_map hf line rest d]
    split_ifs <;> rfl

theorem insertChildren_map (hf : Unnoticed f) (line : Option Int) :
    ∀ (children : Json) (d : Decoding),
      insertChildren s line children (f d) = (insertChildren s line children d).map f
  | .array items, d => by
    rw [insertChildren, insertChildren, insertItems_map hf line items d]
  | .number n, d => by
    rw [insertChildren, insertChildren]
    split_ifs <;> rfl
  | .bool b, d => by
    rw [insertChildren, insertChildren]
    split_ifs <;> rfl
  | .null, d | .text _, d | .broken _, d | .object _, d => by
    simp only [insertChildren, Except.map]

theorem insertItems_map (hf : Unnoticed f) (line : Option Int) :
    ∀ (items : List Json) (d : Decoding),
      insertItems s line items (f d) = (insertItems s line items d).map f
  | [], d => by simp only [insertItems, Except.map]
  | payload :: rest, d => by
    rw [insertItems, insertItems, insertTree_map hf line payload d]
    cases insertTree s line payload d with
    | error e => rfl
    | ok d => exact insertItems_map hf line rest d

end

/-- A diagnostic shows nothing but its rendered text. -/
theorem insertTree_rendered {s : Subject} {parent : Option Int} {payload : Json}
    {d d' : Decoding} (h : insertTree s parent payload d = .ok d') :
    d'.diagnostics.rendered = d.diagnostics.rendered := by
  have hmap := insertTree_map s (unnoticed_rendered d.diagnostics.rendered) parent payload d
  rw [h] at hmap
  exact (congrArg (·.diagnostics.rendered) (Except.ok.inj hmap)).symm ▸ rfl

end Unnoticed

/-! ## What a line holds -/

/-- The diagnostic in a line: an object with a message and a level. -/
def payload? (line : Bytes) : Option Json :=
  if line.strip.head? = some 0x7b then
    match (decodeLine line.strip).map Json.parseCodes with
    | some (.ok payload) =>
      if payload.has "message" && payload.has "level" then some payload else none
    | _ => none
  else none

/-- What a user sees of a line: the rendered text of its diagnostic or, if it has none, the line. -/
def shown (line : Bytes) : Bytes :=
  match payload? line with
  | none => line
  | some payload =>
    match payload.get? "rendered" with
    | some (.text text) => Bytes.ofText text
    | _ => []

/-- Adds a line as it is, with warnings about it. -/
def addPlain (line : Bytes) (warnings : List String) (d : Decoding) : Decoding :=
  addRendered line { d with warnings := d.warnings ++ warnings }

section Line

variable (s : Subject) {line : Bytes}

theorem addRendered_eq (d : Decoding) : addRendered line d = addPlain line [] d := by
  simp [addPlain]

theorem addLine_diagnostic {payload : Json} (h : payload? line = some payload) (d : Decoding) :
    addLine s d line = addDiagnostic s line payload d := by
  unfold payload? at h
  split at h
  case isFalse => cases h
  case isTrue hbrace =>
    unfold addLine
    cases hcodes : decodeLine line.strip with
    | none => simp [hcodes] at h
    | some codes =>
      cases hread : Json.parseCodes codes with
      | error e => simp [hcodes, hread] at h
      | ok v =>
        simp only [hcodes, hread, Option.map_some, Option.ite_none_right_eq_some,
          Option.some.injEq] at h
        simp [hbrace, hcodes, hread, h.2]

/-- A diagnostic has a message and a level. -/
theorem has_of_payload {payload : Json} (h : payload? line = some payload) :
    (payload.has "message" && payload.has "level") = true := by
  unfold payload? at h
  split at h
  case isFalse => cases h
  case isTrue =>
    split at h
    · split at h
      case isTrue hhas =>
        cases h
        exact hhas
      case isFalse => cases h
    · cases h

/-- A line without a diagnostic is kept, unless it cannot be handled whatever there was before. -/
theorem addLine_plain (h : payload? line = none) :
    (∃ e, ∀ d, addLine s d line = .error e) ∨
      ∃ warnings, ∀ d, addLine s d line = .ok (addPlain line warnings d) := by
  unfold payload? at h
  unfold addLine
  split at h
  case isFalse hbrace => exact .inr ⟨[], fun d => by simp [hbrace, addRendered_eq]⟩
  case isTrue hbrace =>
    cases hcodes : decodeLine line.strip with
    | none =>
      simp only [hbrace, hcodes]
      exact .inr ⟨_, fun d => rfl⟩
    | some codes =>
      cases hread : Json.parseCodes codes with
      | error e =>
        simp only [hbrace, hcodes, hread]
        cases e with
        | malformed => exact .inr ⟨_, fun d => rfl⟩
        | tooLong => exact .inl ⟨_, fun d => rfl⟩
        | tooDeep => exact .inl ⟨_, fun d => rfl⟩
      | ok v =>
        simp only [hcodes, hread, Option.map_some, ite_eq_right_iff, reduceCtorEq, imp_false] at h
        refine .inr ⟨[], fun d => ?_⟩
        simp only [hbrace, hcodes, hread, addDiagnostic, if_neg h, addRendered_eq]
        rfl

end Line

/-! ## Lines one after the other -/

section Append

variable (s : Subject) (a : Decoding)

theorem addPlain_append (line : Bytes) (warnings : List String) (d : Decoding) :
    addPlain line warnings (a.append d) = a.append (addPlain line warnings d) := by
  simp [addPlain, addRendered, Decoding.append]

theorem addDiagnostic_append (line : Bytes) (payload : Json) (d : Decoding) :
    addDiagnostic s line payload (a.append d) = (addDiagnostic s line payload d).map a.append := by
  unfold addDiagnostic
  simp only [addRendered_eq, addPlain_append]
  have htree (d : Decoding) := insertTree_map s (unnoticed_append a) none payload d
  split_ifs
  · rcases payload.get? "rendered" with - | shown
    · exact htree d
    · cases shown with
      | text shown => exact htree _
      | broken codes => rfl
      | _ => exact htree d
  · rfl

/-- What a line adds does not depend on what has been found before. -/
theorem addLine_append (d : Decoding) (line : Bytes) :
    addLine s (a.append d) line = (addLine s d line).map a.append := by
  cases hline : payload? line with
  | some payload =>
    rw [addLine_diagnostic s hline, addLine_diagnostic s hline, addDiagnostic_append]
  | none =>
    obtain ⟨e, he⟩ | ⟨warnings, hplain⟩ := addLine_plain s hline
    · rw [he, he]
      rfl
    · rw [hplain, hplain, addPlain_append]
      rfl

theorem addLines_append (lines : List Bytes) (d : Decoding) :
    lines.foldlM (addLine s) (a.append d) = (lines.foldlM (addLine s) d).map a.append := by
  induction lines generalizing d with
  | nil => rfl
  | cons line lines ih =>
    rw [List.foldlM_cons, List.foldlM_cons, addLine_append]
    cases addLine s d line with
    | error e => rfl
    | ok d => exact ih d

variable {s a}

/-- There is a first bucket in everything that is decoded. -/
theorem append_of_decode {output : Bytes} {d : Decoding} (h : decode s output = .ok d) :
    d.append {} = d := by
  have hmap := addLines_append s {} output.lines {}
  rw [show Decoding.append {} {} = {} from rfl, ← decode, h] at hmap
  have hlines : d.diagnostics.lines ≠ [] := by
    rw [Except.ok.inj hmap]
    cases hd : d.diagnostics.lines <;> simp [Decoding.append, mergeLines, hd]
  obtain ⟨⟨rendered, lines, unknown⟩, warnings⟩ := d
  cases lines with
  | nil => exact absurd rfl hlines
  | cons bucket lines => simp [Decoding.append, mergeLines]

/-- **Decoding in two parts.** Each part adds what is found in it alone. -/
theorem decode_append {x y : Bytes} {dx dy : Decoding} (hend : x = [] ∨ x.getLast? = some 0x0a)
    (hx : decode s x = .ok dx) (hy : decode s y = .ok dy) :
    decode s (x ++ y) = .ok (dx.append dy) := by
  have hfirst := append_of_decode hx
  unfold decode at *
  rw [Bytes.lines_append hend, List.foldlM_append, hx]
  calc y.lines.foldlM (addLine s) dx
      = y.lines.foldlM (addLine s) (dx.append {}) := by rw [hfirst]
    _ = (y.lines.foldlM (addLine s) {}).map dx.append := addLines_append s dx y.lines {}
    _ = .ok (dx.append dy) := by rw [hy]; rfl

end Append

/-! ## What is shown -/

section Shown

variable {s : Subject} {d d' : Decoding}

theorem addDiagnostic_rendered {line : Bytes} {payload : Json}
    (hline : payload? line = some payload) (h : addDiagnostic s line payload d = .ok d') :
    d'.diagnostics.rendered = d.diagnostics.rendered ++ shown line := by
  unfold addDiagnostic at h
  rw [if_pos (has_of_payload hline)] at h
  unfold shown
  simp only [hline]
  rcases hrendered : payload.get? "rendered" with - | value
  · rw [hrendered] at h
    simpa using insertTree_rendered h
  · rw [hrendered] at h
    cases value with
    | text text => exact insertTree_rendered h
    | broken codes => cases h
    | _ => simpa using insertTree_rendered h

theorem addLine_rendered {line : Bytes} (h : addLine s d line = .ok d') :
    d'.diagnostics.rendered = d.diagnostics.rendered ++ shown line := by
  cases hline : payload? line with
  | some payload =>
    rw [addLine_diagnostic s hline] at h
    exact addDiagnostic_rendered hline h
  | none =>
    obtain ⟨e, he⟩ | ⟨warnings, hplain⟩ := addLine_plain s hline
    · rw [he] at h
      cases h
    · rw [hplain] at h
      cases h
      simp [addPlain, addRendered, shown, hline]

/-- What is true of nothing and kept by every further line is true of all lines. -/
theorem decode_induction {P : List Bytes → Decoding → Prop} (hstart : P [] {})
    (hstep : ∀ lines line d d', P lines d → addLine s d line = .ok d' → P (lines ++ [line]) d')
    {output : Bytes} (h : decode s output = .ok d) : P output.lines d := by
  unfold decode at h
  generalize output.lines = lines at h ⊢
  induction lines using List.reverseRecOn generalizing d with
  | nil =>
    cases h
    exact hstart
  | append_singleton lines line ih =>
    simp only [List.foldlM_append, List.foldlM_cons, List.foldlM_nil, bind_pure] at h
    cases hlines : lines.foldlM (addLine s) {} with
    | error e =>
      rw [hlines] at h
      cases h
    | ok before =>
      rw [hlines] at h
      exact hstep lines line before d (ih hlines) h

/-- Of an output its lines are shown, or their rendered texts. -/
theorem rendered_of_decode {output : Bytes} (h : decode s output = .ok d) :
    d.diagnostics.rendered = output.lines.flatMap shown := by
  refine decode_induction (P := fun lines d => d.diagnostics.rendered = lines.flatMap shown) rfl
    (fun lines line d d' hd hline => ?_) h
  rw [addLine_rendered hline, hd, List.flatMap_append, List.flatMap_singleton]

/-- An output without diagnostics is shown unchanged and holds no message. -/
theorem diagnostics_of_plain {output : Bytes} (hplain : ∀ line ∈ output.lines, payload? line = none)
    (h : decode s output = .ok d) : d.diagnostics = { rendered := output } := by
  have hlines := decode_induction (P := fun lines d =>
    (∀ line ∈ lines, payload? line = none) → d.diagnostics = { rendered := lines.flatten })
    (fun _ => rfl) (fun lines line d d' hd hline hnone => ?_) h
  · rw [hlines hplain, Bytes.flatten_lines]
  · simp only [List.mem_append, List.mem_singleton, or_imp, forall_and, forall_eq] at hnone
    obtain ⟨e, he⟩ | ⟨warnings, hadd⟩ := addLine_plain s hnone.2
    · rw [he] at hline
      cases hline
    · rw [hadd] at hline
      cases hline
      simp [addPlain, addRendered, hd hnone.1]

/-- **Decoding line by line.** Two parts of an output, the first of which ends with a line feed, are
decoded together to what each of them gives: what is shown and the messages without a line follow
one another, and so do the messages of each line. Of a decoded output every line is shown, as it is
or by the rendered text of its diagnostic, and nothing else; without a diagnostic in it there is no
message. -/
theorem decode_lineByLine (s : Subject) :
    (∀ (x y : Bytes) (dx dy : Decoding), x = [] ∨ x.getLast? = some 0x0a →
      decode s x = .ok dx → decode s y = .ok dy →
      ∃ d, decode s (x ++ y) = .ok d ∧
        d.diagnostics.rendered = dx.diagnostics.rendered ++ dy.diagnostics.rendered ∧
        (∀ n, d.diagnostics.lines.getD n [] =
          dx.diagnostics.lines.getD n [] ++ dy.diagnostics.lines.getD n []) ∧
        d.diagnostics.unknown = dx.diagnostics.unknown ++ dy.diagnostics.unknown ∧
        d.diagnostics.lines.length =
          max dx.diagnostics.lines.length dy.diagnostics.lines.length) ∧
      ∀ (output : Bytes) (d : Decoding), decode s output = .ok d →
        d.diagnostics.rendered = output.lines.flatMap shown ∧ output.lines.flatten = output ∧
          ((∀ line ∈ output.lines, payload? line = none) →
            d.diagnostics = { rendered := output }) := by
  refine ⟨fun x y dx dy hend hx hy => ⟨dx.append dy, decode_append hend hx hy, rfl, ?_, rfl, ?_⟩,
    fun output d h => ⟨rendered_of_decode h, Bytes.flatten_lines output, fun hplain => ?_⟩⟩
  · exact getD_mergeLines _ _
  · exact length_mergeLines _ _
  · exact diagnostics_of_plain hplain h

end Shown

/-! ## A line of text and a diagnostic -/

/-- A tested file of which nothing is known. -/
def anyFile : Subject := ⟨default, ⟨.relative, ["t.rs"]⟩⟩

/-- A line of text. -/
def noteOutput : Bytes := Bytes.ofText "note\n"

/-- A diagnostic without a line and without a line end. -/
def warningOutput : Bytes :=
  Bytes.ofText "\x7b\"level\":\"warning\",\"message\":\"w\",\"rendered\":\"shown\"\x7d"

theorem decode_warningOutput :
    decode anyFile warningOutput =
      .ok { diagnostics :=
        { rendered := Bytes.ofText "shown", unknown := [⟨.warning, "w", none⟩] } } :=
  eq_ok_of_toOption (by decide +kernel)

theorem noteThenWarning_lineByLine :
    ∃ d, decode anyFile (noteOutput ++ warningOutput) = .ok d ∧
      d.diagnostics.rendered = Bytes.ofText "note\nshown" ∧
      d.diagnostics.unknown = [⟨.warning, "w", none⟩] ∧ d.diagnostics.lines.length = 1 := by
  have hnote : decode anyFile noteOutput = .ok { diagnostics := { rendered := noteOutput } } := by
    rfl
  obtain ⟨d, hd, hrendered, -, hunknown, hlength⟩ := (decode_lineByLine anyFile).1 noteOutput
    warningOutput _ _ (.inr (by decide)) hnote decode_warningOutput
  exact ⟨d, hd, hrendered, hunknown, hlength⟩

end Diagnostics

end CompilerTest

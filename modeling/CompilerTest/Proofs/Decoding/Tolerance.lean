import CompilerTest.Proofs.Decoding.Lines
import CompilerTest.Proofs.FileTree.RealPaths

/-!
# What decoding tolerates

Most values of the wrong kind in a diagnostic count as if they were not there. Some do not, and then
decoding ends without a result: children that are a number or a truth value and do not count as
nothing, a rendered text that cannot be encoded, and a file name that is looked up although it leads
nowhere that could be compared with the tested file. Outside of diagnostics only the reader of a
line can give up, on a number with too many digits or on values that are nested too deep.

Main statement: an output is decoded iff none of this is in any of its lines (`decode_ok_iff`).
-/

namespace CompilerTest

namespace Diagnostics

/-! ## File names -/

/-- Whether a path can be compared with the tested file: it is the same path, or both paths have
real paths. -/
def Subject.Compares (s : Subject) (candidate : Path) : Prop :=
  candidate = s.file ∨
    (∃ real, s.tree.realPath false candidate = .ok real) ∧
      ∃ real, s.tree.realPath false s.file = .ok real

/-- Whether it can be found out if a value names the tested file. -/
def Subject.CanName (s : Subject) : Json → Prop
  | .text name => s.Compares (.ofText name)
  | .broken codes =>
    (∀ c ∈ codes, 0xd800 ≤ c → c < 0xe000 → isByteMark c = true) ∧
      s.Compares (.ofText (bytewiseName codes))
  | _ => True

/-- The file name of a span that is looked up: that of a primary span with a line. -/
def namedFile? (span : Json) : Option Json :=
  if ((span.get? "is_primary").getD .null).truthy && ((span.get? "line_start").bind lineOf?).isSome
  then span.get? "file_name" else none

section Names

variable (s : Subject)

theorem isTested_ok_iff (candidate : Path) :
    (∃ b, s.isTested candidate = .ok b) ↔ s.Compares candidate := by
  unfold Subject.isTested Subject.Compares
  by_cases hsame : candidate = s.file
  · simp [hsame]
  · rw [if_neg hsame]
    rcases s.tree.realPath_false_cases candidate with ⟨a, ha⟩ | ⟨e, he, hfatal⟩
    · rcases s.tree.realPath_false_cases s.file with ⟨b, hb⟩ | ⟨e, he, hfatal⟩
      · simp [ha, hb, bind, Except.bind, pure, Except.pure]
      · cases hfatal with
        | hasNull shown => simp [hsame, ha, he, bind, Except.bind]
        | loop shown => simp [hsame, ha, he, bind, Except.bind]
    · cases hfatal with
      | hasNull shown => simp [hsame, he, bind, Except.bind]
      | loop shown => simp [hsame, he, bind, Except.bind]

theorem names_ok_iff (name : Json) : (∃ b, s.names name = .ok b) ↔ s.CanName name := by
  cases name with
  | text name => exact isTested_ok_iff s _
  | broken codes =>
    simp only [Subject.names, Subject.CanName]
    split
    next hstray =>
      have hnot : ¬ ∀ c ∈ codes, 0xd800 ≤ c → c < 0xe000 → isByteMark c = true := by
        simp only [List.any_eq_true, Bool.and_eq_true, decide_eq_true_eq,
          Bool.not_eq_true'] at hstray
        obtain ⟨c, hc, ⟨hlow, hhigh⟩, hmark⟩ := hstray
        intro hall
        rw [hall c hc hlow hhigh] at hmark
        cases hmark
      simp [hnot]
    next hstray =>
      have hall : ∀ c ∈ codes, 0xd800 ≤ c → c < 0xe000 → isByteMark c = true := by
        intro c hc hlow hhigh
        by_contra hmark
        exact hstray (List.any_eq_true.2 ⟨c, hc, by simp [hlow, hhigh, hmark]⟩)
      rw [isTested_ok_iff]
      exact ⟨fun h => ⟨hall, h⟩, fun h => h.2⟩
  | null | bool | number | array | object => simp [Subject.names, Subject.CanName]

theorem spanLine?_ok_iff (span : Json) :
    (∃ line, spanLine? s span = .ok line) ↔
      ∀ name, namedFile? span = some name → s.CanName name := by
  unfold spanLine? namedFile?
  by_cases hprimary : ((span.get? "is_primary").getD .null).truthy = true
  · rw [if_pos hprimary, hprimary, Bool.true_and]
    cases hname : span.get? "file_name" with
    | none => simp
    | some name =>
      cases hline : (span.get? "line_start").bind lineOf? with
      | none => simp
      | some line =>
        have hrest : ∀ b : Bool, (∃ result, (return if b then some line else none :
            Except Fault (Option LineMark)) = .ok result) ↔ True := by
          intro b
          exact ⟨fun _ => trivial, fun _ => ⟨_, rfl⟩⟩
        rw [exists_bind_ok_iff hrest, names_ok_iff]
        simp
  · simp [hprimary]

/-- The spans of a list are looked up in order, up to the first one in the tested file. -/
theorem firstLine?_ok_iff (spans : List Json) :
    (∃ line, firstLine? s spans = .ok line) ↔ ∀ before span after, spans = before ++ span :: after →
      (∀ b ∈ before, spanLine? s b = .ok none) → ∀ name, namedFile? span = some name →
        s.CanName name := by
  induction spans with
  | nil =>
    refine ⟨fun _ before span after h => ?_, fun _ => ⟨none, rfl⟩⟩
    cases before <;> cases h
  | cons first rest ih =>
    rw [firstLine?]
    constructor
    · rintro ⟨line, h⟩ before span after hspans hbefore
      obtain ⟨line?, hfirst, h⟩ := bind_ok_iff.1 h
      cases before with
      | nil =>
        cases hspans
        exact (spanLine?_ok_iff s _).1 ⟨line?, hfirst⟩
      | cons b before =>
        cases hspans
        obtain ⟨hb, hbefore⟩ := List.forall_mem_cons.1 hbefore
        rw [hb] at hfirst
        cases hfirst
        exact ih.1 ⟨line, h⟩ before span after rfl hbefore
    · intro h
      obtain ⟨line?, hfirst⟩ := (spanLine?_ok_iff s first).2 (h [] first rest rfl (by simp))
      rw [hfirst]
      cases line? with
      | some line => exact ⟨some line, rfl⟩
      | none =>
        refine ih.2 fun before span after hspans hbefore => ?_
        refine h (first :: before) span after (by rw [hspans]; rfl) ?_
        exact List.forall_mem_cons.2 ⟨hfirst, hbefore⟩

end Names

/-! ## Diagnostics within diagnostics -/

/-- A diagnostic is another one, or one of its children, at any depth. -/
inductive Within : Json → Json → Prop where
  /-- A diagnostic is within itself. -/
  | self (ms : List (String × Json)) : Within (.object ms) (.object ms)
  /-- What is within a child is within the diagnostic. -/
  | child {node child : Json} {ms : List (String × Json)} {items : List Json}
    (hitems : ms.lookup "children" = some (.array items)) (hchild : child ∈ items)
    (h : Within node child) : Within node (.object ms)

/-- Whether nothing in a diagnostic itself keeps it from being decoded. -/
structure Subject.Handles (s : Subject) (node : Json) : Prop where
  /-- The file names that are looked up can be compared. -/
  names (before after : List Json) (span name : Json) :
    node.get? "spans" = some (.array (before ++ span :: after)) →
    (∀ b ∈ before, spanLine? s b = .ok none) → namedFile? span = some name → s.CanName name
  /-- Children are no number but zero. -/
  number (n : Number) : node.get? "children" = some (.number n) → n.isZero = true
  /-- Children are not the truth value that is true. -/
  truth : node.get? "children" ≠ some (.bool true)

/-- Whether children can be decoded. -/
def Subject.HandlesChildren (s : Subject) : Json → Prop
  | .array items => ∀ child ∈ items, ∀ node, Within node child → s.Handles node
  | .number n => n.isZero = true
  | .bool b => b = false
  | _ => True

section Trees

variable (s : Subject)

theorem primaryLine_ok_iff (node : Json) :
    (∃ line, primaryLine s ((node.get? "spans").getD .null) = .ok line) ↔
      ∀ before after span name, node.get? "spans" = some (.array (before ++ span :: after)) →
        (∀ b ∈ before, spanLine? s b = .ok none) → namedFile? span = some name →
          s.CanName name := by
  cases hspans : node.get? "spans" with
  | none => simp [primaryLine]
  | some spans =>
    cases spans with
    | array spans =>
      simp only [Option.getD_some, primaryLine, firstLine?_ok_iff, Option.some.injEq,
        Json.array.injEq]
      exact ⟨fun h before after span name hs hb => h before span after hs hb name,
        fun h before span after hs hb name => h before after span name hs hb⟩
    | _ => simp [primaryLine]

/-- A diagnostic is handled with all that is in it iff its own spans are, and its children are. -/
theorem forall_within_iff (ms : List (String × Json)) :
    (∀ node, Within node (.object ms) → s.Handles node) ↔
      (∃ line, primaryLine s (((Json.object ms).get? "spans").getD .null) = .ok line) ∧
        ∀ children, ms.lookup "children" = some children → s.HandlesChildren children := by
  rw [primaryLine_ok_iff]
  constructor
  · intro h
    have hself := h _ (.self ms)
    refine ⟨hself.names, fun children hchildren => ?_⟩
    cases children with
    | array items => exact fun child hchild node hnode => h node (.child hchildren hchild hnode)
    | number n => exact hself.number n hchildren
    | bool b =>
      cases b with
      | false => rfl
      | true => exact absurd hchildren hself.truth
    | _ => trivial
  · rintro ⟨hnames, hchildren⟩ node hnode
    cases hnode with
    | self => exact ⟨hnames, fun n hn => hchildren _ hn, fun htrue => by cases hchildren _ htrue⟩
    | child hitems hchild h => exact hchildren _ hitems _ hchild node h

mutual

/-- A diagnostic is decoded iff it can be handled with all that is in it. -/
theorem insertTree_ok_iff (parent : Option Int) :
    ∀ (payload : Json) (d : Decoding),
      (∃ d', insertTree s parent payload d = .ok d') ↔ ∀ node, Within node payload → s.Handles node
  | .object ms, d => by
    rw [insertTree, forall_within_iff]
    exact exists_bind_ok_iff fun own => insertMembers_ok_iff _ ms _
  | .null, d | .bool _, d | .number _, d | .text _, d | .broken _, d | .array _, d => by
    simp only [insertTree]
    exact ⟨fun _ node hnode => (by cases hnode), fun _ => ⟨d, rfl⟩⟩

theorem insertMembers_ok_iff (line : Option Int) :
    ∀ (ms : List (String × Json)) (d : Decoding),
      (∃ d', insertMembers s line ms d = .ok d') ↔
        ∀ children, ms.lookup "children" = some children → s.HandlesChildren children
  | [], d => by simp [insertMembers]
  | (name, value) :: rest, d => by
    rw [insertMembers]
    by_cases hname : name = "children"
    · rw [if_pos hname, hname, List.lookup_cons_self, insertChildren_ok_iff line value d]
      simp
    · rw [if_neg hname, List.lookup_cons, beq_eq_false_iff_ne.2 (Ne.symm hname)]
      exact insertMembers_ok_iff line rest d

theorem insertChildren_ok_iff (line : Option Int) :
    ∀ (children : Json) (d : Decoding),
      (∃ d', insertChildren s line children d = .ok d') ↔ s.HandlesChildren children
  | .array items, d => by
    rw [insertChildren]
    exact insertItems_ok_iff line items d
  | .number n, d => by
    rw [insertChildren, Subject.HandlesChildren]
    cases n.isZero <;> simp
  | .bool b, d => by
    rw [insertChildren, Subject.HandlesChildren]
    cases b <;> simp
  | .null, d | .text _, d | .broken _, d | .object _, d => by
    simp [insertChildren, Subject.HandlesChildren]

theorem insertItems_ok_iff (line : Option Int) :
    ∀ (items : List Json) (d : Decoding),
      (∃ d', insertItems s line items d = .ok d') ↔
        ∀ child ∈ items, ∀ node, Within node child → s.Handles node
  | [], d => by simp [insertItems]
  | payload :: rest, d => by
    rw [insertItems, List.forall_mem_cons, ← insertTree_ok_iff line payload d]
    exact exists_bind_ok_iff fun d => insertItems_ok_iff line rest d

end

end Trees

/-! ## Lines -/

/-- Whether a line of output can be decoded. -/
structure Subject.Decodes (s : Subject) (line : Bytes) : Prop where
  /-- The reader does not give up on what is written in the line. -/
  reads (codes : List Nat) : line.strip.head? = some 0x7b → decodeLine line.strip = some codes →
    Json.parseCodes codes ≠ .error .tooDeep ∧
      ∀ digits, Json.parseCodes codes ≠ .error (.tooLong digits)
  /-- The rendered text of its diagnostic can be encoded. -/
  renders (payload : Json) (codes : List Nat) : payload? line = some payload →
    payload.get? "rendered" ≠ some (.broken codes)
  /-- Its diagnostic can be handled with all that is in it. -/
  handles (payload node : Json) : payload? line = some payload → Within node payload →
    s.Handles node

section Lines

variable (s : Subject)

theorem addDiagnostic_ok_iff {line : Bytes} {payload : Json} (h : payload? line = some payload)
    (d : Decoding) :
    (∃ d', addDiagnostic s line payload d = .ok d') ↔
      (∀ codes, payload.get? "rendered" ≠ some (.broken codes)) ∧
        ∀ node, Within node payload → s.Handles node := by
  rw [addDiagnostic, if_pos (has_of_payload h)]
  cases hrendered : payload.get? "rendered" with
  | none => simp [insertTree_ok_iff]
  | some shown =>
    cases shown with
    | broken codes => simp
    | _ => simp [insertTree_ok_iff]

theorem addLine_ok_iff (line : Bytes) (d : Decoding) :
    (∃ d', addLine s d line = .ok d') ↔ s.Decodes line := by
  cases hline : payload? line with
  | some payload =>
    rw [addLine_diagnostic s hline, addDiagnostic_ok_iff s hline]
    constructor
    · rintro ⟨hrenders, hhandles⟩
      refine ⟨fun codes hbrace hcodes => ?_, fun _ codes h => ?_, fun _ node h => ?_⟩
      · -- the line holds a value, so the reader has not given up
        unfold payload? at hline
        rw [if_pos hbrace, hcodes] at hline
        cases hread : Json.parseCodes codes with
        | ok v => simp
        | error e => simp [hread] at hline
      · cases hline.symm.trans h
        exact hrenders codes
      · cases hline.symm.trans h
        exact hhandles node
    · intro h
      exact ⟨fun codes => h.renders payload codes hline, fun node => h.handles payload node hline⟩
  | none =>
    have hnone (h : ∀ codes, line.strip.head? = some 0x7b → decodeLine line.strip = some codes →
        Json.parseCodes codes ≠ .error .tooDeep ∧
          ∀ digits, Json.parseCodes codes ≠ .error (.tooLong digits)) : s.Decodes line :=
      ⟨h, by simp [hline], by simp [hline]⟩
    unfold addLine
    dsimp only
    by_cases hbrace : line.strip.head? = some 0x7b
    · rw [if_neg (by simpa using hbrace)]
      cases hcodes : decodeLine line.strip with
      | none => exact ⟨fun _ => hnone (by simp [hcodes]), fun _ => ⟨_, rfl⟩⟩
      | some codes =>
        dsimp only
        cases hread : Json.parseCodes codes with
        | ok v =>
          have hno : ¬ (v.has "message" && v.has "level") = true := by
            intro hhas
            simp [payload?, hbrace, hcodes, hread, hhas] at hline
          dsimp only
          rw [addDiagnostic, if_neg hno]
          exact ⟨fun _ => hnone (by simp [hcodes, hread]), fun _ => ⟨_, rfl⟩⟩
        | error e =>
          cases e with
          | malformed problem row column =>
            exact ⟨fun _ => hnone (by simp [hcodes, hread]), fun _ => ⟨_, rfl⟩⟩
          | tooLong digits =>
            refine iff_of_false (by simp) fun h => ?_
            exact (h.reads codes hbrace hcodes).2 digits hread
          | tooDeep =>
            refine iff_of_false (by simp) fun h => ?_
            exact (h.reads codes hbrace hcodes).1 hread
    · rw [if_pos (by simpa using hbrace)]
      exact ⟨fun _ => hnone fun codes h => absurd h hbrace, fun _ => ⟨_, rfl⟩⟩

theorem addLines_ok_iff (lines : List Bytes) (d : Decoding) :
    (∃ d', lines.foldlM (addLine s) d = .ok d') ↔ ∀ line ∈ lines, s.Decodes line := by
  induction lines generalizing d with
  | nil => simp [pure, Except.pure]
  | cons line lines ih =>
    rw [List.foldlM_cons, List.forall_mem_cons, ← addLine_ok_iff s line d]
    exact exists_bind_ok_iff ih

end Lines

/-- **What decoding tolerates.** An output is decoded, with each of its lines shown as it is or by
the rendered text of its diagnostic, iff the reader gives up on no line and each diagnostic, at any
depth, has children that are none or can be gone through, file names that can be compared with the
tested file where they are looked up, and a rendered text that can be encoded. Values of any other
kind are tolerated everywhere. -/
theorem decode_ok_iff (s : Subject) (output : Bytes) :
    (∃ d, decode s output = .ok d ∧ d.diagnostics.rendered = output.lines.flatMap shown) ↔
      ∀ line ∈ output.lines, s.Decodes line := by
  rw [← addLines_ok_iff s output.lines {}]
  constructor
  · rintro ⟨d, h, -⟩
    exact ⟨d, h⟩
  · rintro ⟨d, h⟩
    exact ⟨d, h, rendered_of_decode h⟩

-- values of the wrong kind everywhere
example : (decode anyFile (Bytes.ofText (
    "\x7b\"level\":7,\"message\":[],\"code\":true,\"rendered\":5," ++
    "\"spans\":[1,\x7b\"is_primary\":\"x\",\"file_name\":3,\"line_start\":null\x7d]," ++
    "\"children\":\"y\"\x7d"))).isOk = true := by decide +kernel

/-! ## Children that are a truth value -/

/-- A diagnostic whose children are a truth value. -/
def truthChildren : Bytes :=
  Bytes.ofText "\x7b\"level\":\"error\",\"message\":\"m\",\"children\":true\x7d\n"

/-- There is output that is not decoded, whatever the files are. -/
theorem truthChildren_not_decoded :
    ¬ ∀ (s : Subject) (output : Bytes), ∃ d, decode s output = .ok d := by
  intro h
  obtain ⟨d, hd⟩ := h anyFile truthChildren
  have hnone : (decode anyFile truthChildren).toOption = none := by decide +kernel
  rw [hd] at hnone
  cases hnone

end Diagnostics

end CompilerTest

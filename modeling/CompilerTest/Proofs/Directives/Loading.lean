import CompilerTest.Proofs.Directives.Faithful

/-!
# What loading refuses

Once a document has the shape of directives, some of its parts are checked on their own: the
revisions of a set, patterns, normalization rules, modes and custom flags, one after the other
(`parts`). A part that is rejected makes an error in the directives. But there are parts from which
another fault escapes, which nobody who loads directives expects (`Part.Escapes`).

Main statement: `ofJson_outcome`. The first part that is not accepted decides how loading ends, and
there are directives if all parts are accepted. Nothing else that can go wrong in reading does: with
the right shape, levels are known and lines are lines.
-/

namespace CompilerTest

namespace Directives

open Json Json.Check

/-! ## Parts -/

/-- A part of a document that is checked on its own. -/
inductive Part where
  /-- The revisions of a set that are not declared. -/
  | revisions (set : Nat) (undeclared : List String)
  /-- A pattern for messages. -/
  | pattern (set : Nat) (list : String) (position : Nat) (v : Json)
  /-- A normalization rule. -/
  | rule (set : Nat) (list : String) (position : Nat) (v : Json)
  /-- The mode of a set. -/
  | mode (set : Nat) (v : Json)
  /-- A custom flag. -/
  | flag (set : Nat) (name : String) (v : Json)

/-- The patterns for messages on lines of the file; a message that is expected by its code has
none. -/
def matchParts (set : Nat) (v : Json) : List Part :=
  (itemsOf v "error_matches").zipIdx.flatMap fun (w, i) =>
    if w.has "code" then [] else [.pattern set "error_matches" i w]

/-- The patterns for messages elsewhere. -/
def otherParts (set : Nat) (v : Json) : List Part :=
  (itemsOf v "error_in_other_files").zipIdx.flatMap fun (w, i) =>
    [.pattern set "error_in_other_files" i w]

/-- The normalization rules of a set for an output. -/
def ruleParts (set : Nat) (list : String) (v : Json) : List Part :=
  (itemsOf v list).zipIdx.flatMap fun (w, i) => [.rule set list i w]

/-- The custom flags of a set. -/
def flagParts (set : Nat) (v : Json) : List Part :=
  ((v.get? "custom").map Json.members |>.getD []).map fun m => .flag set m.1 m.2

/-- The parts of a set of directives, in the order in which they are checked. -/
def setParts (set : Nat) (v : Json) : List Part :=
  matchParts set v ++ (otherParts set v ++ (ruleParts set "normalize_stdout" v ++
    (ruleParts set "normalize_stderr" v ++ ([.mode set v] ++ flagParts set v))))

/-- The parts of a document, in the order in which they are checked: the revisions of each set come
before what else is in it. -/
def parts (v : Json) : List Part :=
  (itemsOf v "directives").zipIdx.flatMap fun (w, i) =>
    .revisions i ((textsOf w "revisions").filter (!(textsOf v "revisions").contains ·)) ::
      setParts i w

namespace Part

/-- Whether the error of a regular expression is that it is malformed. -/
def IsMalformed : Regex.Error → Prop
  | .malformed .. => True
  | _ => False

/-- Why a part is rejected. -/
inductive Rejected : Part → DirectivesError → Prop where
  /-- There are revisions that are not declared. -/
  | revisions {set : Nat} {undeclared : List String} (h : undeclared ≠ []) :
    Rejected (.revisions set undeclared) (.undeclaredRevisions set undeclared)
  /-- A regular expression for messages is malformed. -/
  | pattern {set : Nat} {list : String} {i : Nat} {v : Json} {e : Regex.Error}
    (hregex : flagOf v "regex" false = true) (h : Regex.ofText (textOf v "pattern") = .error e)
    (he : IsMalformed e) : Rejected (.pattern set list i v) (.badPattern set list i e)
  /-- The regular expression of a rule is malformed. -/
  | rule {set : Nat} {list : String} {i : Nat} {v : Json} {e : Regex.Error}
    (hpattern : ∀ codes, v.get? "pattern" ≠ some (.broken codes))
    (h : Regex.ofBytes (Bytes.ofText (textOf v "pattern")) = .error e) (he : IsMalformed e) :
    Rejected (.rule set list i v) (.badNormalization set list i e)
  /-- A mode that is no failure requires patterns. -/
  | mode {set : Nat} {v : Json} {mode : Mode} (hhas : v.has "mode" = true)
    (hmode : textOf v "mode" = mode.name) (hname : mode.name ≠ "fail")
    (hrequired : v.has "require_patterns" = true) :
    Rejected (.mode set v) (.misplacedRequirement set mode)
  /-- An object is no flag. -/
  | flag {set : Nat} {name : String} {v : Json} {e : FlagError} (h : Flag.ofJson v = .error e)
    (he : e ≠ .infiniteStatus) : Rejected (.flag set name v) (.badFlag set name e)

/-- The faults that are no errors in the directives, though a part of them is unusable. -/
inductive Escapes : Part → Fault → Prop where
  /-- A regular expression for messages is refused, but it is not malformed. -/
  | pattern {set : Nat} {list : String} {i : Nat} {v : Json} {e : Regex.Error}
    (hregex : flagOf v "regex" false = true) (h : Regex.ofText (textOf v "pattern") = .error e)
    (he : ¬ IsMalformed e) : Escapes (.pattern set list i v) (.regex e)
  /-- The regular expression of a rule has no bytes. -/
  | source {set : Nat} {list : String} {i : Nat} {v : Json} {codes : List Nat}
    (hpattern : v.get? "pattern" = some (.broken codes)) : Escapes (.rule set list i v) .unencodable
  /-- The regular expression of a rule is refused, but it is not malformed. -/
  | rule {set : Nat} {list : String} {i : Nat} {v : Json} {e : Regex.Error}
    (hpattern : ∀ codes, v.get? "pattern" ≠ some (.broken codes))
    (h : Regex.ofBytes (Bytes.ofText (textOf v "pattern")) = .error e) (he : ¬ IsMalformed e) :
    Escapes (.rule set list i v) (.regex e)
  /-- The replacement of a rule has no bytes. -/
  | replacement {set : Nat} {list : String} {i : Nat} {v : Json} {codes : List Nat}
    {regex : Regex} (hpattern : ∀ codes, v.get? "pattern" ≠ some (.broken codes))
    (h : Regex.ofBytes (Bytes.ofText (textOf v "pattern")) = .ok regex)
    (hreplacement : v.get? "replacement" = some (.broken codes)) :
    Escapes (.rule set list i v) .unencodable
  /-- An exit status is infinite. -/
  | flag {set : Nat} {name : String} {v : Json} {negative : Bool}
    (hkind : v.get? "kind" = some (.text "run"))
    (hstatus : v.get? "exit_code" = some (.number (.real (.infinite negative)))) :
    Escapes (.flag set name v) (.flag .infiniteStatus)

/-- Whether nothing is wrong with a part. -/
structure Accepted (p : Part) : Prop where
  notRejected (e : DirectivesError) : ¬ p.Rejected e
  noEscape (f : Fault) : ¬ p.Escapes f

end Part

/-! ## Faults -/

/-- How a reading goes wrong, if it does. -/
def faultOf {α : Type} : Except Fault α → Option Fault
  | .ok _ => none
  | .error f => some f

section Faults

variable {α β : Type} {x : Except Fault α} {g : α → Except Fault β} {b : Option Fault}

/-- A reading that goes on goes wrong as its first part or else as the rest of it. -/
theorem faultOf_bind (h : ∀ a, x = .ok a → faultOf (g a) = b) :
    faultOf (x >>= g) = (faultOf x).or b := by
  cases x with
  | error f => rfl
  | ok a => exact h a rfl

/-- Reading a list goes wrong as the first of its items that does. -/
theorem faultOf_forItems {read : Nat → Json → Except Fault α} {fault? : β → Option Fault}
    {partsOf : Json × Nat → List β} {items : List Json}
    (h : ∀ i, ∀ v ∈ items, faultOf (read i v) = (partsOf (v, i)).findSome? fault?) (i : Nat) :
    faultOf (forItems read i items) = ((items.zipIdx i).flatMap partsOf).findSome? fault? := by
  induction items generalizing i with
  | nil => rfl
  | cons v items ih =>
    rw [List.zipIdx_cons, List.flatMap_cons, List.findSome?_append,
      ← h i v List.mem_cons_self, ← ih (fun i w hw => h i w (List.mem_cons_of_mem _ hw)) (i + 1)]
    refine faultOf_bind fun a _ => ?_
    rw [faultOf_bind (b := none) fun _ _ => rfl, Option.or_none]

theorem faultOf_mapM {γ : Type} {read : γ → Except Fault α} {fault? : β → Option Fault}
    {partOf : γ → β} {l : List γ} (h : ∀ c ∈ l, faultOf (read c) = fault? (partOf c)) :
    faultOf (l.mapM read) = (l.map partOf).findSome? fault? := by
  induction l with
  | nil => rfl
  | cons c l ih =>
    rw [List.mapM_cons, List.map_cons, List.findSome?_cons, ← h c List.mem_cons_self,
      ← ih fun c hc => h c (List.mem_cons_of_mem _ hc)]
    rw [faultOf_bind fun _ _ => faultOf_bind (b := none) fun _ _ => rfl]
    rw [Option.or_none]
    cases read c <;> rfl

end Faults

/-! ## Reading parts -/

/-- How reading a part goes wrong, if it does. -/
def Part.fault? : Part → Option Fault
  | .revisions set undeclared =>
    if undeclared.isEmpty then none else some (.directives (.undeclaredRevisions set undeclared))
  | .pattern set list i v => faultOf (readPattern set list i default v)
  | .rule set list i v => faultOf (readNormalization set list i v)
  | .mode set v => faultOf (readMode set v)
  | .flag set name v => faultOf (readFlag set default name v)

section Read

variable {set i : Nat} {list name : String} {v : Json} {span : Span} {file : Path}

theorem faultOf_readPattern (set : Nat) (list : String) (i : Nat) (span : Span) (v : Json) :
    faultOf (readPattern set list i span v) = (Part.pattern set list i v).fault? := by
  have hany (span : Span) : faultOf (readPattern set list i span v) =
      if flagOf v "regex" false then
        faultOf (checked (.badPattern set list i) (Regex.ofText (textOf v "pattern")))
      else none := by
    unfold readPattern
    dsimp only
    split_ifs
    · rw [faultOf_bind (b := none) fun _ _ => rfl, Option.or_none]
    · rfl
  rw [Part.fault?, hany, hany]

theorem faultOf_readFlag (set : Nat) (span : Span) (name : String) (v : Json) :
    faultOf (readFlag set span name v) = (Part.flag set name v).fault? := by
  rw [Part.fault?, readFlag, readFlag]
  rcases Flag.ofJson v with e | flag
  · cases e <;> rfl
  · rfl

/-- A text that passes as a level is one. -/
theorem faultOf_readLevel (hlevel : ∀ w, v.get? name = some w → oneOf levelNames w = none)
    (hhas : v.has name = true) : faultOf (readLevel (textOf v name)) = none := by
  obtain ⟨w, hw⟩ := Option.isSome_iff_exists.1 hhas
  have hnames : levelNames =
      ["error", "warn", "warning", "help", "note", "failure-note"].map .text := rfl
  obtain ⟨text, htext, rfl⟩ := oneOf_map_text_eq_none_iff.1 (hnames ▸ hlevel w hw)
  have hread : textOf v name = text := by simp [textOf, hw, text?]
  rw [hread]
  simp only [List.mem_cons, List.not_mem_nil, or_false] at htext
  rcases htext with rfl | rfl | rfl | rfl | rfl | rfl <;> decide +kernel

/-- Reading an expected message goes wrong only with its pattern. -/
theorem faultOf_readErrorMatch (hshape : either [patternMatchShape, codeMatchShape] v = none) :
    faultOf (readErrorMatch file set i v) =
      (if v.has "code" then [] else [.pattern set "error_matches" i v]).findSome? Part.fault? := by
  obtain ⟨line, k, hline, hwhole, hpos⟩ := exists_line_of_shape hshape
  have hnumber : numberOf? v "line" = some line := by simp [numberOf?, hline, number?]
  have hof (kind : Expectation) : ErrorMatch.of? kind line = some ⟨kind, line⟩ := by
    refine if_neg fun hbelow => ?_
    have := (Number.below_iff_of_whole hwhole 1).1 hbelow
    omega
  have halternative := shape_of_either hshape
  unfold readErrorMatch
  simp only [hnumber, Option.getD_some, hof]
  split_ifs at halternative ⊢ with hcode
  · rfl
  · obtain ⟨hrequired, hmembers⟩ := of_record halternative
    have hlevel := faultOf_readLevel
      (hmembers "level" (oneOf levelNames) (by simp [patternMembers])) (hrequired _ (by simp))
    refine (faultOf_bind (b := none) fun pattern _ => ?_).trans ?_
    · rw [faultOf_bind (b := none) fun level _ => rfl, hlevel]
      rfl
    · rw [faultOf_readPattern, Option.or_none, List.findSome?_singleton]

theorem faultOf_matches (file : Path) (set : Nat) (hshape : setShape v = none) :
    faultOf (forItems (readErrorMatch file set) 0 (itemsOf v "error_matches")) =
      (matchParts set v).findSome? Part.fault? := by
  have hlist : ∀ w, v.get? "error_matches" = some w →
      listOf (either [patternMatchShape, codeMatchShape]) w = none :=
    of_setShape hshape (by simp [setMembers])
  exact faultOf_forItems (fun _ _ hw => faultOf_readErrorMatch (of_listOf hlist hw)) 0

theorem faultOf_others (set : Nat) (span : Json → Span) (v : Json) :
    faultOf (forItems (fun i w => readPattern set "error_in_other_files" i (span w) w) 0
      (itemsOf v "error_in_other_files")) = (otherParts set v).findSome? Part.fault? := by
  refine faultOf_forItems (fun i w _ => ?_) 0
  rw [faultOf_readPattern, List.findSome?_singleton]

theorem faultOf_rules (set : Nat) (list : String) (v : Json) :
    faultOf (forItems (readNormalization set list) 0 (itemsOf v list)) =
      (ruleParts set list v).findSome? Part.fault? :=
  faultOf_forItems (fun _ _ _ => (List.findSome?_singleton ..).symm) 0

/-- The mode and the custom flags are read last, whatever is made of them. -/
theorem faultOf_modeAndFlags {α : Type} (set : Nat) (span : Span) (v : Json)
    (f : Option Mode → List (String × Spanned Flag) → α) :
    faultOf (do
      let mode ← readMode set v
      let custom ← ((v.get? "custom").map Json.members |>.getD []).mapM fun m =>
        readFlag set span m.1 m.2
      return f mode custom) =
      (Part.mode set v).fault?.or ((flagParts set v).findSome? Part.fault?) := by
  refine faultOf_bind fun _ _ => ?_
  refine (faultOf_bind (b := none) fun _ _ => rfl).trans ?_
  rw [Option.or_none]
  exact faultOf_mapM fun _ _ => faultOf_readFlag ..

/-- Reading a set goes wrong with the first of its parts that does. -/
theorem faultOf_readSet (file : Path) (set : Nat) (hshape : setShape v = none) :
    faultOf (readSet file set v) = (setParts set v).findSome? Part.fault? := by
  have hlevel : ∀ w, v.get? "require_annotations_for_level" = some w → oneOf levelNames w = none :=
    of_setShape hshape (by simp [setMembers])
  simp only [setParts, List.findSome?_append, List.findSome?_singleton]
  unfold readSet
  dsimp only
  rw [← faultOf_matches file set hshape]
  refine faultOf_bind fun _ _ => ?_
  rw [← faultOf_others set fun w => ⟨some file, (numberOf? w "annotation_line").or _⟩]
  refine faultOf_bind fun _ _ => ?_
  rw [← faultOf_rules]
  refine faultOf_bind fun _ _ => ?_
  rw [← faultOf_rules]
  refine faultOf_bind fun _ _ => ?_
  split
  case isTrue hhas =>
    refine (faultOf_bind fun _ _ => faultOf_modeAndFlags set _ v _).trans ?_
    rw [faultOf_readLevel hlevel hhas]
    rfl
  case isFalse => exact faultOf_modeAndFlags set _ v _

/-- Reading a document goes wrong with the first of its parts that does. -/
theorem faultOf_ofJson (file : Path) (hshape : shape v = none) :
    faultOf (ofJson file v) = (parts v).findSome? Part.fault? := by
  have hlist : ∀ w, v.get? "directives" = some w → listOf setShape w = none :=
    member_eq_none_iff.1 (all_eq_none_iff.1 hshape _ (by simp))
  have hset : ∀ i, ∀ w ∈ itemsOf v "directives",
      faultOf (readDeclaredSet file (textsOf v "revisions") i w) =
        (Part.revisions i ((textsOf w "revisions").filter (!(textsOf v "revisions").contains ·)) ::
          setParts i w).findSome? Part.fault? := by
    intro i w hw
    rw [List.findSome?_cons, ← faultOf_readSet file i (of_listOf hlist hw), readDeclaredSet,
      Part.fault?]
    split <;> rfl
  rw [ofJson, hshape]
  dsimp only
  rw [faultOf_bind (b := none) fun _ _ => rfl, Option.or_none]
  exact faultOf_forItems hset 0

end Read

/-! ## What is wrong with parts -/

section Wrong

variable {set i : Nat} {list name : String} {v : Json} {f : Fault}

/-- The fault of a regular expression that is checked: an error in the directives if it is
malformed, and the error itself otherwise. -/
theorem faultOf_checked {α : Type} {reject : Regex.Error → DirectivesError}
    {x : Except Regex.Error α} :
    faultOf (checked reject x) = some f ↔ ∃ e, x = .error e ∧
      (Part.IsMalformed e ∧ f = .directives (reject e) ∨ ¬ Part.IsMalformed e ∧ f = .regex e) := by
  cases x with
  | ok a => simp [checked, faultOf]
  | error e =>
    cases e <;> simp [checked, faultOf, Part.IsMalformed, eq_comm]

theorem faultOf_encoded {member : Option Json} :
    faultOf (encoded (member.getD .null)) = some f ↔
      (∃ codes, member = some (.broken codes)) ∧ f = .unencodable := by
  rcases member with _ | w
  · simp [encoded, faultOf]
  · cases w <;> simp [encoded, faultOf, eq_comm]

theorem faultOf_encoded_eq_none {member : Option Json} :
    faultOf (encoded (member.getD .null)) = none ↔ ∀ codes, member ≠ some (.broken codes) := by
  rcases member with _ | w
  · simp [encoded, faultOf]
  · cases w <;> simp [encoded, faultOf]

theorem faultOf_checked_eq_none {α : Type} {reject : Regex.Error → DirectivesError}
    {x : Except Regex.Error α} : faultOf (checked reject x) = none ↔ ∃ a, x = .ok a := by
  cases x with
  | ok a => simp [checked, faultOf]
  | error e => cases e <;> simp [checked, faultOf]

/-- The bytes of a member are those of its text. -/
theorem eq_of_encoded {bytes : Bytes} (h : encoded ((v.get? name).getD .null) = .ok bytes) :
    bytes = Bytes.ofText (textOf v name) := by
  rcases hmember : v.get? name with _ | w
  · rw [hmember] at h
    cases h
    simp [textOf, hmember, text?]
  · rw [hmember] at h
    cases w <;> cases h <;> simp [textOf, hmember, text?]

theorem fault?_pattern : (Part.pattern set list i v).fault? = some f ↔
    (∃ e, (Part.pattern set list i v).Rejected e ∧ f = .directives e) ∨
      (Part.pattern set list i v).Escapes f := by
  have hfault : (Part.pattern set list i v).fault? = some f ↔ flagOf v "regex" false = true ∧
      faultOf (checked (.badPattern set list i) (Regex.ofText (textOf v "pattern"))) = some f := by
    unfold Part.fault? readPattern
    dsimp only
    split_ifs with hregex
    · rw [faultOf_bind (b := none) fun _ _ => rfl, Option.or_none]
      simp [hregex]
    · simp [hregex, faultOf, pure, Except.pure]
  rw [hfault, faultOf_checked]
  constructor
  · rintro ⟨hregex, e, he, ⟨hmalformed, rfl⟩ | ⟨hother, rfl⟩⟩
    · exact .inl ⟨_, .pattern hregex he hmalformed, rfl⟩
    · exact .inr (.pattern hregex he hother)
  · rintro (⟨e, h, rfl⟩ | h)
    · cases h with
      | pattern hregex he hmalformed => exact ⟨hregex, _, he, .inl ⟨hmalformed, rfl⟩⟩
    · cases h with
      | pattern hregex he hother => exact ⟨hregex, _, he, .inr ⟨hother, rfl⟩⟩

/-- A rule is read from its pattern first and then from its replacement. -/
theorem fault?_rule_eq : (Part.rule set list i v).fault? =
    (faultOf (encoded ((v.get? "pattern").getD .null))).or
      ((faultOf (checked (.badNormalization set list i)
          (Regex.ofBytes (Bytes.ofText (textOf v "pattern"))))).or
        (faultOf (encoded ((v.get? "replacement").getD .null)))) := by
  refine faultOf_bind fun source hsource => ?_
  rw [eq_of_encoded hsource]
  refine faultOf_bind fun regex _ => ?_
  rw [faultOf_bind (b := none) fun _ _ => rfl, Option.or_none]

theorem fault?_rule : (Part.rule set list i v).fault? = some f ↔
    (∃ e, (Part.rule set list i v).Rejected e ∧ f = .directives e) ∨
      (Part.rule set list i v).Escapes f := by
  rw [fault?_rule_eq, Option.or_eq_some_iff, Option.or_eq_some_iff, faultOf_encoded,
    faultOf_encoded, faultOf_encoded_eq_none, faultOf_checked, faultOf_checked_eq_none]
  constructor
  · rintro (⟨⟨codes, hpattern⟩, rfl⟩ | ⟨hpattern, ⟨e, he, ⟨hmalformed, rfl⟩ | ⟨hother, rfl⟩⟩ |
      ⟨⟨regex, hregex⟩, ⟨codes, hreplacement⟩, rfl⟩⟩)
    · exact .inr (.source hpattern)
    · exact .inl ⟨_, .rule hpattern he hmalformed, rfl⟩
    · exact .inr (.rule hpattern he hother)
    · exact .inr (.replacement hpattern hregex hreplacement)
  · rintro (⟨e, h, rfl⟩ | h)
    · cases h with
      | rule hpattern he hmalformed => exact .inr ⟨hpattern, .inl ⟨_, he, .inl ⟨hmalformed, rfl⟩⟩⟩
    · cases h with
      | source hpattern => exact .inl ⟨⟨_, hpattern⟩, rfl⟩
      | rule hpattern he hother => exact .inr ⟨hpattern, .inl ⟨_, he, .inr ⟨hother, rfl⟩⟩⟩
      | replacement hpattern hregex hreplacement =>
        exact .inr ⟨hpattern, .inr ⟨⟨_, hregex⟩, ⟨_, hreplacement⟩, rfl⟩⟩

theorem name_of_ofName? {text : String} {required : Bool} {mode : Mode}
    (h : Mode.ofName? text required = some mode) : text = mode.name := by
  unfold Mode.ofName? at h
  split_ifs at h <;> cases h <;> assumption

theorem fault?_mode : (Part.mode set v).fault? = some f ↔
    (∃ e, (Part.mode set v).Rejected e ∧ f = .directives e) ∨ (Part.mode set v).Escapes f := by
  constructor
  · intro h
    rw [Part.fault?, readMode] at h
    by_cases hhas : v.has "mode" = true
    · rw [if_pos hhas] at h
      split at h
      · cases h
      · next mode hfail hmode =>
        split at h
        next hrequired =>
          cases h
          refine .inl ⟨_, .mode hhas (name_of_ofName? hmode) ?_ hrequired, rfl⟩
          cases mode with
          | fail required => exact absurd rfl (hfail required)
          | _ => decide
        next => cases h
      · cases h
    · rw [if_neg hhas] at h
      cases h
  · rintro (⟨e, h, rfl⟩ | h)
    · cases h with
      | @mode _ _ mode hhas hmode hname hrequired =>
        rw [Part.fault?, readMode, if_pos hhas, hmode]
        cases mode with
        | fail required => exact absurd rfl hname
        | _ => simp [Mode.ofName?, Mode.name, hrequired, faultOf]
    · cases h

theorem statusOf_infinite_iff {w : Json} :
    Flag.statusOf w = .error .infiniteStatus ↔
      ∃ negative, w = .number (.real (.infinite negative)) := by
  cases w with
  | number x =>
    cases x with
    | int n => simp [Flag.statusOf]
    | real x => cases x <;> simp [Flag.statusOf, Double.truncate?]
  | text s => cases h : Text.integer? s <;> simp [Flag.statusOf, h, Except.mapError]
  | broken codes =>
    cases h : Text.integer? (repaired codes) <;> simp [Flag.statusOf, h, Except.mapError]
  | _ => simp [Flag.statusOf]

/-- A flag has an infinite exit status iff it runs the program and is given one. -/
theorem infiniteStatus_iff :
    Flag.ofJson v = .error .infiniteStatus ↔ v.get? "kind" = some (.text "run") ∧
      ∃ negative, v.get? "exit_code" = some (.number (.real (.infinite negative))) := by
  constructor
  · intro h
    unfold Flag.ofJson at h
    split at h
    · split at h
      · rcases bind_error_iff.1 h with h | ⟨_, -, h⟩
        · unfold Flag.argsOf at h
          split at h <;> cases h
        · cases h
      · next hkind =>
        rcases bind_error_iff.1 h with h | ⟨_, -, h⟩
        · obtain ⟨negative, hstatus⟩ := statusOf_infinite_iff.1 h
          refine ⟨?_, negative, ?_⟩
          · cases hget : Json.get? _ "kind" <;> rw [hget] at hkind <;> cases hkind
            rfl
          · cases hget : Json.get? _ "exit_code" <;> rw [hget] at hstatus <;> cases hstatus
            rfl
        · cases h
      all_goals cases h
    · cases h
  · rintro ⟨hkind, negative, hstatus⟩
    cases v with
    | object ms =>
      simp [Flag.ofJson, hkind, hstatus, Flag.statusOf, Double.truncate?, bind, Except.bind]
    | _ => cases hkind

theorem fault?_flag : (Part.flag set name v).fault? = some f ↔
    (∃ e, (Part.flag set name v).Rejected e ∧ f = .directives e) ∨
      (Part.flag set name v).Escapes f := by
  have hfault : (Part.flag set name v).fault? = some f ↔ ∃ e, Flag.ofJson v = .error e ∧
      (e ≠ .infiniteStatus ∧ f = .directives (.badFlag set name e) ∨
        e = .infiniteStatus ∧ f = .flag .infiniteStatus) := by
    rw [Part.fault?, readFlag]
    rcases Flag.ofJson v with e | flag
    · cases e <;> simp [faultOf, eq_comm]
    · simp [faultOf]
  rw [hfault]
  constructor
  · rintro ⟨e, he, ⟨hother, rfl⟩ | ⟨rfl, rfl⟩⟩
    · exact .inl ⟨_, .flag he hother, rfl⟩
    · obtain ⟨hkind, negative, hstatus⟩ := infiniteStatus_iff.1 he
      exact .inr (.flag hkind hstatus)
  · rintro (⟨e, h, rfl⟩ | h)
    · cases h with
      | flag he hother => exact ⟨_, he, .inl ⟨hother, rfl⟩⟩
    · cases h with
      | flag hkind hstatus => exact ⟨_, infiniteStatus_iff.2 ⟨hkind, _, hstatus⟩, .inr ⟨rfl, rfl⟩⟩

theorem fault?_revisions {undeclared : List String} :
    (Part.revisions set undeclared).fault? = some f ↔
      (∃ e, (Part.revisions set undeclared).Rejected e ∧ f = .directives e) ∨
        (Part.revisions set undeclared).Escapes f := by
  have hfault : (Part.revisions set undeclared).fault? = some f ↔
      undeclared ≠ [] ∧ f = .directives (.undeclaredRevisions set undeclared) := by
    unfold Part.fault?
    cases undeclared <;> simp [eq_comm]
  rw [hfault]
  constructor
  · rintro ⟨hne, rfl⟩
    exact .inl ⟨_, .revisions hne, rfl⟩
  · rintro (⟨e, h, rfl⟩ | h)
    · cases h with
      | revisions hne => exact ⟨hne, rfl⟩
    · cases h

/-- A part goes wrong if it is rejected or if a fault escapes from it. -/
theorem Part.fault?_eq_some_iff (p : Part) :
    p.fault? = some f ↔ (∃ e, p.Rejected e ∧ f = .directives e) ∨ p.Escapes f := by
  cases p with
  | revisions => exact fault?_revisions
  | pattern => exact fault?_pattern
  | rule => exact fault?_rule
  | mode => exact fault?_mode
  | flag => exact fault?_flag

theorem Part.fault?_eq_none_iff (p : Part) : p.fault? = none ↔ p.Accepted := by
  rw [Option.eq_none_iff_forall_ne_some]
  constructor
  · intro h
    exact ⟨fun e he => h _ (p.fault?_eq_some_iff.2 (.inl ⟨e, he, rfl⟩)),
      fun f hf => h f (p.fault?_eq_some_iff.2 (.inr hf))⟩
  · intro h f hf
    rcases p.fault?_eq_some_iff.1 hf with ⟨e, he, -⟩ | hf
    · exact h.notRejected e he
    · exact h.noEscape f hf

end Wrong

/-! ## Loading -/

/-- How loading a document ends. -/
inductive Ends (v : Json) : Except Fault Directives → Prop where
  /-- All parts are accepted. -/
  | loaded {d : Directives} (h : ∀ p ∈ parts v, p.Accepted) : Ends v (.ok d)
  /-- A part is rejected. -/
  | rejected {before after : List Part} {p : Part} {e : DirectivesError}
    (hparts : parts v = before ++ p :: after) (hbefore : ∀ q ∈ before, q.Accepted)
    (h : p.Rejected e) : Ends v (.error (.directives e))
  /-- A fault escapes from a part. -/
  | escaped {before after : List Part} {p : Part} {f : Fault}
    (hparts : parts v = before ++ p :: after) (hbefore : ∀ q ∈ before, q.Accepted)
    (h : p.Escapes f) : Ends v (.error f)

/-- **What loading refuses**: the first part of a document that is not accepted decides how it
ends. -/
theorem ofJson_outcome {v : Json} (h : shape v = none) (file : Path) : Ends v (ofJson file v) := by
  have hfault := faultOf_ofJson file h
  cases hread : ofJson file v with
  | ok d =>
    rw [hread] at hfault
    refine .loaded fun p hp => ?_
    exact p.fault?_eq_none_iff.1 (List.findSome?_eq_none_iff.1 hfault.symm p hp)
  | error f =>
    rw [hread] at hfault
    obtain ⟨before, p, after, hparts, hp, hbefore⟩ :=
      List.findSome?_eq_some_iff.1 hfault.symm
    have hbefore : ∀ q ∈ before, q.Accepted :=
      fun q hq => q.fault?_eq_none_iff.1 (hbefore q hq)
    rcases p.fault?_eq_some_iff.1 hp with ⟨e, he, rfl⟩ | hf
    · exact .rejected hparts hbefore he
    · exact .escaped hparts hbefore hf

/-- A document with directives of all kinds has only parts that are accepted. -/
theorem fullDocument_accepted :
    shape fullDocument = none ∧ ∀ p ∈ parts fullDocument, p.Accepted := by
  have hshape : shape fullDocument = none := by decide +kernel
  have hends := ofJson_outcome hshape fullFile
  obtain ⟨d, hd⟩ : ∃ d, ofJson fullFile fullDocument = .ok d :=
    exists_ok_of_toOption_isSome (by decide +kernel)
  rw [hd] at hends
  cases hends with
  | loaded h => exact ⟨hshape, h⟩

/-- A rule with a repetition that no matcher can count. -/
def countlessDocument : Json :=
  .object [("directives", .array [
    .object [("normalize_stderr", .array [
      .object [("pattern", .text "a\x7b99999999999\x7d"), ("replacement", .text "")]])]])]

/-- Whether a fault is an error in the directives. -/
def isRejection : Fault → Bool
  | .directives _ => true
  | _ => false

/-- There are documents with the shape of directives that are neither loaded nor refused with an
error in the directives. -/
theorem countlessDocument_escapes :
    ¬ ∀ (v : Json) (file : Path), shape v = none →
      (∃ d, ofJson file v = .ok d) ∨ ∃ e, ofJson file v = .error (.directives e) := by
  intro h
  have hshape : shape countlessDocument = none := by decide +kernel
  have hfault : (faultOf (ofJson fullFile countlessDocument)).map isRejection = some false := by
    decide +kernel
  rcases h countlessDocument fullFile hshape with ⟨d, hd⟩ | ⟨e, he⟩
  · rw [hd] at hfault
    cases hfault
  · rw [he] at hfault
    cases hfault

end Directives

end CompilerTest

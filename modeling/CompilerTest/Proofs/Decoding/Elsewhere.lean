import CompilerTest.Proofs.Decoding.Preorder

/-!
# Diagnostics of other files

A diagnostic may say that it stands in another file. It has no line of its own then, just like one
that does not say at all where it stands, and decoding does not tell the two apart: both stand on
the line that is handed down to them, which is that of the nearest diagnostic above with a line of
its own.

Main statement: a diagnostic of another file is among the messages without a line iff no positive
line is handed down to it (`insertTree_elsewhere`).
-/

namespace CompilerTest

namespace Diagnostics

/-! ## Diagnostics that stand in other files -/

/-- The spans of a diagnostic. -/
def spansOf (node : Json) : List Json := ((node.get? "spans").bind Json.items?).getD []

def isPrimary (span : Json) : Bool := ((span.get? "is_primary").getD .null).truthy

/-- Whether a span says where something is: it is primary, and it has a file and a line. -/
def isLocated (span : Json) : Bool :=
  isPrimary span && ((span.get? "file_name").bind Json.text?).isSome &&
    ((span.get? "line_start").bind lineOf?).isSome

/-- Whether a diagnostic says that it stands in other files than the tested one. -/
structure Subject.Elsewhere (s : Subject) (node : Json) : Prop where
  located : ∃ span ∈ spansOf node, isLocated span
  notTested : ∀ span ∈ spansOf node, isPrimary span → ∀ name, span.get? "file_name" = some name →
    s.names name ≠ .ok true

section Spans

variable {s : Subject}

theorem names_of_spanLine? {span : Json} {mark : LineMark}
    (h : spanLine? s span = .ok (some mark)) :
    isPrimary span ∧ ∃ name, span.get? "file_name" = some name ∧ s.names name = .ok true := by
  unfold spanLine? at h
  split at h
  next hprimary =>
    split at h
    next name line hname hline =>
      obtain ⟨isTested, hnames, h⟩ := bind_ok_iff.1 h
      cases isTested with
      | true => exact ⟨hprimary, name, hname, hnames⟩
      | false => cases h
    next => cases h
  next => cases h

theorem firstLine?_of_notTested {spans : List Json} {own : Option LineMark}
    (hspans : ∀ span ∈ spans, isPrimary span → ∀ name, span.get? "file_name" = some name →
      s.names name ≠ .ok true)
    (h : firstLine? s spans = .ok own) : own = none := by
  induction spans with
  | nil => cases h; rfl
  | cons span spans ih =>
    obtain ⟨hspan, hspans⟩ := List.forall_mem_cons.1 hspans
    rw [firstLine?] at h
    obtain ⟨line?, hline, h⟩ := bind_ok_iff.1 h
    cases line? with
    | some mark =>
      obtain ⟨hprimary, name, hname, hnames⟩ := names_of_spanLine? hline
      exact absurd hnames (hspan hprimary name hname)
    | none => exact ih hspans h

theorem Subject.Elsewhere.own_eq_none {node : Json} {own : Option LineMark} (h : s.Elsewhere node)
    (hown : primaryLine s ((node.get? "spans").getD .null) = .ok own) : own = none := by
  obtain ⟨-, hnotTested⟩ := h
  unfold spansOf at hnotTested
  cases hspans : node.get? "spans" with
  | none =>
    rw [hspans] at hown
    cases hown
    rfl
  | some spans =>
    rw [hspans] at hown hnotTested
    cases spans with
    | array items => exact firstLine?_of_notTested hnotTested hown
    | _ => cases hown; rfl

end Spans

/-! ## Lines that are handed down -/

/-- Whether a line is handed down to an address of a tree whose parent stands on a line: it is that
of the nearest diagnostic above which has one of its own. -/
inductive Subject.Handed (s : Subject) (parent : Option Int) (tree : Json) :
    Address → Int → Prop where
  | parent {n : Int} (h : parent = some n) : Handed s parent tree [] n
  | own {a : Address} {i : Nat} {node : Json} {mark : LineMark} (hnode : nodeAt? tree a = some node)
    (hown : primaryLine s ((node.get? "spans").getD .null) = .ok (some mark)) :
    Handed s parent tree (a ++ [i]) mark.value
  | above {a : Address} {i : Nat} {node : Json} {n : Int} (hnode : nodeAt? tree a = some node)
    (hown : primaryLine s ((node.get? "spans").getD .null) = .ok none)
    (h : Handed s parent tree a n) : Handed s parent tree (a ++ [i]) n

theorem nodeAt?_append (tree : Json) (a b : Address) :
    nodeAt? tree (a ++ b) = (nodeAt? tree a).bind (nodeAt? · b) := by
  induction a generalizing tree with
  | nil =>
    rw [List.nil_append, nodeAt?]
    by_cases hobject : tree.isOf .object
    · rw [if_pos hobject, Option.bind_some]
    · rw [if_neg hobject, Option.bind_none]
      cases b with
      | nil => rw [nodeAt?, if_neg hobject]
      | cons i b => simp [nodeAt?, childrenOf_eq_nil (Bool.not_eq_true _ ▸ hobject)]
  | cons i a ih =>
    rw [List.cons_append, nodeAt?, nodeAt?, Option.bind_assoc]
    simp only [ih]

section Handed

variable {s : Subject} {parent : Option Int} {tree : Json} {visits : List Visit} {a : Address}

theorem handed_nil_iff {n : Int} : s.Handed parent tree [] n ↔ parent = some n := by
  constructor
  · intro h
    generalize ha : ([] : Address) = a at h
    cases h with
    | parent h => exact h
    | own | above => simp at ha
  · exact .parent

theorem handed_append_iff {i : Nat} {node : Json} {own : Option LineMark} {n : Int}
    (hnode : nodeAt? tree a = some node)
    (hown : primaryLine s ((node.get? "spans").getD .null) = .ok own) :
    s.Handed parent tree (a ++ [i]) n ↔
      own.map LineMark.value = some n ∨ own = none ∧ s.Handed parent tree a n := by
  constructor
  · intro h
    generalize ha : a ++ [i] = b at h
    cases h with
    | parent => simp at ha
    | own hnode' hown' =>
      obtain ⟨rfl, -⟩ := List.append_inj' ha rfl
      rw [hnode] at hnode'
      cases hnode'
      rw [hown] at hown'
      cases hown'
      exact .inl rfl
    | above hnode' hown' h =>
      obtain ⟨rfl, -⟩ := List.append_inj' ha rfl
      rw [hnode] at hnode'
      cases hnode'
      rw [hown] at hown'
      cases hown'
      exact .inr ⟨rfl, h⟩
  · rintro (hmark | ⟨rfl, h⟩)
    · obtain ⟨mark, rfl, rfl⟩ := Option.map_eq_some_iff.1 hmark
      exact .own hnode hown
    · exact .above hnode hown h

/-- A diagnostic without a line of its own stands on the line that is handed down to it. -/
theorem Subject.Preorder.line_eq_some_iff (hvisits : s.Preorder parent tree visits) {v : Visit}
    (hv : v ∈ visits) (hown : primaryLine s ((v.node.get? "spans").getD .null) = .ok none)
    (n : Int) : v.line = some n ↔ s.Handed parent tree v.address n := by
  -- from the parent to the child, so along the address from its end
  obtain ⟨address, node, line⟩ := v
  induction address using List.reverseRecOn generalizing node line with
  | nil =>
    rw [hvisits.root _ hv rfl hown, handed_nil_iff]
  | append_singleton a i ih =>
    have hnode : nodeAt? tree (a ++ [i]) = some node := (hvisits.exists_iff _ _).1 ⟨line, hv⟩
    rw [nodeAt?_append] at hnode
    obtain ⟨above, habove, -⟩ := Option.bind_eq_some_iff.1 hnode
    obtain ⟨lineAbove, hw⟩ := (hvisits.exists_iff a above).2 habove
    obtain ⟨own, hownAbove⟩ := hvisits.lookedUp _ hw
    rw [handed_append_iff habove hownAbove, hvisits.child _ _ i hv hw rfl hown]
    cases own with
    | some mark =>
      have hline : lineAbove = some mark.value := hvisits.own _ mark hw hownAbove
      simp [hline]
    | none =>
      have hline : lineAbove = some n ↔ s.Handed parent tree a n := ih above lineAbove hw hownAbove
      simp [hline]

end Handed

/-! ## Where diagnostics of other files stand -/

/-- Where decoding puts the message of a visited diagnostic: to the line that is handed down to it,
or to the messages without a line if there is none or it is not positive. -/
structure Subject.PlacedFromAbove (s : Subject) (parent : Option Int) (tree : Json)
    (v : Visit) : Prop where
  line_iff (n : Int) : v.line = some n ↔ s.Handed parent tree v.address n
  unknown_iff : bucketOf? v.line = none ↔ ∀ n, s.Handed parent tree v.address n → n ≤ 0

section Tree

variable {s : Subject} {parent : Option Int} {d d' : Decoding}

theorem insertTree_of_own {ms : List (String × Json)} {own : Option LineMark}
    (hown : primaryLine s (((Json.object ms).get? "spans").getD .null) = .ok own) (d : Decoding) :
    insertTree s parent (.object ms) d =
      insertMembers s ((own.map LineMark.value).or parent) ms
        (addOwn ((own.map LineMark.value).or parent) (.object ms) d) := by
  rw [insertTree, hown]
  rfl

/-- **Diagnostics of other files.** Of the messages that decoding a tree adds, one for each
diagnostic of a known level, that of a diagnostic which says that it stands in other files is among
the messages without a line iff no positive line is handed down to it; otherwise it is on that line.
-/
theorem insertTree_elsewhere {tree : Json} {entries : List (Option Int × Message)}
    {rendered : Bytes}
    (hd : d.diagnostics = { ofEntries entries with rendered })
    (h : insertTree s parent tree d = .ok d') :
    ∃ visits, s.Preorder parent tree visits ∧
      Extends d.diagnostics d'.diagnostics (visits.filterMap Visit.entry?) ∧
      ∀ v ∈ visits, s.Elsewhere v.node → s.PlacedFromAbove parent tree v := by
  have hfirst : d.diagnostics.lines.head? = some [] := by
    obtain ⟨rest, hrest⟩ := lines_ofEntries entries
    rw [hd]
    show (ofEntries entries).lines.head? = some []
    rw [hrest]
    rfl
  have hvisits := preorder_visits h
  refine ⟨visits s parent tree, hvisits, ?_, ?_⟩
  · rw [(insertTree_ok h).1]
    exact extends_pushAll hfirst _
  · intro v hv helsewhere
    obtain ⟨own, hown⟩ := hvisits.lookedUp v hv
    cases helsewhere.own_eq_none hown
    have hline := hvisits.line_eq_some_iff hv hown
    refine ⟨hline, ?_⟩
    simp only [← hline]
    cases v.line <;> simp [bucketOf?]

end Tree

/-! ## A note in another file -/

/-- A primary span of another file than `t.rs`. -/
def foreignSpan : Json :=
  .object [("is_primary", .bool true), ("file_name", .text "other.rs"), ("line_start", .int 7)]

def foreignNote : Json :=
  .object [("level", .text "note"), ("message", .text "n"), ("spans", .array [foreignSpan])]

/-- An error on line 1 with a note in another file. -/
def foreignChild : Json := .object [
  ("level", .text "error"), ("message", .text "m"), ("spans", .array [spanOn 1]),
  ("children", .array [foreignNote])]

def foreignFound : Decoding where
  diagnostics := { lines := [[], [⟨.error, "m", none⟩, ⟨.note, "n", none⟩]] }

theorem names_other : anyFile.names (.text "other.rs") = .ok false := by
  have hother : anyFile.tree.realPath false (.ofText "other.rs") = .ok ⟨.single, ["other.rs"]⟩ := by
    decide +kernel
  have htested : anyFile.tree.realPath false anyFile.file = .ok ⟨.single, ["t.rs"]⟩ := by
    decide +kernel
  have hne : Path.ofText "other.rs" ≠ anyFile.file := by decide
  rw [Subject.names, Subject.isTested, if_neg hne]
  simp only [hother, htested]
  rfl

theorem foreignNote_elsewhere : anyFile.Elsewhere foreignNote where
  located := ⟨foreignSpan, List.mem_singleton_self _, rfl⟩
  notTested := by
    intro span hspan _ name hname
    cases List.mem_singleton.1 hspan
    cases hname
    rw [names_other]
    exact fun h => nomatch h

theorem primaryLine_foreignNote :
    primaryLine anyFile ((foreignNote.get? "spans").getD .null) = .ok none := by
  show firstLine? anyFile [foreignSpan] = .ok none
  have hspan : spanLine? anyFile foreignSpan = .ok none := by
    show (do return if ← anyFile.names (.text "other.rs") then some (LineMark.number 7) else none) =
      Except.ok none
    rw [names_other]
    rfl
  rw [firstLine?, hspan]
  rfl

theorem primaryLine_foreignChild :
    primaryLine anyFile ((foreignChild.get? "spans").getD .null) = .ok (some (.number 1)) := by
  rfl

theorem insertTree_foreignChild : insertTree anyFile none foreignChild {} = .ok foreignFound := by
  have hnote := primaryLine_foreignNote
  have herror := primaryLine_foreignChild
  rw [foreignChild] at herror ⊢
  rw [insertTree_of_own herror]
  rw [foreignNote] at hnote ⊢
  simp only [insertMembers, insertChildren, insertItems, insertTree_of_own hnote]
  rfl

theorem foreignChild_elsewhere :
    insertTree anyFile none foreignChild {} = .ok foreignFound ∧
      ∃ visits, anyFile.Preorder none foreignChild visits ∧
        Extends {} foreignFound.diagnostics (visits.filterMap Visit.entry?) ∧
        ⟨[0], foreignNote, some 1⟩ ∈ visits := by
  refine ⟨insertTree_foreignChild, ?_⟩
  have hstart : ({} : Decoding).diagnostics = { ofEntries [] with rendered := [] } := rfl
  obtain ⟨visits, hvisits, hextends, hplaced⟩ :=
    insertTree_elsewhere hstart insertTree_foreignChild
  obtain ⟨line, hv⟩ := (hvisits.exists_iff [0] foreignNote).2 rfl
  -- the line of the error is handed down to the note
  have hroot : nodeAt? foreignChild [] = some foreignChild := rfl
  have hhanded : anyFile.Handed none foreignChild ([] ++ [0]) 1 :=
    .own hroot primaryLine_foreignChild
  have hline : line = some 1 := ((hplaced _ hv foreignNote_elsewhere).line_iff 1).2 hhanded
  exact ⟨visits, hvisits, hextends, hline ▸ hv⟩

/-- There is a diagnostic that says that it stands in another file, and whose message is not among
those without a line. -/
theorem foreignNote_not_unknown :
    ¬ ∀ (s : Subject) (tree : Json) (d : Decoding), insertTree s none tree {} = .ok d →
      ∀ (a : Address) (node : Json) (m : Message), nodeAt? tree a = some node → s.Elsewhere node →
        messageOf? node = some m → m ∈ d.diagnostics.unknown := by
  intro h
  have hmem := h anyFile foreignChild foreignFound insertTree_foreignChild [0] foreignNote
    ⟨.note, "n", none⟩ rfl foreignNote_elsewhere rfl
  exact List.not_mem_nil hmem

end Diagnostics

end CompilerTest

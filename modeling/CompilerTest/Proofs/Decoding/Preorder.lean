import CompilerTest.Proofs.Decoding.Lines
import CompilerTest.Proofs.Matching.Annotating

/-!
# Trees of diagnostics in preorder

A diagnostic has children, which are diagnostics in turn, so it is a tree. An address names one
diagnostic in it, by the positions of the children that lead there, and the order of addresses as
lists is the preorder of the tree. Decoding visits every diagnostic of the tree once and in this
order, each with the line on which it stands: its own or that of its parent.

Main statement: decoding a tree adds one message for each diagnostic of a known level, in preorder,
to the bucket of its line or to the messages without a line, and does nothing else
(`insertTree_preorder`).
-/

namespace CompilerTest

namespace Diagnostics

/-! ## Adding messages -/

/-- The diagnostics with further messages, added one after the other. -/
def pushAll (d : Diagnostics) (entries : List (Option Int × Message)) : Diagnostics :=
  entries.foldl (fun d (line, m) => d.push line m) d

/-- The bucket of a line, if it has one. -/
def bucketOf? (line : Option Int) : Option Nat := (line.filter (0 < ·)).map Int.toNat

/-- The messages of the entries for a bucket, or of those for none, in order. -/
def messagesFor (bucket : Option Nat) (entries : List (Option Int × Message)) : List Message :=
  (entries.filter fun e => bucketOf? e.1 = bucket).map Prod.snd

/-- The number of buckets that entries need: one more than the greatest line, if there is one. -/
def bucketsFor (entries : List (Option Int × Message)) : Nat :=
  (entries.filterMap fun e => bucketOf? e.1).foldr (fun n most => max (n + 1) most) 0

/-- What there is after entries have been added: in each bucket, and among the messages without a
line, the old messages come first, then those of the entries in their order. -/
structure Extends (d d' : Diagnostics) (entries : List (Option Int × Message)) : Prop where
  /-- The messages without a line. -/
  unknown : d'.unknown = d.unknown ++ messagesFor none entries
  /-- The messages of each line. -/
  bucket (n : Nat) : d'.lines.getD n [] = d.lines.getD n [] ++ messagesFor (some n) entries
  /-- The bucket of line zero is there, and it is empty. -/
  first : d'.lines.head? = some []
  /-- There are as many buckets as before or, if that is more, as the entries need. -/
  length : d'.lines.length = max d.lines.length (bucketsFor entries)
  /-- What a user sees. -/
  rendered : d'.rendered = d.rendered

section Extends

variable {d : Diagnostics}

theorem length_addAt (m : Message) (n : Nat) (buckets : List (List Message)) :
    (addAt m n buckets).length = max buckets.length (n + 1) := by
  fun_induction addAt m n buckets with
  | case1 => rfl
  | case2 bucket rest => simp
  | case3 n ih => simpa using ih
  | case4 n bucket rest ih => simp [ih]

theorem getD_addAt (m : Message) (n k : Nat) (buckets : List (List Message)) :
    (addAt m n buckets).getD k [] = buckets.getD k [] ++ if n = k then [m] else [] := by
  fun_induction addAt m n buckets generalizing k with
  | case1 => cases k <;> simp
  | case2 bucket rest => cases k <;> simp
  | case3 n ih =>
    cases k with
    | zero => simp
    | succ k => simpa using ih k
  | case4 n bucket rest ih =>
    cases k with
    | zero => simp
    | succ k => simpa using ih k

/-- Adding one message. -/
theorem extends_push (hfirst : d.lines.head? = some []) (line : Option Int) (m : Message) :
    Extends d (d.push line m) [(line, m)] := by
  by_cases hline : ∃ n, line = some n ∧ 0 < n
  · obtain ⟨n, rfl, hn⟩ := hline
    have hbucket : bucketOf? (some n) = some n.toNat := by simp [bucketOf?, hn]
    have hpush : d.push (some n) m = { d with lines := addAt m n.toNat d.lines } := by
      simp [push, Int.not_le.2 hn]
    refine ⟨?_, fun k => ?_, ?_, ?_, ?_⟩
    · simp [hpush, messagesFor, hbucket]
    · rw [hpush, getD_addAt]
      by_cases hk : n.toNat = k <;> simp [messagesFor, hbucket, hk]
    · obtain ⟨k, hk⟩ : ∃ k, n.toNat = k + 1 := ⟨n.toNat - 1, by omega⟩
      cases hlines : d.lines with
      | nil => simp [hlines] at hfirst
      | cons bucket rest => simpa [hpush, hk, hlines, addAt] using hfirst
    · simp [hpush, length_addAt, bucketsFor, hbucket]
    · rw [hpush]
  · have hbucket : bucketOf? line = none := by
      cases line with
      | none => rfl
      | some n => simpa [bucketOf?] using fun hn => hline ⟨n, rfl, hn⟩
    have hpush : d.push line m = { d with unknown := d.unknown ++ [m] } := by
      cases line with
      | none => rfl
      | some n => exact if_pos (Int.not_lt.1 fun hn => hline ⟨n, rfl, hn⟩)
    refine ⟨?_, fun k => ?_, ?_, ?_, ?_⟩
    · simp [hpush, messagesFor, hbucket]
    · simp [hpush, messagesFor, hbucket]
    · rw [hpush, hfirst]
    · simp [hpush, bucketsFor, hbucket]
    · rw [hpush]

theorem messagesFor_cons (bucket : Option Nat) (e : Option Int × Message)
    (entries : List (Option Int × Message)) :
    messagesFor bucket (e :: entries) = messagesFor bucket [e] ++ messagesFor bucket entries := by
  rw [messagesFor, messagesFor, messagesFor, ← List.map_append, ← List.filter_append,
    List.singleton_append]

theorem bucketsFor_cons (e : Option Int × Message) (entries : List (Option Int × Message)) :
    bucketsFor (e :: entries) = max (bucketsFor [e]) (bucketsFor entries) := by
  cases h : bucketOf? e.1 <;> simp [bucketsFor, h]

/-- Adding messages one after the other. -/
theorem extends_pushAll (hfirst : d.lines.head? = some []) (entries : List (Option Int × Message)) :
    Extends d (d.pushAll entries) entries := by
  induction entries generalizing d with
  | nil =>
    exact ⟨by simp [pushAll, messagesFor], fun n => by simp [pushAll, messagesFor], hfirst,
      by simp [pushAll, bucketsFor], rfl⟩
  | cons e entries ih =>
    have hstep := extends_push hfirst e.1 e.2
    have hrest := ih hstep.first
    refine ⟨?_, fun n => ?_, hrest.first, ?_, hrest.rendered.trans hstep.rendered⟩
    · rw [messagesFor_cons, ← List.append_assoc, ← hstep.unknown]
      exact hrest.unknown
    · rw [messagesFor_cons, ← List.append_assoc, ← hstep.bucket n]
      exact hrest.bucket n
    · rw [bucketsFor_cons, ← Nat.max_assoc, ← hstep.length]
      exact hrest.length

end Extends

/-! ## Addresses -/

/-- Where a diagnostic is in a tree: the positions of the children that lead to it from the root. -/
abbrev Address := List Nat

/-- The children of a diagnostic, those that are no diagnostics included. -/
def childrenOf (node : Json) : List Json := ((node.get? "children").bind Json.items?).getD []

/-- The diagnostic at an address of a tree; only objects are diagnostics. -/
def nodeAt? (tree : Json) : Address → Option Json
  | [] => if tree.isOf .object then some tree else none
  | i :: rest => (childrenOf tree)[i]?.bind (nodeAt? · rest)

theorem childrenOf_eq_nil {v : Json} (h : v.isOf .object = false) : childrenOf v = [] := by
  cases v with
  | object ms => cases h
  | _ => rfl

theorem sizeOf_lt_of_mem_childrenOf {v child : Json} (h : child ∈ childrenOf v) :
    sizeOf child < sizeOf v := by
  have hlookup (items : List Json) (hchild : child ∈ items) :
      ∀ ms : List (String × Json), ms.lookup "children" = some (.array items) →
        sizeOf child < sizeOf ms := by
    intro ms
    induction ms with
    | nil => intro h; cases h
    | cons m ms ih =>
      obtain ⟨name, value⟩ := m
      intro h
      rw [List.lookup_cons] at h
      split at h
      · cases h
        have hlt := List.sizeOf_lt_of_mem hchild
        simp only [List.cons.sizeOf_spec, Prod.mk.sizeOf_spec, Json.array.sizeOf_spec]
        omega
      · have hlt := ih h
        simp only [List.cons.sizeOf_spec]
        omega
  cases v with
  | object ms =>
    unfold childrenOf at h
    cases hget : (Json.object ms).get? "children" with
    | none => simp [hget] at h
    | some children =>
      cases children with
      | array items =>
        rw [hget] at h
        have hlt := hlookup items h ms hget
        simp only [Json.object.sizeOf_spec]
        omega
      | _ => simp [hget, Json.items?] at h
  | _ => cases h

/-- What is true of everything that is no diagnostic, and of a diagnostic if it is true of its
children, is true of every tree. -/
theorem tree_induction {P : Json → Prop} (other : ∀ v, v.isOf .object = false → P v)
    (object : ∀ ms, (∀ child ∈ childrenOf (.object ms), P child) → P (.object ms)) :
    ∀ tree, P tree
  | .object ms => object ms fun child _ => tree_induction other object child
  | .null => other _ rfl
  | .bool _ => other _ rfl
  | .number _ => other _ rfl
  | .text _ => other _ rfl
  | .broken _ => other _ rfl
  | .array _ => other _ rfl
termination_by tree => sizeOf tree
decreasing_by exact sizeOf_lt_of_mem_childrenOf ‹_›

/-! ## Visits -/

/-- A visit to a diagnostic of a tree. -/
structure Visit where
  /-- Where the diagnostic is. -/
  address : Address
  /-- The diagnostic. -/
  node : Json
  /-- The line on which it stands. -/
  line : Option Int

/-- The visit as seen from the parent, of which the tree is the child at position `i`. -/
def Visit.below (i : Nat) (v : Visit) : Visit := { v with address := i :: v.address }

/-- The line of a diagnostic itself, if it has one in the tested file. -/
def Subject.ownLine? (s : Subject) (node : Json) : Option Int :=
  match primaryLine s ((node.get? "spans").getD .null) with
  | .ok own => own.map LineMark.value
  | .error _ => none

/-- The visits to all diagnostics of a tree whose parent stands on a line. -/
def visits (s : Subject) (parent : Option Int) (tree : Json) : List Visit :=
  if tree.isOf .object then
    let line := (s.ownLine? tree).or parent
    ⟨[], tree, line⟩ :: (childrenOf tree).attach.zipIdx.flatMap fun c =>
      (visits s line c.1.1).map (Visit.below c.2)
  else []
termination_by sizeOf tree
decreasing_by exact sizeOf_lt_of_mem_childrenOf c.1.2

section Visits

variable {s : Subject} {parent : Option Int}

theorem visits_other {v : Json} (h : v.isOf .object = false) : visits s parent v = [] := by
  rw [visits, h]
  rfl

theorem visits_object (ms : List (String × Json)) :
    visits s parent (.object ms) =
      ⟨[], .object ms, (s.ownLine? (.object ms)).or parent⟩ ::
        (childrenOf (.object ms)).zipIdx.flatMap fun c =>
          (visits s ((s.ownLine? (.object ms)).or parent) c.1).map (Visit.below c.2) := by
  conv_rhs => rw [← List.attach_map_subtype_val (childrenOf (.object ms)), List.zipIdx_map,
    List.flatMap_map]
  rw [visits]
  rfl

/-- A diagnostic is visited first, and then what is visited below its children is. -/
theorem mem_visits_object {ms : List (String × Json)} {v : Visit} :
    v ∈ visits s parent (.object ms) ↔
      v = ⟨[], .object ms, (s.ownLine? (.object ms)).or parent⟩ ∨
        ∃ i child w, (childrenOf (.object ms))[i]? = some child ∧
          w ∈ visits s ((s.ownLine? (.object ms)).or parent) child ∧ w.below i = v := by
  simp only [visits_object, List.mem_cons, List.mem_flatMap, List.mem_map, Prod.exists,
    List.mem_zipIdx_iff_getElem?]
  refine or_congr_right ⟨?_, ?_⟩
  · rintro ⟨child, i, hchild, w, hw, rfl⟩
    exact ⟨i, child, w, hchild, hw, rfl⟩
  · rintro ⟨i, child, w, hchild, hw, rfl⟩
    exact ⟨child, i, hchild, w, hw, rfl⟩

/-- The visits are in the order of their addresses. -/
theorem pairwise_visits (tree : Json) (parent : Option Int) :
    (visits s parent tree).Pairwise fun v w => v.address < w.address := by
  induction tree using tree_induction generalizing parent with
  | other v h => simp [visits_other h]
  | object ms ih =>
    rw [visits_object, List.pairwise_cons, List.pairwise_flatMap]
    refine ⟨?_, ?_, ?_⟩
    · intro v hv
      obtain ⟨c, -, hv⟩ := List.mem_flatMap.1 hv
      obtain ⟨w, -, rfl⟩ := List.mem_map.1 hv
      exact List.Lex.nil
    · intro c hc
      rw [List.pairwise_map]
      exact (ih c.1 (List.fst_mem_of_mem_zipIdx hc) _).imp fun h => List.Lex.cons h
    · have hindex : (childrenOf (.object ms)).zipIdx.Pairwise fun c c' => c.2 < c'.2 := by
        rw [← List.pairwise_map (f := Prod.snd) (R := (· < ·)), List.zipIdx_map_snd]
        exact List.pairwise_lt_range'
      refine hindex.imp fun hlt v hv w hw => ?_
      obtain ⟨v, -, rfl⟩ := List.mem_map.1 hv
      obtain ⟨w, -, rfl⟩ := List.mem_map.1 hw
      exact List.Lex.rel hlt

/-- Each diagnostic of the tree is visited. -/
theorem exists_visit_iff {tree : Json} {parent : Option Int} {a : Address} {node : Json} :
    (∃ line, ⟨a, node, line⟩ ∈ visits s parent tree) ↔ nodeAt? tree a = some node := by
  induction tree using tree_induction generalizing parent a with
  | other v h =>
    cases a with
    | nil => simp [visits_other h, nodeAt?, h]
    | cons i a => simp [visits_other h, nodeAt?, childrenOf_eq_nil h]
  | object ms ih =>
    simp only [mem_visits_object]
    cases a with
    | nil => simp [nodeAt?, Visit.below, Json.isOf, eq_comm]
    | cons i a =>
      rw [nodeAt?, Option.bind_eq_some_iff]
      constructor
      · rintro ⟨line, h | ⟨j, child, w, hchild, hw, h⟩⟩
        · cases h
        · cases h
          exact ⟨child, hchild, (ih child (List.mem_of_getElem? hchild)).1 ⟨_, hw⟩⟩
      · rintro ⟨child, hchild, hnode⟩
        obtain ⟨line, hw⟩ := (ih child (List.mem_of_getElem? hchild)).2 hnode
        exact ⟨line, .inr ⟨i, child, _, hchild, hw, rfl⟩⟩

/-- A diagnostic with a line of its own stands on it. -/
theorem line_of_own {tree : Json} {parent : Option Int} {v : Visit} {n : Int}
    (hv : v ∈ visits s parent tree) (hown : s.ownLine? v.node = some n) : v.line = some n := by
  induction tree using tree_induction generalizing parent v with
  | other tree h => simp [visits_other h] at hv
  | object ms ih =>
    obtain rfl | ⟨i, child, v', hchild, hv', rfl⟩ := mem_visits_object.1 hv
    · exact congrArg (Option.or · parent) hown
    · show v'.line = some n
      exact ih child (List.mem_of_getElem? hchild) hv' hown

/-- The tree itself stands on its own line or on that of its parent. -/
theorem line_of_root {tree : Json} {parent : Option Int} {v : Visit} (hv : v ∈ visits s parent tree)
    (hroot : v.address = []) : v.line = (s.ownLine? v.node).or parent := by
  induction tree using tree_induction generalizing parent with
  | other tree h => simp [visits_other h] at hv
  | object ms ih =>
    obtain rfl | ⟨i, child, w, -, -, rfl⟩ := mem_visits_object.1 hv
    · rfl
    · cases hroot

/-- A child stands on its own line or on that of its parent. -/
theorem line_of_child {tree : Json} {parent : Option Int} {v w : Visit} {i : Nat}
    (hv : v ∈ visits s parent tree) (hw : w ∈ visits s parent tree)
    (hchild : v.address = w.address ++ [i]) : v.line = (s.ownLine? v.node).or w.line := by
  induction tree using tree_induction generalizing parent v w with
  | other tree h => simp [visits_other h] at hv
  | object ms ih =>
    obtain rfl | ⟨j, child, v', hj, hv', rfl⟩ := mem_visits_object.1 hv
    · simp at hchild
    · obtain rfl | ⟨k, child', w', hk, hw', rfl⟩ := mem_visits_object.1 hw
      · have hroot : v'.address = [] := (List.cons.inj hchild).2
        show v'.line = (s.ownLine? v'.node).or _
        exact line_of_root hv' hroot
      · obtain ⟨rfl, hbelow⟩ := List.cons.inj hchild
        cases hj.symm.trans hk
        show v'.line = (s.ownLine? v'.node).or w'.line
        exact ih child (List.mem_of_getElem? hj) hv' hw' hbelow

end Visits

/-! ## Decoding a tree -/

/-- The message of a diagnostic itself, if its level is known. -/
def messageOf? (node : Json) : Option Message :=
  (Level.ofText? ((node.get? "level").getD (.text "")).asText).map fun level =>
    { level, text := ((node.get? "message").getD (.text "")).asText, code := codeOf node }

/-- What a visit adds: the message of the diagnostic on the line on which it stands. -/
def Visit.entry? (v : Visit) : Option (Option Int × Message) :=
  (messageOf? v.node).map fun m => (v.line, m)

/-- How the diagnostics of a tree are visited whose parent stands on a line. -/
structure Subject.Preorder (s : Subject) (parent : Option Int) (tree : Json)
    (visits : List Visit) : Prop where
  /-- One comes after the other in the order of their addresses, so none is visited twice. -/
  ordered : visits.Pairwise fun v w => v.address < w.address
  /-- All diagnostics of the tree are visited. -/
  exists_iff (a : Address) (node : Json) :
    (∃ line, ⟨a, node, line⟩ ∈ visits) ↔ nodeAt? tree a = some node
  /-- A diagnostic with a line of its own stands on it. -/
  own (v : Visit) (mark : LineMark) : v ∈ visits →
    primaryLine s ((v.node.get? "spans").getD .null) = .ok (some mark) → v.line = some mark.value
  /-- The tree itself, without a line of its own, stands where its parent does. -/
  root (v : Visit) : v ∈ visits → v.address = [] →
    primaryLine s ((v.node.get? "spans").getD .null) = .ok none → v.line = parent
  /-- A child without a line of its own stands where its parent does. -/
  child (v w : Visit) (i : Nat) : v ∈ visits → w ∈ visits → v.address = w.address ++ [i] →
    primaryLine s ((v.node.get? "spans").getD .null) = .ok none → v.line = w.line
  /-- There is no other diagnostic than those with and those without a line of their own. -/
  lookedUp (v : Visit) : v ∈ visits →
    ∃ own, primaryLine s ((v.node.get? "spans").getD .null) = .ok own

section Tree

variable {s : Subject} {parent : Option Int} {d d' : Decoding}

theorem ownLine?_of_ok {node : Json} {own : Option LineMark}
    (h : primaryLine s ((node.get? "spans").getD .null) = .ok own) :
    s.ownLine? node = own.map LineMark.value := by
  rw [Subject.ownLine?, h]

theorem addOwn_diagnostics (line : Option Int) (node : Json) (d : Decoding) :
    (addOwn line node d).diagnostics =
      d.diagnostics.pushAll ((messageOf? node).map fun m => (line, m)).toList := by
  cases h : Level.ofText? ((node.get? "level").getD (.text "")).asText with
  | none => simp [addOwn, messageOf?, h, pushAll]
  | some level => simp [addOwn, messageOf?, h, pushAll]

theorem insertItems_eq_foldlM (line : Option Int) (items : List Json) (d : Decoding) :
    insertItems s line items d = items.foldlM (fun d v => insertTree s line v d) d := by
  induction items generalizing d with
  | nil => rw [insertItems]; rfl
  | cons v items ih => simp only [insertItems, List.foldlM_cons, ih]

/-- Children that are no list are none. -/
theorem insertChildren_ok {line : Option Int} {children : Json}
    (h : insertChildren s line children d = .ok d') :
    insertItems s line (children.items?.getD []) d = .ok d' := by
  cases children with
  | array items =>
    rw [insertChildren] at h
    exact h
  | number n =>
    rw [insertChildren] at h
    split_ifs at h
    simpa [Json.items?, insertItems] using h
  | bool b =>
    rw [insertChildren] at h
    split_ifs at h
    simpa [Json.items?, insertItems] using h
  | null | text | broken | object => simpa [insertChildren, Json.items?, insertItems] using h

/-- The members of a diagnostic are read for its children. -/
theorem insertMembers_ok {line : Option Int} {ms : List (String × Json)}
    (h : insertMembers s line ms d = .ok d') :
    insertItems s line (childrenOf (.object ms)) d = .ok d' := by
  induction ms with
  | nil => simpa [insertMembers, childrenOf, Json.get?, Json.members, insertItems] using h
  | cons m ms ih =>
    obtain ⟨name, value⟩ := m
    rw [insertMembers] at h
    by_cases hname : name = "children"
    · subst hname
      rw [if_pos rfl] at h
      have hchildren : childrenOf (.object (("children", value) :: ms)) = value.items?.getD [] := by
        simp [childrenOf, Json.get?, Json.members]
      rw [hchildren]
      exact insertChildren_ok h
    · rw [if_neg hname] at h
      have hchildren : childrenOf (.object ((name, value) :: ms)) = childrenOf (.object ms) := by
        simp [childrenOf, Json.get?, Json.members, List.lookup_cons,
          beq_eq_false_iff_ne.2 (Ne.symm hname)]
      rw [hchildren]
      exact ih h

/-- A diagnostic is decoded before its children are, one after the other. -/
theorem insertTree_object_ok {ms : List (String × Json)}
    (h : insertTree s parent (.object ms) d = .ok d') :
    ∃ own, primaryLine s (((Json.object ms).get? "spans").getD .null) = .ok own ∧
      (childrenOf (.object ms)).foldlM
        (fun d v => insertTree s ((own.map LineMark.value).or parent) v d)
        (addOwn ((own.map LineMark.value).or parent) (.object ms) d) = .ok d' := by
  rw [insertTree] at h
  obtain ⟨own, hown, h⟩ := bind_ok_iff.1 h
  exact ⟨own, hown, by rw [← insertItems_eq_foldlM]; exact insertMembers_ok h⟩

theorem pushAll_append (d : Diagnostics) (entries entries' : List (Option Int × Message)) :
    d.pushAll (entries ++ entries') = (d.pushAll entries).pushAll entries' :=
  List.foldl_append

/-- The entries of a diagnostic are its own and then those of its children. -/
theorem entries_object (ms : List (String × Json)) :
    (visits s parent (.object ms)).filterMap Visit.entry? =
      ((messageOf? (.object ms)).map fun m => ((s.ownLine? (.object ms)).or parent, m)).toList ++
        (childrenOf (.object ms)).flatMap fun child =>
          (visits s ((s.ownLine? (.object ms)).or parent) child).filterMap Visit.entry? := by
  have hbelow (i : Nat) : Visit.entry? ∘ Visit.below i = Visit.entry? := by
    funext v
    simp only [Function.comp_apply, Visit.entry?, Visit.below]
  rw [visits_object, List.filterMap_cons, List.filterMap_flatMap]
  simp only [List.filterMap_map, hbelow]
  conv_rhs => rw [← List.zipIdx_map_fst 0 (childrenOf (.object ms)), List.flatMap_map]
  have hown (line : Option Int) : Visit.entry? ⟨[], .object ms, line⟩ =
      (messageOf? (.object ms)).map fun m => (line, m) := by
    simp only [Visit.entry?]
  rw [hown]
  cases messageOf? (.object ms) <;> simp

/-- Diagnostics that each add their entries add all of them together. -/
theorem insertItems_ok {line : Option Int} {items : List Json}
    {entries : Json → List (Option Int × Message)} {P : Json → Prop}
    (hitems : ∀ v ∈ items, ∀ d d', insertTree s line v d = .ok d' →
      d'.diagnostics = d.diagnostics.pushAll (entries v) ∧ P v)
    (h : items.foldlM (fun d v => insertTree s line v d) d = .ok d') :
    d'.diagnostics = d.diagnostics.pushAll (items.flatMap entries) ∧ ∀ v ∈ items, P v := by
  induction items generalizing d with
  | nil =>
    cases h
    simp [pushAll]
  | cons v items ih =>
    rw [List.foldlM_cons] at h
    obtain ⟨u, hu, h⟩ := bind_ok_iff.1 h
    obtain ⟨hfirst, hv⟩ := hitems v List.mem_cons_self d u hu
    obtain ⟨hrest, hvs⟩ := ih (fun w hw => hitems w (List.mem_cons_of_mem _ hw)) h
    refine ⟨?_, List.forall_mem_cons.2 ⟨hv, hvs⟩⟩
    rw [hrest, hfirst, List.flatMap_cons, pushAll_append]

/-- What is visited in a tree is added, and the spans of all diagnostics in it are looked up. -/
theorem insertTree_ok {tree : Json} (h : insertTree s parent tree d = .ok d') :
    d'.diagnostics = d.diagnostics.pushAll ((visits s parent tree).filterMap Visit.entry?) ∧
      ∀ v ∈ visits s parent tree,
        ∃ own, primaryLine s ((v.node.get? "spans").getD .null) = .ok own := by
  induction tree using tree_induction generalizing parent d d' with
  | other tree hother =>
    have hsame : insertTree s parent tree d = .ok d := by
      cases tree with
      | object ms => cases hother
      | _ => simp [insertTree]
    cases hsame.symm.trans h
    simp [visits_other hother, pushAll]
  | object ms ih =>
    obtain ⟨own, hown, h⟩ := insertTree_object_ok h
    rw [← ownLine?_of_ok hown] at h
    obtain ⟨hdiagnostics, hlookedUp⟩ :=
      insertItems_ok (fun v hv d d' h => ih v hv h) h
    rw [addOwn_diagnostics] at hdiagnostics
    refine ⟨by rw [hdiagnostics, entries_object, pushAll_append], fun v hv => ?_⟩
    obtain rfl | ⟨i, child, w, hchild, hw, rfl⟩ := mem_visits_object.1 hv
    · exact ⟨own, hown⟩
    · exact hlookedUp child (List.mem_of_getElem? hchild) w hw

/-- The visits to a tree that is decoded are those that are asked for. -/
theorem preorder_visits {tree : Json} (h : insertTree s parent tree d = .ok d') :
    s.Preorder parent tree (visits s parent tree) where
  ordered := pairwise_visits tree parent
  exists_iff _ _ := exists_visit_iff
  own _ _ hv hown := line_of_own hv (ownLine?_of_ok hown)
  root v hv hroot hown := by
    rw [line_of_root hv hroot, ownLine?_of_ok hown]
    rfl
  child v w i hv hw hchild hown := by
    rw [line_of_child hv hw hchild, ownLine?_of_ok hown]
    rfl
  lookedUp := (insertTree_ok h).2

/-- **What decoding a tree adds.** To diagnostics to which messages were added one after the other,
decoding a tree adds one message for each diagnostic in it whose level is known, and none for the
others. They come after the old ones, in the preorder of the tree: those of each line in its bucket,
and those that stand on no line or on one that is not positive among the messages without a line. A
diagnostic stands on its own line or, failing that, where its parent does. The bucket of line zero
stays empty, and there are no more buckets than before or than the greatest line needs. -/
theorem insertTree_preorder {tree : Json} {entries : List (Option Int × Message)} {rendered : Bytes}
    (hd : d.diagnostics = { ofEntries entries with rendered })
    (h : insertTree s parent tree d = .ok d') :
    ∃ visits, s.Preorder parent tree visits ∧
      Extends d.diagnostics d'.diagnostics (visits.filterMap Visit.entry?) := by
  obtain ⟨rest, hrest⟩ := lines_ofEntries entries
  have hfirst : d.diagnostics.lines.head? = some [] := by
    rw [hd]
    show (ofEntries entries).lines.head? = some []
    rw [hrest]
    rfl
  refine ⟨visits s parent tree, preorder_visits h, ?_⟩
  rw [(insertTree_ok h).1]
  exact extends_pushAll hfirst _

end Tree

/-! ## A tree with a diagnostic of an unknown level -/

/-- A primary span on a line of the tested file. -/
def spanOn (line : Int) : Json :=
  .object [("is_primary", .bool true), ("file_name", .text "t.rs"), ("line_start", .int line)]

/-- An error on line 3. One of its children has no line of its own, one is no diagnostic, and one is
of an unknown level and hands its line on to a child of its own. -/
def nested : Json := .object [
  ("level", .text "error"), ("message", .text "m"), ("spans", .array [spanOn 3]),
  ("children", .array [
    .object [("level", .text "note"), ("message", .text "n")],
    .text "no diagnostic",
    .object [("level", .text "remark"), ("message", .text "r"), ("spans", .array [spanOn 1]),
      ("children", .array [
        .object [("level", .text "help"), ("message", .text "h")],
        .object [("level", .text "warning"), ("message", .text "w"),
          ("spans", .array [spanOn 0])]])]])]

/-- What there is before the tree is decoded. -/
def beforeNested : Decoding := { diagnostics := ofEntries [(some 1, ⟨.error, "old", none⟩)] }

/-- What there is after the tree has been decoded. -/
def afterNested : Decoding where
  diagnostics :=
    { lines := [[], [⟨.error, "old", none⟩, ⟨.help, "h", none⟩], [],
        [⟨.error, "m", none⟩, ⟨.note, "n", none⟩]]
      unknown := [⟨.warning, "w", none⟩] }
  warnings := ["skipping diagnostic with unknown level 'remark'"]

set_option maxRecDepth 10000 in
theorem nested_preorder :
    insertTree anyFile none nested beforeNested = .ok afterNested ∧
      ∃ visits, anyFile.Preorder none nested visits ∧
        Extends beforeNested.diagnostics afterNested.diagnostics
          (visits.filterMap Visit.entry?) := by
  have h : insertTree anyFile none nested beforeNested = .ok afterNested := by rfl
  have hstart : beforeNested.diagnostics =
      { ofEntries [(some 1, ⟨.error, "old", none⟩)] with rendered := [] } := rfl
  exact ⟨h, insertTree_preorder hstart h⟩

end Diagnostics

end CompilerTest

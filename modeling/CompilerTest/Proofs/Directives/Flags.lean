import CompilerTest.Proofs.Assembly
import CompilerTest.Proofs.Directives.Faithful

/-!
# Flags of documents, applied to commands

Nothing that is read with a document looks at the items of a list of arguments, and a text or an
object in the place of the list is taken apart as if it were one. So a flag can be read that is no
use to any command, and this comes to light only when a command is put together.

Main statement: what a document says decides what its flag adds to a command. A list of texts is
added as it stands, and a flag that has been read cannot be applied in one case only, that of a list
with an item that is no text (`ofJson_applied`). So all flags of a test can be applied one after the
other, or the first one of this sort ends it (`applyFlags_outcome`).
-/

namespace CompilerTest

/-- Commands tell apart what they are extended by. -/
theorem Command.map_extend_inj {first? second? : Option (List String)}
    (h : ∀ command : Command, first?.map command.extend = second?.map command.extend) :
    first? = second? := by
  have hempty := h { program := "" }
  cases first? <;> cases second? <;> simp_all [Command.extend]

namespace Flag

/-! ## What a document adds -/

/-- What stands in the place of the arguments, and the texts that it comes to: none at all if one of
the arguments is no text. -/
inductive Listed : Option Json → Option (List String) → Prop where
  | absent : Listed none (some [])
  | texts {items : List Json} {texts : List String}
    (h : List.Forall₂ (fun item text => Json.text? item = some text) items texts) :
    Listed (some (.array items)) (some texts)
  | mixed {items : List Json} {item : Json} (hitem : item ∈ items) (h : item.text? = none) :
    Listed (some (.array items)) none
  /-- A text is taken apart into its characters. -/
  | characters {value : Json} {text : String} (h : value.text? = some text) :
    Listed (some value) (some (text.toList.map Char.toString))
  /-- An object is taken apart into the names of its members. -/
  | names {members : List (String × Json)} :
    Listed (some (.object members)) (some (members.map Prod.fst))

/-- What the flag of a document adds to a command: no text if it runs the program. -/
inductive Adds (v : Json) : Option (List String) → Prop where
  | run (hkind : v.get? "kind" = some (.text "run")) : Adds v (some [])
  | args {texts : Option (List String)} (hkind : v.get? "kind" = some (.text "args"))
    (h : Listed (v.get? "args") texts) : Adds v texts

/-! ## Lists of texts -/

section Texts

variable {items : List Json} {texts : List String}

theorem mapM_text_of_forall₂
    (h : List.Forall₂ (fun item text => Json.text? item = some text) items texts) :
    items.mapM Json.text? = some texts := by
  induction h with
  | nil => rfl
  | cons hitem _ ih => simp [List.mapM_cons, hitem, ih]

theorem forall₂_of_mapM_text (h : items.mapM Json.text? = some texts) :
    List.Forall₂ (fun item text => Json.text? item = some text) items texts := by
  induction items generalizing texts with
  | nil =>
    cases h
    exact .nil
  | cons item items ih =>
    rw [List.mapM_cons] at h
    obtain ⟨text, htext, h⟩ := Option.bind_eq_some_iff.1 h
    obtain ⟨texts, htexts, h⟩ := Option.bind_eq_some_iff.1 h
    cases h
    exact .cons htext (ih htexts)

theorem mapM_text_eq_none_iff :
    items.mapM Json.text? = none ↔ ∃ item ∈ items, item.text? = none := by
  induction items with
  | nil => simp [List.mapM_nil]
  | cons item items ih =>
    rw [List.exists_mem_cons_iff, ← ih, List.mapM_cons]
    cases htext : item.text? <;> cases items.mapM Json.text? <;> simp

theorem mapM_text_map {α : Type} (f : α → String) (values : List α) :
    (values.map fun value => Json.text (f value)).mapM Json.text? = some (values.map f) := by
  apply mapM_text_of_forall₂
  rw [List.forall₂_map_left_iff, List.forall₂_map_right_iff, List.forall₂_same]
  exact fun _ _ => rfl

end Texts

/-! ## What is read -/

section Reading

variable {v : Json} {value? : Option Json} {texts? : Option (List String)} {flag : Flag}

/-- What stands in the place of the arguments comes to texts iff what is read there does. -/
theorem listed_iff : Listed value? texts? ↔
    ∃ values, Directives.ArgsOf value? values ∧ values.mapM Json.text? = texts? := by
  constructor
  · intro h
    cases h with
    | absent => exact ⟨[], .absent, rfl⟩
    | texts h => exact ⟨_, .items, mapM_text_of_forall₂ h⟩
    | mixed hitem h => exact ⟨_, .items, mapM_text_eq_none_iff.2 ⟨_, hitem, h⟩⟩
    | characters h => exact ⟨_, .characters h, mapM_text_map _ _⟩
    | names => exact ⟨_, .names, mapM_text_map _ _⟩
  · rintro ⟨values, hvalues, rfl⟩
    cases hvalues with
    | absent => exact .absent
    | items =>
      cases htexts : values.mapM Json.text? with
      | none =>
        obtain ⟨item, hitem, hnone⟩ := mapM_text_eq_none_iff.1 htexts
        exact .mixed hitem hnone
      | some texts => exact .texts (forall₂_of_mapM_text htexts)
    | characters h =>
      rw [mapM_text_map]
      exact .characters h
    | names =>
      rw [mapM_text_map]
      exact .names

theorem adds_iff_of_args (hkind : v.get? "kind" = some (.text "args")) :
    Adds v texts? ↔ Listed (v.get? "args") texts? := by
  refine ⟨fun h => ?_, .args hkind⟩
  cases h with
  | run hkind' => simp [hkind] at hkind'
  | args _ h => exact h

theorem adds_iff_of_run (hkind : v.get? "kind" = some (.text "run")) :
    Adds v texts? ↔ texts? = some [] := by
  refine ⟨fun h => ?_, fun h => h ▸ .run hkind⟩
  cases h with
  | run _ => rfl
  | args hkind' _ => simp [hkind] at hkind'

/-- What is read decides the texts that a flag adds, and it adds them to every command. -/
theorem adds_iff (hflag : ofJson v = .ok flag) :
    Adds v texts? ↔ ∀ command, flag.extend? command = texts?.map command.extend := by
  cases Directives.flagOf_of_ofJson hflag with
  | run hkind _ =>
    rw [adds_iff_of_run hkind]
    refine ⟨fun h command => ?_, fun h => Command.map_extend_inj fun command => ?_⟩
    · simp [h, extend?, Command.extend]
    · rw [← h command]
      simp [extend?, Command.extend]
  | @args values hkind hvalues =>
    rw [adds_iff_of_args hkind, listed_iff]
    refine ⟨?_, fun h => ⟨values, hvalues, Command.map_extend_inj h⟩⟩
    rintro ⟨values', hvalues', rfl⟩ command
    rw [hvalues'.unique hvalues]
    rfl

theorem exists_adds (hflag : ofJson v = .ok flag) : ∃ texts?, Adds v texts? := by
  cases Directives.flagOf_of_ofJson hflag with
  | run hkind _ => exact ⟨_, .run hkind⟩
  | args hkind hvalues => exact ⟨_, .args hkind (listed_iff.2 ⟨_, hvalues, rfl⟩)⟩

/-- A document of this kind is read if its arguments can be taken apart. -/
theorem exists_flag (hkind : v.get? "kind" = some (.text "args"))
    (h : Listed (v.get? "args") texts?) : ∃ flag, ofJson v = .ok flag := by
  obtain ⟨values, hvalues, -⟩ := listed_iff.1 h
  have hread := Directives.argsOf_ok_iff.2 hvalues
  refine ⟨.args values, ?_⟩
  cases v with
  | object members => simp only [ofJson, hkind, hread, Option.getD_some]; rfl
  | null | bool _ | number _ | text _ | broken _ | array _ => cases hkind

/-! ## One flag -/

/-- What comes of reading a document as a flag and applying it. -/
structure Applied (v : Json) : Prop where
  /-- A document with arguments is refused only if there is no way to take them apart. -/
  accepted_iff (hkind : v.get? "kind" = some (.text "args")) :
    (∃ flag, ofJson v = .ok flag) ↔ ∃ texts?, Listed (v.get? "args") texts?
  /-- It is decided on reading what a flag adds. -/
  decided {flag : Flag} (hflag : ofJson v = .ok flag) : ∃! texts?, Adds v texts?
  /-- The texts are appended to the arguments, and nothing else in the command changes. -/
  succeeds {flag : Flag} {texts : List String} (hflag : ofJson v = .ok flag)
    (h : Adds v (some texts)) (command : Command) :
    flag.extend? command = some { command with args := command.args ++ texts }
  /-- A flag that is read cannot be applied, to any command, if an item of its list is no text, and
  then only. -/
  fails_iff {flag : Flag} (hflag : ofJson v = .ok flag) (command : Command) :
    flag.extend? command = none ↔ v.get? "kind" = some (.text "args") ∧
      ∃ items, v.get? "args" = some (.array items) ∧ ∃ item ∈ items, item.text? = none

end Reading

/-- What a document says decides whether its flag can be applied, and which texts it then adds. -/
theorem ofJson_applied (v : Json) : Applied v where
  accepted_iff := by
    intro hkind
    refine ⟨fun ⟨flag, hflag⟩ => ?_, fun ⟨texts?, h⟩ => exists_flag hkind h⟩
    obtain ⟨texts?, h⟩ := exists_adds hflag
    exact ⟨texts?, (adds_iff_of_args hkind).1 h⟩
  decided := by
    intro flag hflag
    obtain ⟨texts?, h⟩ := exists_adds hflag
    refine ⟨texts?, h, fun other? hother => Command.map_extend_inj fun command => ?_⟩
    rw [← (adds_iff hflag).1 hother, (adds_iff hflag).1 h]
  succeeds := fun hflag h command => (adds_iff hflag).1 h command
  fails_iff := by
    intro flag hflag command
    obtain ⟨texts?, h⟩ := exists_adds hflag
    rw [(adds_iff hflag).1 h, Option.map_eq_none_iff]
    constructor
    · rintro rfl
      cases h with
      | args hkind h =>
        generalize v.get? "args" = value? at h
        cases h with
        | mixed hitem hnone => exact ⟨hkind, _, rfl, _, hitem, hnone⟩
    · rintro ⟨hkind, items, hitems, item, hitem, hnone⟩
      rw [adds_iff_of_args hkind, hitems, listed_iff] at h
      obtain ⟨values, hvalues, rfl⟩ := h
      rw [hvalues.unique .items]
      exact mapM_text_eq_none_iff.2 ⟨item, hitem, hnone⟩

/-- Two texts as arguments. -/
def optimized : Json :=
  .object [("kind", .text "args"), ("args", .array [.text "-O", .text "--strip"])]

theorem optimized_applied :
    ofJson optimized = .ok (.args [.text "-O", .text "--strip"]) ∧
      (Flag.args [.text "-O", .text "--strip"]).extend? { program := "p", args := ["x"] } =
        some { program := "p", args := ["x", "-O", "--strip"] } :=
  ⟨rfl, (ofJson_applied optimized).succeeds rfl (.args rfl (.texts (.cons rfl (.cons rfl .nil)))) _⟩

/-- A number as an argument. -/
def numbered : Json := .object [("kind", .text "args"), ("args", .array [.int 1])]

/-- The flag is read, but a command cannot be extended by it. -/
theorem numbered_not_applied :
    ofJson numbered = .ok (.args [.int 1]) ∧
      (Flag.args [.int 1]).extend? { program := "p", args := ["x"] } = none :=
  ⟨rfl, rfl⟩

end Flag

/-! ## All flags of a test -/

namespace Case

variable {vs : List Json} {flags : List Flag}

theorem applyFlags_cons (flag : Flag) (flags : List Flag) (command : Command) :
    applyFlags (flag :: flags) command =
      match flag.extend? command with
      | some command => applyFlags flags command
      | none => .error .flagArgument := by
  rw [applyFlags, List.foldlM_cons]
  cases flag.extend? command <;> rfl

/-- Flags of documents are applied one after the other, and all of their texts are appended in
order. If one of them cannot be applied, then no command comes of it. -/
theorem applyFlags_outcome (hflags : List.Forall₂ (fun v flag => Flag.ofJson v = .ok flag) vs flags)
    (command : Command) :
    (∃ texts, List.Forall₂ (fun v added => Flag.Adds v (some added)) vs texts ∧
      applyFlags flags command = .ok (command.extend texts.flatten)) ∨
    ((∃ v ∈ vs, Flag.Adds v none) ∧ applyFlags flags command = .error .flagArgument) := by
  induction hflags generalizing command with
  | nil => exact .inl ⟨[], .nil, by simp [applyFlags, Command.extend, pure, Except.pure]⟩
  | @cons v flag vs flags hflag _ ih =>
    obtain ⟨texts?, hadds⟩ := Flag.exists_adds hflag
    rw [applyFlags_cons, (Flag.adds_iff hflag).1 hadds]
    cases texts? with
    | none => exact .inr ⟨⟨v, List.mem_cons_self, hadds⟩, rfl⟩
    | some added =>
      dsimp only [Option.map_some]
      obtain ⟨texts, htexts, happly⟩ | ⟨⟨bad, hbad, hnone⟩, happly⟩ := ih (command.extend added)
      · refine .inl ⟨added :: texts, .cons hadds htexts, ?_⟩
        rw [happly, Command.extend_extend, List.flatten_cons]
      · exact .inr ⟨⟨bad, List.mem_cons_of_mem v hbad, hnone⟩, happly⟩

end Case

end CompilerTest

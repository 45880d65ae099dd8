import CompilerTest.Proofs.Directives.Accepted
import Mathlib.Data.List.Forall2

/-!
# What a document of directives says

A document and the directives that are read from it are compared part by part, without the functions
that read: the items of a list stand for values one by one and in order, a setting is there iff the
document has the member, and a line that an item does not give itself is the line of its set, or the
line of the message that is expected.

Main statement: `ofJson_standsFor`. The check of the shape and the reading have to agree for this:
an item passes the check as one of two alternatives, and it is read as one of them because of a
member.
-/

namespace CompilerTest

namespace Directives

open Json Json.Check

/-! ## Members -/

/-- A member of an object is a text. -/
def HasText (v : Json) (name : String) (s : String) : Prop :=
  ∃ w, v.get? name = some w ∧ w.text? = some s

/-- The line that a member gives; `otherwise` if there is no such member. -/
inductive LineOf (v : Json) (name : String) (otherwise : Option Number) : Option Number → Prop where
  /-- The member is there. -/
  | given {line : Number} (h : v.get? name = some (.number line)) :
    LineOf v name otherwise (some line)
  /-- The member is not there. -/
  | absent (h : v.get? name = none) : LineOf v name otherwise otherwise

/-- A member is a list whose items stand for `as`, one by one and in order. Without the member,
there are none. -/
def Lists {α : Type} (v : Json) (name : String) (R : Json → α → Prop) (as : List α) : Prop :=
  ∃ items, (v.get? name).getD (.array []) = .array items ∧ List.Forall₂ R items as

/-- A member is an object whose members stand for `as` under their names, one by one and in order.
Without the member, there are none. -/
def Tables {α : Type} (v : Json) (name : String) (R : Json → α → Prop) (as : List (String × α)) :
    Prop :=
  ∃ ms, (v.get? name).getD (.object []) = .object ms ∧
    List.Forall₂ (fun (m : String × Json) (a : String × α) => m.1 = a.1 ∧ R m.2 a.2) ms as

/-! ## Directives -/

/-- A pattern, as an object has it; it is no regular expression unless the object says so. -/
structure PatternOf (v : Json) (p : Pattern) : Prop where
  text : HasText v "pattern" p.text
  regex : (v.get? "regex").getD (.bool false) = .bool p.regex

/-- A file that is built first, with its own line or that of its set. -/
structure AuxOf (set : Span) (v : Json) (aux : Spanned Path) : Prop where
  path : ∃ s, HasText v "path" s ∧ aux.content = .ofText s
  file : aux.span.file = set.file
  line : LineOf v "line" set.line aux.span.line

/-- An expected message. It is expected by its code iff there is one, and by a pattern and a level
otherwise; it was written on a line of its own, or else on the line that it is expected on. -/
inductive MatchOf (set : Span) (v : Json) : ErrorMatch → Prop where
  /-- The object has a code. -/
  | code {line : Number} {written : Option Number} {code : String}
    (hcode : HasText v "code" code) (hline : v.get? "line" = some (.number line))
    (hwritten : LineOf v "annotation_line" (some line) written) :
    MatchOf set v ⟨.code ⟨code, ⟨set.file, written⟩⟩, line⟩
  /-- The object has no code. -/
  | pattern {line : Number} {written : Option Number} {pattern : Pattern} {level : Level}
    {spelling : String} (hcode : v.get? "code" = none) (hpattern : PatternOf v pattern)
    (hspelling : HasText v "level" spelling) (hlevel : Level.ofText? spelling = some level)
    (hline : v.get? "line" = some (.number line))
    (hwritten : LineOf v "annotation_line" (some line) written) :
    MatchOf set v ⟨.pattern ⟨pattern, ⟨set.file, written⟩⟩ level, line⟩

/-- A message that is expected elsewhere, with its own line or that of its set. -/
structure OtherOf (set : Span) (v : Json) (p : Spanned Pattern) : Prop where
  pattern : PatternOf v p.content
  file : p.span.file = set.file
  line : LineOf v "annotation_line" set.line p.span.line

/-- A normalization rule. -/
structure RuleOf (v : Json) (rule : Normalization) : Prop where
  source : ∃ s, v.get? "pattern" = some (.text s) ∧ rule.source = Bytes.ofText s
  regex : Regex.ofBytes rule.source = .ok rule.regex
  replacement : ∃ s, v.get? "replacement" = some (.text s) ∧ rule.replacement = Bytes.ofText s

/-- The mode of a set. -/
inductive ModeOf (v : Json) : Mode → Prop where
  /-- A failure, which requires patterns unless the set says otherwise. -/
  | fail {required : Bool} (hmode : v.get? "mode" = some (.text "fail"))
    (hrequired : (v.get? "require_patterns").getD (.bool true) = .bool required) :
    ModeOf v (.fail required)
  /-- Another mode, with which nothing is said about patterns. -/
  | other {mode : Mode} (hmode : v.get? "mode" = some (.text mode.name))
    (hname : mode.name ≠ "fail") (hrequired : v.get? "require_patterns" = none) : ModeOf v mode

/-- The arguments of a flag, and what stands in their place. -/
inductive ArgsOf : Option Json → List Json → Prop where
  | absent : ArgsOf none []
  /-- The items of a list are kept, whatever they are. -/
  | items {items : List Json} : ArgsOf (some (.array items)) items
  /-- A text is taken apart into its characters. -/
  | characters {w : Json} {s : String} (h : w.text? = some s) :
    ArgsOf (some w) (s.toList.map fun c => .text c.toString)
  /-- An object is taken apart into the names of its members. -/
  | names {ms : List (String × Json)} : ArgsOf (some (.object ms)) (ms.map fun m => .text m.1)

/-- The exit status of a flag, and what stands in its place. -/
inductive StatusOf : Option Json → Int → Prop where
  | absent : StatusOf none 0
  | no : StatusOf (some (.bool false)) 0
  | yes : StatusOf (some (.bool true)) 1
  | int {n : Int} : StatusOf (some (.int n)) n
  /-- A fraction is cut off. -/
  | real {x : Double} {n : Int} (h : x.truncate? = some n) : StatusOf (some (.number (.real x))) n
  /-- A text has to be a numeral. -/
  | numeral {w : Json} {s : String} {n : Int} (hw : w.text? = some s)
    (h : Text.integer? s = .ok n) : StatusOf (some w) n

/-- A custom flag: its kind decides what else is read. -/
inductive FlagOf (v : Json) : Flag → Prop where
  /-- Arguments. -/
  | args {values : List Json} (hkind : v.get? "kind" = some (.text "args"))
    (hvalues : ArgsOf (v.get? "args") values) : FlagOf v (.args values)
  /-- An exit status. -/
  | run {status : Int} (hkind : v.get? "kind" = some (.text "run"))
    (hstatus : StatusOf (v.get? "exit_code") status) : FlagOf v (.run status)

/-- A set of directives for a file stands for what an object says. -/
structure SetOf (file : Path) (v : Json) (s : DirectiveSet) : Prop where
  /-- The set is somewhere in the file. -/
  file : s.span.file = some file
  /-- It has the line of the object. -/
  line : LineOf v "line" none s.span.line
  revisions : Lists v "revisions" (fun w name => w.text? = some name) s.revisions
  compileFlags : Lists v "compile_flags" (fun w flag => w.text? = some flag) s.compileFlags
  env : Tables v "env" (fun w value => w.text? = some value) s.env
  auxBuilds : Lists v "aux_builds" (AuxOf s.span) s.auxBuilds
  errorMatches : Lists v "error_matches" (MatchOf s.span) s.errorMatches
  otherFiles : Lists v "error_in_other_files" (OtherOf s.span) s.otherFiles
  normalizeStdout : Lists v "normalize_stdout" RuleOf s.normalizeStdout
  normalizeStderr : Lists v "normalize_stderr" RuleOf s.normalizeStderr
  codePrefix : Option.Rel (fun w p => w.text? = some p.content ∧ p.span = s.span)
    (v.get? "diagnostic_code_prefix") s.codePrefix
  requiredLevel :
    Option.Rel
      (fun w l => w.text?.bind Level.ofText? = some l.content ∧ l.span = s.span)
      (v.get? "require_annotations_for_level") s.requiredLevel
  perBitwidth : (v.get? "stderr_per_bitwidth").getD (.bool false) = .bool s.perBitwidth
  mode : Option.Rel (fun _ m => ModeOf v m.content ∧ m.span = s.span) (v.get? "mode") s.mode
  custom : Tables v "custom" (fun w flag => FlagOf w flag.content ∧ flag.span = s.span) s.custom

/-- Directives for a file stand for what a document says. -/
structure DirectivesOf (file : Path) (v : Json) (d : Directives) : Prop where
  revisions : Lists v "revisions" (fun w name => w.text? = some name) d.revisions
  sets : Lists v "directives" (SetOf file) d.sets
  /-- Sets are for declared revisions. -/
  declared : ∀ s ∈ d.sets, ∀ revision ∈ s.revisions, revision ∈ d.revisions

/-! ## Texts -/

theorem text_of_string {w : Json} (h : kind [.string] w = none) : ∃ s, w.text? = some s :=
  isOf_string_iff.1 (kind_singleton_eq_none_iff.1 h)

theorem text_of_nonEmptyShape {w : Json} (h : nonEmptyShape w = none) : ∃ s, w.text? = some s :=
  text_of_string (all_eq_none_iff.1 h _ (by simp))

theorem text_of_levelNames {w : Json} (h : oneOf levelNames w = none) : ∃ s, w.text? = some s := by
  cases w with
  | text s => exact ⟨s, rfl⟩
  | _ => simp [oneOf, levelNames, agrees] at h

/-! ## Lists and tables -/

section Lists

variable {α : Type} {v : Json} {name : String} {item : Check}

/-- A member that passes the check of a list is one, and so are its items. -/
theorem items_of_listOf (h : ∀ w, v.get? name = some w → listOf item w = none) :
    (v.get? name).getD (.array []) = .array (itemsOf v name) := by
  cases hw : v.get? name with
  | none => simp [itemsOf, hw]
  | some w =>
    have hkind : kind [.array] w = none := all_eq_none_iff.1 (h w hw) _ (by simp)
    obtain ⟨items, rfl⟩ := isOf_array_iff.1 (kind_singleton_eq_none_iff.1 hkind)
    simp [itemsOf, hw, items?]

/-- What is picked from items, each of which has something to pick. -/
theorem forall₂_filterMap {β : Type} {f : α → Option β} {l : List α}
    (h : ∀ a ∈ l, ∃ b, f a = some b) :
    List.Forall₂ (fun a b => f a = some b) l (l.filterMap f) := by
  induction l with
  | nil => exact .nil
  | cons a l ih =>
    obtain ⟨⟨b, hb⟩, hl⟩ := List.forall_mem_cons.1 h
    rw [List.filterMap_cons_some hb]
    exact .cons hb (ih hl)

/-- What is read from checked items stands for them if each value that is read does. -/
theorem lists_of_forItems {read : Nat → Json → Except Fault α} {R : Json → α → Prop} {as : List α}
    (hlist : ∀ w, v.get? name = some w → listOf item w = none)
    (hread : ∀ i w a, item w = none → read i w = .ok a → R w a)
    (h : forItems read 0 (itemsOf v name) = .ok as) : Lists v name R as := by
  have hitems : ∀ w ∈ itemsOf v name, item w = none := fun w hw => of_listOf hlist hw
  refine ⟨itemsOf v name, items_of_listOf hlist, ?_⟩
  -- the position is counted up, so the induction is for all of them
  generalize itemsOf v name = items at h hitems
  generalize 0 = i at h
  induction items generalizing i as with
  | nil =>
    cases h
    exact .nil
  | cons w items ih =>
    obtain ⟨hw, hitems⟩ := List.forall_mem_cons.1 hitems
    obtain ⟨a, ha, h⟩ := bind_ok_iff.1 h
    obtain ⟨as, has, h⟩ := bind_ok_iff.1 h
    cases h
    exact .cons (hread i w a hw ha) (ih hitems (i + 1) has)

theorem lists_map {R : Json → α → Prop} {f : Json → α}
    (hlist : ∀ w, v.get? name = some w → listOf item w = none)
    (hf : ∀ w, item w = none → R w (f w)) : Lists v name R ((itemsOf v name).map f) := by
  refine ⟨itemsOf v name, items_of_listOf hlist, ?_⟩
  rw [List.forall₂_map_right_iff, List.forall₂_same]
  exact fun w hw => hf w (of_listOf hlist hw)

/-- The texts of a list of texts are those of its items. -/
theorem lists_textsOf (hlist : ∀ w, v.get? name = some w → listOf item w = none)
    (htext : ∀ w, item w = none → ∃ s, w.text? = some s) :
    Lists v name (fun w s => w.text? = some s) (textsOf v name) :=
  ⟨itemsOf v name, items_of_listOf hlist,
    forall₂_filterMap fun _ hw => htext _ (of_listOf hlist hw)⟩

/-- A member that passes the check of an object is one, and its members pass their check. -/
theorem members_of_shape
    (h : ∀ w, v.get? name = some w → all [kind [.object], everyMember item] w = none) :
    (v.get? name).getD (.object []) = .object ((v.get? name).map Json.members |>.getD []) ∧
      ∀ m ∈ (v.get? name).map Json.members |>.getD [], item m.2 = none := by
  cases hw : v.get? name with
  | none => simp
  | some w =>
    have hkind : kind [.object] w = none := all_eq_none_iff.1 (h w hw) _ (by simp)
    have hmembers : everyMember item w = none := all_eq_none_iff.1 (h w hw) _ (by simp)
    obtain ⟨ms, rfl⟩ := isOf_object_iff.1 (kind_singleton_eq_none_iff.1 hkind)
    exact ⟨rfl, everyMember_eq_none_iff.1 hmembers⟩

/-- The texts of an object of texts are those of its members. -/
theorem tables_texts
    (h : ∀ w, v.get? name = some w → all [kind [.object], everyMember (kind [.string])] w = none) :
    Tables v name (fun w s => w.text? = some s)
      (((v.get? name).map Json.members |>.getD []).filterMap fun m => m.2.text?.map (m.1, ·)) := by
  obtain ⟨hobject, htexts⟩ := members_of_shape h
  have hpicked := forall₂_filterMap (f := fun m : String × Json => m.2.text?.map (m.1, ·))
    fun m hm => by
      obtain ⟨s, hs⟩ := text_of_string (htexts m hm)
      exact ⟨(m.1, s), by simp [hs]⟩
  refine ⟨_, hobject, hpicked.imp fun m a hma => ?_⟩
  obtain ⟨s, hs, rfl⟩ := Option.map_eq_some_iff.1 hma
  exact ⟨rfl, hs⟩

theorem forall₂_of_mapM {β : Type} {f : α → Except Fault β} {l : List α} {bs : List β}
    (h : l.mapM f = .ok bs) : List.Forall₂ (fun a b => f a = .ok b) l bs := by
  induction l generalizing bs with
  | nil =>
    cases h
    exact .nil
  | cons a l ih =>
    rw [List.mapM_cons] at h
    obtain ⟨b, hb, h⟩ := bind_ok_iff.1 h
    obtain ⟨bs, hbs, h⟩ := bind_ok_iff.1 h
    cases h
    exact .cons hb (ih hbs)

end Lists

/-! ## Members that pass their checks -/

section Members

variable {v : Json} {name : String}

theorem ofText?_of_readLevel {text : String} {level : Level} (h : readLevel text = .ok level) :
    Level.ofText? text = some level := by
  unfold readLevel at h
  split at h
  · next hlevel =>
    cases h
    exact hlevel
  · cases h

theorem hasText_of_shape (htext : ∀ w, v.get? name = some w → ∃ s, w.text? = some s)
    (h : v.has name = true) : HasText v name (textOf v name) := by
  obtain ⟨w, hw⟩ := Option.isSome_iff_exists.1 h
  obtain ⟨s, hs⟩ := htext w hw
  exact ⟨w, hw, by simp [textOf, hw, hs]⟩

theorem lineOf_of_shape (h : ∀ w, v.get? name = some w → lineShape w = none)
    (otherwise : Option Number) : LineOf v name otherwise ((numberOf? v name).or otherwise) := by
  cases hw : v.get? name with
  | none =>
    have hnone : numberOf? v name = none := by simp [numberOf?, hw]
    rw [hnone]
    exact .absent hw
  | some w =>
    obtain ⟨line, -, rfl, -, -⟩ := lineShape_eq_none_iff.1 (h w hw)
    have hsome : numberOf? v name = some line := by simp [numberOf?, hw, number?]
    rw [hsome]
    exact .given hw

/-- A setting that is a text is there iff its member is. -/
theorem rel_text {span : Span} (htext : ∀ w, v.get? name = some w → ∃ s, w.text? = some s) :
    Option.Rel (fun (w : Json) (p : Spanned String) => w.text? = some p.content ∧ p.span = span)
      (v.get? name) (if v.has name then some ⟨textOf v name, span⟩ else none) := by
  rw [has]
  cases hw : v.get? name with
  | none => exact .none
  | some w =>
    obtain ⟨s, hs⟩ := htext w hw
    exact .some ⟨by simp [textOf, hw, hs], rfl⟩

/-- A setting that is a level is there iff its member is. -/
theorem rel_level {span : Span} {required : Option (Spanned Level)}
    (htext : ∀ w, v.get? name = some w → ∃ s, w.text? = some s)
    (h : if v.has name then
        ∃ level, readLevel (textOf v name) = .ok level ∧ required = some ⟨level, span⟩
      else required = none) :
    Option.Rel
      (fun (w : Json) (l : Spanned Level) =>
        w.text?.bind Level.ofText? = some l.content ∧ l.span = span)
      (v.get? name) required := by
  rw [has] at h
  cases hw : v.get? name with
  | none =>
    rw [hw, if_neg (by simp)] at h
    rw [h]
    exact .none
  | some w =>
    rw [hw, if_pos (by simp)] at h
    obtain ⟨level, hread, rfl⟩ := h
    obtain ⟨s, hs⟩ := htext w hw
    have hspelling : textOf v name = s := by simp [textOf, hw, hs]
    refine .some ⟨?_, rfl⟩
    rw [hs, Option.bind_some, ← hspelling]
    exact ofText?_of_readLevel hread

theorem bool_of_shape (h : ∀ w, v.get? name = some w → kind [.boolean] w = none)
    (otherwise : Bool) :
    (v.get? name).getD (.bool otherwise) = .bool (flagOf v name otherwise) := by
  cases hw : v.get? name with
  | none => simp [flagOf, hw]
  | some w =>
    obtain ⟨b, rfl⟩ := isOf_boolean_iff.1 (kind_singleton_eq_none_iff.1 (h w hw))
    simp [flagOf, hw]

end Members

/-! ## Reading -/

section Reading

variable {file : Path} {span : Span} {set i : Nat} {list : String} {v : Json}

theorem patternOf_of_readPattern {p : Spanned Pattern} (hhas : v.has "pattern" = true)
    (hmembers : ∀ name check, (name, check) ∈ patternMembers →
      ∀ w, v.get? name = some w → check w = none)
    (h : readPattern set list i span v = .ok p) : PatternOf v p.content ∧ p.span = span := by
  have hp : p = ⟨⟨textOf v "pattern", flagOf v "regex" false⟩, span⟩ := by
    unfold readPattern at h
    dsimp only at h
    split_ifs at h
    · obtain ⟨_, -, h⟩ := bind_ok_iff.1 h
      cases h
      rfl
    · cases h
      rfl
  subst hp
  have htext := hmembers "pattern" nonEmptyShape (by simp [patternMembers])
  have hregex := hmembers "regex" (kind [.boolean]) (by simp [patternMembers])
  exact ⟨⟨hasText_of_shape (fun w hw => text_of_nonEmptyShape (htext w hw)) hhas,
    bool_of_shape hregex false⟩, rfl⟩

theorem auxOf_of_shape (h : auxBuildShape v = none) :
    AuxOf span v
      ⟨.ofText (textOf v "path"), ⟨span.file, (numberOf? v "line").or span.line⟩⟩ := by
  obtain ⟨hrequired, hmembers⟩ := of_record h
  have hpath := hasText_of_shape
    (fun w hw => text_of_nonEmptyShape (hmembers "path" nonEmptyShape (by simp) w hw))
    (hrequired "path" (by simp))
  exact ⟨⟨_, hpath, rfl⟩, rfl, lineOf_of_shape (hmembers "line" lineShape (by simp)) span.line⟩

theorem otherOf_of_readPattern {p : Spanned Pattern}
    (hshape : record ["pattern"] patternMembers v = none)
    (h : readPattern set list i
      ⟨span.file, (numberOf? v "annotation_line").or span.line⟩ v = .ok p) :
    OtherOf span v p := by
  obtain ⟨hrequired, hmembers⟩ := of_record hshape
  obtain ⟨hpattern, hspan⟩ := patternOf_of_readPattern (hrequired _ (by simp)) hmembers h
  have hline := lineOf_of_shape
    (hmembers "annotation_line" lineShape (by simp [patternMembers])) span.line
  exact ⟨hpattern, by rw [hspan], by rw [hspan]; exact hline⟩

/-- The bytes of a member are those of a text. -/
theorem exists_text_of_encoded {name s : String} {bytes : Bytes} (htext : HasText v name s)
    (h : encoded ((v.get? name).getD .null) = .ok bytes) :
    ∃ s, v.get? name = some (.text s) ∧ bytes = Bytes.ofText s := by
  obtain ⟨w, hw, hs⟩ := htext
  rw [hw, Option.getD_some] at h
  cases w with
  | text s =>
    cases h
    exact ⟨s, hw, rfl⟩
  | broken codes => cases h
  | _ => cases hs

theorem ofName?_of_mem {name : String} (h : name ∈ Mode.allNames) (required : Bool) :
    ∃ mode, Mode.ofName? name required = some mode ∧ mode.name = name := by
  simp only [Mode.allNames, List.mem_cons, List.not_mem_nil, or_false] at h
  rcases h with rfl | rfl | rfl | rfl
  · exact ⟨.pass, rfl, rfl⟩
  · exact ⟨.panic, rfl, rfl⟩
  · exact ⟨.fail required, rfl, rfl⟩
  · exact ⟨.yolo, rfl, rfl⟩

/-- Which alternative an expected message passes is decided by its code. -/
theorem shape_of_either (h : either [patternMatchShape, codeMatchShape] v = none) :
    if v.has "code" then codeMatchShape v = none else patternMatchShape v = none := by
  obtain ⟨check, hcheck, hv⟩ := either_eq_none_iff.1 h
  simp only [List.mem_cons, List.not_mem_nil, or_false] at hcheck
  -- with a code there is a member too many for the one alternative, without it one too few for
  -- the other
  split_ifs with hcode
  · rcases hcheck with rfl | rfl
    · exact absurd (mem_of_record hv hcode) (by simp [patternMembers])
    · exact hv
  · rcases hcheck with rfl | rfl
    · exact hv
    · exact absurd ((of_record hv).1 "code" (by simp)) hcode

theorem matchOf_of_readErrorMatch {m : ErrorMatch} (hfile : span.file = some file)
    (hshape : either [patternMatchShape, codeMatchShape] v = none)
    (h : readErrorMatch file set i v = .ok m) : MatchOf span v m := by
  obtain ⟨line, _, hline, -, -⟩ := exists_line_of_shape hshape
  have hnumber : numberOf? v "line" = some line := by simp [numberOf?, hline, number?]
  have halternative := shape_of_either hshape
  unfold readErrorMatch at h
  simp only [hnumber, Option.getD_some] at h
  split_ifs at h halternative with hcode
  · obtain ⟨hrequired, hmembers⟩ := of_record halternative
    have htext : HasText v "code" (textOf v "code") := hasText_of_shape
      (fun w hw => text_of_nonEmptyShape (hmembers "code" nonEmptyShape (by simp) w hw)) hcode
    have hwritten := lineOf_of_shape (hmembers "annotation_line" lineShape (by simp)) (some line)
    obtain ⟨_, ⟨⟩, h⟩ := bind_ok_iff.1 h
    split at h
    · next hm =>
      cases h
      rw [eq_of_errorMatch hm, ← hfile, ← Option.or_some]
      exact .code htext hline hwritten
    · cases h
  · obtain ⟨hrequired, hmembers⟩ := of_record halternative
    have hnone : v.get? "code" = none := by simpa [has] using hcode
    have hspelling : HasText v "level" (textOf v "level") := hasText_of_shape
      (fun w hw => text_of_levelNames
        (hmembers "level" (oneOf levelNames) (by simp [patternMembers]) w hw))
      (hrequired "level" (by simp))
    have hwritten := lineOf_of_shape
      (hmembers "annotation_line" lineShape (by simp [patternMembers])) (some line)
    obtain ⟨⟨pattern, _⟩, hp, h⟩ := bind_ok_iff.1 h
    obtain ⟨level, hread, h⟩ := bind_ok_iff.1 h
    obtain ⟨_, ⟨⟩, h⟩ := bind_ok_iff.1 h
    obtain ⟨hpattern, rfl⟩ := patternOf_of_readPattern (hrequired "pattern" (by simp))
      (fun name check hmem => hmembers name check (List.mem_append_left _ hmem)) hp
    split at h
    · next hm =>
      cases h
      rw [eq_of_errorMatch hm, ← hfile, ← Option.or_some]
      exact .pattern hnone hpattern hspelling (ofText?_of_readLevel hread) hline hwritten
    · cases h

theorem ruleOf_of_readNormalization {rule : Normalization} (hshape : normalizationShape v = none)
    (h : readNormalization set list i v = .ok rule) : RuleOf v rule := by
  obtain ⟨hrequired, hmembers⟩ := of_record hshape
  have hpattern := hasText_of_shape
    (fun w hw => text_of_nonEmptyShape (hmembers "pattern" nonEmptyShape (by simp) w hw))
    (hrequired _ (by simp))
  have htext := hasText_of_shape
    (fun w hw => text_of_string (hmembers "replacement" (kind [.string]) (by simp) w hw))
    (hrequired _ (by simp))
  obtain ⟨source, hsource, h⟩ := bind_ok_iff.1 h
  obtain ⟨regex, hregex, h⟩ := bind_ok_iff.1 h
  obtain ⟨replacement, hreplacement, h⟩ := bind_ok_iff.1 h
  cases h
  exact ⟨exists_text_of_encoded hpattern hsource, ok_of_checked hregex,
    exists_text_of_encoded htext hreplacement⟩

theorem modeOf_of_readMode {mode : Option Mode}
    (hmode : ∀ w, v.get? "mode" = some w → oneOf (Mode.allNames.map Json.text) w = none)
    (hrequired : ∀ w, v.get? "require_patterns" = some w → kind [.boolean] w = none)
    (h : readMode set v = .ok mode) :
    Option.Rel (fun _ m => ModeOf v m) (v.get? "mode") mode := by
  have hbool := bool_of_shape hrequired true
  cases hw : v.get? "mode" with
  | none =>
    have hhas : v.has "mode" = false := by simp [has, hw]
    rw [readMode, if_neg (by simp [hhas])] at h
    cases h
    exact .none
  | some w =>
    obtain ⟨name, hname, rfl⟩ := oneOf_map_text_eq_none_iff.1 (hmode w hw)
    have hhas : v.has "mode" = true := by simp [has, hw]
    have htext : textOf v "mode" = name := by simp [textOf, hw, text?]
    rw [readMode, if_pos hhas, htext] at h
    obtain ⟨m, hm, hmname⟩ := ofName?_of_mem hname (flagOf v "require_patterns" true)
    subst hmname
    rw [hm] at h
    cases m with
    | fail required =>
      cases h
      cases hm
      exact .some (.fail hw hbool)
    | pass | panic | yolo =>
      dsimp only at h
      split_ifs at h with hpatterns
      cases h
      exact .some (.other hw (by decide) (by simpa [has] using hpatterns))

theorem argsOf_ok_iff {w? : Option Json} {values : List Json} :
    Flag.argsOf (w?.getD (.array [])) = .ok values ↔ ArgsOf w? values := by
  constructor
  · intro h
    cases w? with
    | none =>
      cases h
      exact .absent
    | some w =>
      cases w with
      | array items =>
        cases h
        exact .items
      | text s =>
        cases h
        exact .characters rfl
      | broken codes =>
        cases h
        exact .characters rfl
      | object ms =>
        cases h
        exact .names
      | null | bool _ | number _ => cases h
  · intro h
    cases h with
    | absent | items | names => rfl
    | @characters w s h => cases w <;> cases h <;> rfl

theorem ArgsOf.unique {w? : Option Json} {values values' : List Json} (h : ArgsOf w? values)
    (h' : ArgsOf w? values') : values = values' :=
  Except.ok.inj ((argsOf_ok_iff.2 h).symm.trans (argsOf_ok_iff.2 h'))

theorem statusOf_of_ok {w? : Option Json} {status : Int}
    (h : Flag.statusOf (w?.getD (.int 0)) = .ok status) : StatusOf w? status := by
  have hnumeral {s : String} (h : (Text.integer? s).mapError FlagError.badStatus = .ok status) :
      Text.integer? s = .ok status := by
    cases hs : Text.integer? s with
    | ok n =>
      rw [hs] at h
      exact congrArg Except.ok (Except.ok.inj h)
    | error e =>
      rw [hs] at h
      cases h
  cases w? with
  | none =>
    cases h
    exact .absent
  | some w =>
    cases w with
    | bool b =>
      cases h
      cases b
      · exact .no
      · exact .yes
    | number x =>
      cases x with
      | int n =>
        cases h
        exact .int
      | real x =>
        cases x with
        | finite =>
          cases h
          exact .real rfl
        | nan | infinite => cases h
    | text s => exact .numeral rfl (hnumeral h)
    | broken codes => exact .numeral rfl (hnumeral h)
    | null | array _ | object _ => cases h

theorem flagOf_of_ofJson {flag : Flag} (h : Flag.ofJson v = .ok flag) : FlagOf v flag := by
  have hget {w : Json} (hw : (v.get? "kind").getD .null = w) (hne : w ≠ .null) :
      v.get? "kind" = some w := by
    cases hkind : v.get? "kind" with
    | none =>
      rw [hkind] at hw
      exact absurd hw.symm hne
    | some u =>
      rw [hkind] at hw
      exact congrArg some hw
  unfold Flag.ofJson at h
  split at h
  · split at h
    · next hkind =>
      obtain ⟨values, hvalues, h⟩ := bind_ok_iff.1 h
      cases h
      exact .args (hget hkind nofun) (argsOf_ok_iff.1 hvalues)
    · next hkind =>
      obtain ⟨status, hstatus, h⟩ := bind_ok_iff.1 h
      cases h
      exact .run (hget hkind nofun) (statusOf_of_ok hstatus)
    all_goals cases h
  · cases h

theorem flagOf_of_readFlag {name : String} {flag : String × Spanned Flag}
    (h : readFlag set span name v = .ok flag) :
    name = flag.1 ∧ FlagOf v flag.2.content ∧ flag.2.span = span := by
  unfold readFlag at h
  split at h
  · next hflag =>
    cases h
    exact ⟨rfl, flagOf_of_ofJson hflag, rfl⟩
  · cases h
  · cases h

end Reading

/-! ## Documents -/

section Documents

variable {file : Path} {set : Nat} {v : Json} {s : DirectiveSet} {d : Directives}

/-- What the members of a set pass. -/
theorem of_setShape (h : setShape v = none) {name : String} {check : Check}
    (hmem : (name, check) ∈ setMembers) : ∀ w, v.get? name = some w → check w = none :=
  member_eq_none_iff.1
    (all_eq_none_iff.1 h _ (List.mem_append_right _ (List.mem_map.2 ⟨_, hmem, rfl⟩)))

/-- A checked set stands for what it is read from. -/
theorem ReadFrom.setOf (h : ReadFrom file set v s) (hshape : setShape v = none) :
    SetOf file v s where
  file := by rw [h.span]
  line := by
    rw [h.span, ← Option.or_none (o := numberOf? v "line")]
    exact lineOf_of_shape (of_setShape hshape (by simp [setMembers])) none
  revisions := by
    rw [h.revisions]
    exact lists_textsOf (of_setShape hshape (by simp [setMembers])) fun _ => text_of_nonEmptyShape
  compileFlags := by
    have htexts : ∀ w, v.get? "compile_flags" = some w → listOf (kind [.string]) w = none :=
      of_setShape hshape (by simp [setMembers, textListShape, listOf])
    rw [h.compileFlags]
    exact lists_textsOf htexts fun _ => text_of_string
  env := by
    rw [h.env]
    exact tables_texts (of_setShape hshape (by simp [setMembers]))
  auxBuilds := by
    have hlist : ∀ w, v.get? "aux_builds" = some w → listOf auxBuildShape w = none :=
      of_setShape hshape (by simp [setMembers])
    rw [h.auxBuilds]
    refine lists_map hlist fun w hw => ?_
    have hfile : s.span.file = some file := by rw [h.span]
    rw [← hfile]
    exact auxOf_of_shape hw
  errorMatches := lists_of_forItems (of_setShape hshape (by simp [setMembers]))
    (fun _ _ _ hw => matchOf_of_readErrorMatch (by rw [h.span]) hw) h.errorMatches
  otherFiles := lists_of_forItems (of_setShape hshape (by simp [setMembers]))
    (fun _ _ _ hw hread => otherOf_of_readPattern hw (by rwa [h.span] at hread ⊢)) h.otherFiles
  normalizeStdout := lists_of_forItems (of_setShape hshape (by simp [setMembers]))
    (fun _ _ _ hw => ruleOf_of_readNormalization hw) h.normalizeStdout
  normalizeStderr := lists_of_forItems (of_setShape hshape (by simp [setMembers]))
    (fun _ _ _ hw => ruleOf_of_readNormalization hw) h.normalizeStderr
  codePrefix := by
    have hkind : ∀ w, v.get? "diagnostic_code_prefix" = some w → kind [.string] w = none :=
      of_setShape hshape (by simp [setMembers])
    rw [h.codePrefix]
    exact rel_text fun w hw => text_of_string (hkind w hw)
  requiredLevel := by
    have hnames : ∀ w, v.get? "require_annotations_for_level" = some w →
        oneOf levelNames w = none :=
      of_setShape hshape (by simp [setMembers])
    exact rel_level (fun w hw => text_of_levelNames (hnames w hw)) h.requiredLevel
  perBitwidth := by
    rw [h.perBitwidth]
    exact bool_of_shape (of_setShape hshape (by simp [setMembers])) false
  mode := by
    obtain ⟨mode, hread, hmode⟩ := h.mode
    have hrel := modeOf_of_readMode (of_setShape hshape (by simp [setMembers]))
      (of_setShape hshape (by simp [setMembers])) hread
    rw [hmode]
    -- the mode depends on the set as a whole, its presence on this member alone
    clear hmode hread
    generalize v.get? "mode" = member at hrel
    cases hrel with
    | none => exact .none
    | some hmode => exact .some ⟨hmode, rfl⟩
  custom := by
    have hflags : ∀ w, v.get? "custom" = some w →
        all [kind [.object], everyMember customShape] w = none :=
      of_setShape hshape (by simp [setMembers])
    obtain ⟨hobject, -⟩ := members_of_shape hflags
    exact ⟨_, hobject, (forall₂_of_mapM h.custom).imp fun _ _ hread => flagOf_of_readFlag hread⟩

/-- **Directives stand for the document that they are read from.** -/
theorem ofJson_standsFor (h : ofJson file v = .ok d) : DirectivesOf file v d := by
  obtain ⟨hshape, hrevisions, hsets⟩ := sets_of_ofJson h
  have hnames : ∀ w, v.get? "revisions" = some w → listOf nonEmptyShape w = none := by
    intro w hw
    have hdistinct : all [kind [.array], each nonEmptyShape, distinct] w = none :=
      member_eq_none_iff.1 (all_eq_none_iff.1 hshape _ (by simp)) w hw
    exact all_eq_none_iff.2 fun check hcheck =>
      all_eq_none_iff.1 hdistinct check (List.mem_append_left [distinct] hcheck)
  have hlist : ∀ w, v.get? "directives" = some w → listOf setShape w = none :=
    member_eq_none_iff.1 (all_eq_none_iff.1 hshape _ (by simp))
  refine ⟨?_, ?_, fun s hs revision hrevision => ?_⟩
  · rw [hrevisions]
    exact lists_textsOf hnames fun _ => text_of_nonEmptyShape
  · exact lists_of_forItems hlist
      (fun _ _ _ hw hread => (readFrom_of_readSet (of_readDeclaredSet hread).2).setOf hw) hsets
  · obtain ⟨i, w, -, hread⟩ := exists_of_forItems hsets s hs
    obtain ⟨hdeclared, hread⟩ := of_readDeclaredSet hread
    rw [(readFrom_of_readSet hread).revisions] at hrevision
    exact hdeclared revision hrevision

end Documents

/-! ## A document with all kinds of directives -/

/-- A document with directives of all kinds. -/
def fullDocument : Json :=
  .object [("revisions", .array [.text "a", .text "b"]),
    ("directives", .array [
      .object [("line", .int 1), ("compile_flags", .array [.text "-O"]),
        ("env", .object [("RUST_BACKTRACE", .text "0")]),
        ("aux_builds", .array [.object [("path", .text "dep.rs")]]),
        ("error_matches", .array [
          .object [("line", .int 4), ("pattern", .text "mismatched"), ("level", .text "error")],
          .object [("line", .int 6), ("code", .text "E0308"), ("annotation_line", .int 7)]]),
        ("error_in_other_files", .array [.object [("pattern", .text "aborting")]]),
        ("normalize_stderr", .array [
          .object [("pattern", .text "ms"), ("replacement", .text "time")]]),
        ("diagnostic_code_prefix", .text "rustc::"),
        ("require_annotations_for_level", .text "help"), ("stderr_per_bitwidth", .bool true),
        ("custom", .object [("run", .object [("kind", .text "run"), ("exit_code", .int 3)])])],
      .object [("revisions", .array [.text "b"]), ("line", .int 2), ("mode", .text "fail"),
        ("require_patterns", .bool false)]])]

/-- The test that the document is about. -/
def fullFile : Path := ⟨.relative, ["tests", "ui", "sample.rs"]⟩

theorem fullDocument_standsFor :
    ∃ d, ofJson fullFile fullDocument = .ok d ∧ DirectivesOf fullFile fullDocument d ∧
      d.sets.map (fun s => s.errorMatches.map fun m => m.span.line) =
        [[some (.int 4), some (.int 7)], []] := by
  have h : ((ofJson fullFile fullDocument).toOption.map fun d =>
      d.sets.map fun s => s.errorMatches.map fun m => m.span.line) =
        some [[some (.int 4), some (.int 7)], []] := by decide +kernel
  obtain ⟨d, hd, hlines⟩ := Option.map_eq_some_iff.1 h
  have hd := eq_ok_of_toOption hd
  exact ⟨d, hd, ofJson_standsFor hd, hlines⟩

end Directives

end CompilerTest

import CompilerTest.Config.Loader
import CompilerTest.Directives.Loader
import CompilerTest.Proofs.FileTree.Following
import CompilerTest.Proofs.Outcome
import CompilerTest.Proofs.Shapes
import CompilerTest.Proofs.Utf8

/-!
# Loading documents

A file can be loaded as a configuration and as directives. If it holds no object, it is unusable
either way, with an error of the one sort or of the other (`FileTree.Unusable`). But there are files
from which another fault escapes, the same one both times (`FileTree.Escapes`): those that are no
texts, with numbers that are too long, or nested too deep.

Main statement: `load_outcome`. There is nothing else that can be in a file, and an object makes a
configuration, or directives, unless its shape is wrong.
-/

namespace CompilerTest

/-- What is read from a text as JSON. -/
def Json.ofText (text : String) : Except Json.ReadError Json :=
  Json.parse (Text.unifyLineEnds text.toList)

namespace FileTree

variable {t : FileTree} {path : Path} {text : String}

/-! ## Reading files -/

/-- Whether the file at a path holds a text. -/
def Holds (t : FileTree) (path : Path) (text : String) : Prop :=
  t.read path = .ok (Bytes.ofText text)

theorem walk_ne_hasNull (t : FileTree) (follow : Bool) (links : Nat) (place : Place)
    (names : List String) : t.walk follow links place names ≠ .error .hasNull := by
  induction links generalizing place names with
  | zero =>
    rw [walk_eq]
    split
    next h => simpa using (walkNames_error h).1
    next => simp
    next => simp
  | succ links ih =>
    rw [walk_eq]
    split
    next h => simpa using (walkNames_error h).1
    next => simp
    next => exact ih _ _

theorem locate_eq_hasNull_iff {follow : Bool} :
    t.locate follow text = .error .hasNull ↔ '\x00' ∈ text.toList := by
  rw [locate]
  split
  next hlong => simpa using not_mem_of_isTooLong hlong
  next =>
    rw [trace]
    split
    next hnull => simpa using hnull
    next hnull =>
      refine iff_of_false ?_ (by simpa using hnull)
      split
      · simp
      · exact walk_ne_hasNull _ _ _ _ _

/-- The system says that a path is none iff there is a zero byte in it. -/
theorem content_eq_hasNull_iff : t.content text = .error .hasNull ↔ '\x00' ∈ text.toList := by
  rw [← @locate_eq_hasNull_iff t text true, content]
  cases hlocate : t.locate true text with
  | error problem =>
    rw [find_eq_of_locate_error hlocate]
    simp [bind, Except.bind]
  | ok place =>
    rw [find_eq_of_locate hlocate]
    rcases t.at? place with _ | _ | _ | _ | _ <;> simp [bind, Except.bind, pure, Except.pure]

/-- A path with a zero byte is not read. -/
theorem read_of_null (hp : path.Spelled) (hnull : ¬ path.NoNull) :
    t.read path = .error ⟨.hasNull, Text.quote path.text⟩ := by
  rw [← null_notMem_text_iff hp, not_not] at hnull
  rw [read, content_eq_hasNull_iff.2 hnull, about]

/-- The system has another reason not to read a path without a zero byte. -/
theorem problem_ne_hasNull (hp : path.Spelled) (hnull : path.NoNull) {e : FileError}
    (h : t.read path = .error e) : e.problem ≠ .hasNull := by
  rw [read] at h
  cases hcontent : t.content path.text with
  | ok bytes =>
    rw [hcontent] at h
    cases h
  | error problem =>
    rw [hcontent] at h
    cases h
    rintro rfl
    exact (null_notMem_text_iff hp).2 hnull (content_eq_hasNull_iff.1 hcontent)

/-- A file that is read is there. -/
theorem exists_locate_of_read {bytes : Bytes} (h : t.read path = .ok bytes) :
    ∃ place, t.locate true path.text = .ok place := by
  rw [read, content] at h
  cases hlocate : t.locate true path.text with
  | ok place => exact ⟨place, rfl⟩
  | error problem =>
    rw [find_eq_of_locate_error hlocate] at h
    cases h

/-! ## Documents -/

/-- What is wrong with the file at a path, before what it holds is looked at. -/
inductive Unusable (t : FileTree) (path : Path) : DocumentProblem → Prop where
  /-- The system does not read it. -/
  | unreadable {e : FileError} (hnull : path.NoNull) (h : t.read path = .error e) :
    Unusable t path (.unreadable e)
  /-- It is no JSON. -/
  | malformed {text : String} {problem : Json.Problem} {line column : Nat}
    (h : t.Holds path text) (hjson : Json.ofText text = .error (.malformed problem line column)) :
    Unusable t path (.malformed problem line column)
  /-- It is no object. -/
  | notAnObject {text : String} {v : Json} (h : t.Holds path text)
    (hjson : Json.ofText text = .ok v) (hv : v.isOf .object = false) :
    Unusable t path .notAnObject

/-- The faults that are no errors in a document, though the file at a path holds none. -/
inductive Escapes (t : FileTree) (path : Path) : Fault → Prop where
  /-- The path has a zero byte. -/
  | badPath (hnull : ¬ path.NoNull) :
    Escapes t path (.file ⟨.hasNull, Text.quote path.text⟩)
  /-- The file is no text. -/
  | undecodable {bytes : Bytes} (h : t.read path = .ok bytes)
    (htext : ∀ text, bytes ≠ Bytes.ofText text) : Escapes t path .undecodable
  /-- A number in it has too many digits. -/
  | longNumber {text : String} {digits : Nat} (h : t.Holds path text)
    (hjson : Json.ofText text = .error (.tooLong digits)) : Escapes t path (.longNumber digits)
  /-- It is nested too deep. -/
  | deep {text : String} (h : t.Holds path text) (hjson : Json.ofText text = .error .tooDeep) :
    Escapes t path .deepDocument

/-- Whether the file at a path holds an object. -/
def HoldsObject (t : FileTree) (path : Path) (v : Json) : Prop :=
  ∃ text, t.Holds path text ∧ Json.ofText text = .ok v ∧ v.isOf .object = true

/-- A file holds an object, or it is unusable, or a fault escapes from it. -/
theorem object_or_unusable_or_escapes (t : FileTree) (path : Path) :
    (∃ v, t.HoldsObject path v) ∨ (∃ problem, t.Unusable path problem) ∨
      ∃ f, t.Escapes path f := by
  by_cases hnull : path.NoNull
  case neg => exact .inr (.inr ⟨_, .badPath hnull⟩)
  cases hread : t.read path with
  | error e => exact .inr (.inl ⟨_, .unreadable hnull hread⟩)
  | ok bytes =>
    by_cases htext : ∃ text, bytes = Bytes.ofText text
    case neg => exact .inr (.inr ⟨_, .undecodable hread fun text h => htext ⟨text, h⟩⟩)
    obtain ⟨text, rfl⟩ := htext
    cases hjson : Json.ofText text with
    | error e =>
      cases e with
      | malformed problem line column => exact .inr (.inl ⟨_, .malformed hread hjson⟩)
      | tooLong digits => exact .inr (.inr ⟨_, .longNumber hread hjson⟩)
      | tooDeep => exact .inr (.inr ⟨_, .deep hread hjson⟩)
    | ok v =>
      cases hv : v.isOf .object with
      | true => exact .inl ⟨v, text, hread, hjson, hv⟩
      | false => exact .inr (.inl ⟨_, .notAnObject hread hjson hv⟩)

theorem document_of_holds (h : t.Holds path text) :
    t.document path = match Json.ofText text with
      | .error (.malformed problem line column) =>
        .error (.rejected (.malformed problem line column))
      | .error (.tooLong digits) => .error (.tooLong digits)
      | .error .tooDeep => .error .tooDeep
      | .ok (.object ms) => .ok (.object ms)
      | .ok _ => .error (.rejected .notAnObject) := by
  rw [document, h]
  dsimp only
  rw [Bytes.text?_eq_some_iff.2 rfl]
  rfl

theorem document_of_unusable (hp : path.Spelled) {problem : DocumentProblem}
    (h : t.Unusable path problem) : t.document path = .error (.rejected problem) := by
  cases h with
  | unreadable hnull h =>
    rw [document, h]
    exact if_neg (problem_ne_hasNull hp hnull h)
  | malformed h hjson => rw [document_of_holds h, hjson]
  | @notAnObject _ v h hjson hv =>
    rw [document_of_holds h, hjson]
    cases v <;> first | rfl | cases hv

theorem document_of_escapes (hp : path.Spelled) {f : Fault} (h : t.Escapes path f) :
    ∃ e, t.document path = .error e ∧ ∀ reject, Fault.ofDocument reject e = f := by
  cases h with
  | badPath hnull =>
    refine ⟨.badPath _, ?_, fun _ => rfl⟩
    rw [document, read_of_null hp hnull]
    rfl
  | undecodable h htext =>
    refine ⟨.undecodable, ?_, fun _ => rfl⟩
    rw [document, h]
    dsimp only
    rw [Option.eq_none_iff_forall_ne_some.2 fun text h => htext text (Bytes.text?_eq_some_iff.1 h)]
  | longNumber h hjson =>
    refine ⟨.tooLong _, ?_, fun _ => rfl⟩
    rw [document_of_holds h, hjson]
  | deep h hjson =>
    refine ⟨.tooDeep, ?_, fun _ => rfl⟩
    rw [document_of_holds h, hjson]

theorem document_of_object {v : Json} (h : t.HoldsObject path v) : t.document path = .ok v := by
  obtain ⟨text, h, hjson, hv⟩ := h
  obtain ⟨ms, rfl⟩ := Json.isOf_object_iff.1 hv
  rw [document_of_holds h, hjson]

end FileTree

/-! ## Loading -/

section Load

variable {t : FileTree} {path file : Path}

theorem config_load_of_error {e : DocumentError} (h : t.document path = .error e) :
    Config.load t path = .error (Fault.ofDocument (fun p => .config (.document path p)) e) := by
  rw [Config.load, h]
  rfl

theorem directives_load_of_error (file : Path) {e : DocumentError}
    (h : t.document path = .error e) : Directives.load t path file =
      .error (Fault.ofDocument (fun p => .directives (.document path p)) e) := by
  rw [Directives.load, h]
  rfl

/-- Directories in a configuration are seen from the real directory of its file. -/
theorem config_load_of_object (ht : t.Proper) (hp : path.Spelled) {v : Json}
    (h : t.HoldsObject path v) : ∃ place, t.locate true path.text = .ok place ∧
      Config.load t path = (Config.ofJson ⟨.single, place.dropLast⟩ v).mapError .config := by
  obtain ⟨text, hread, -⟩ := id h
  -- the file was read, so the path has a real path
  obtain ⟨place, hplace⟩ := FileTree.exists_locate_of_read hread
  refine ⟨place, hplace, ?_⟩
  rw [Config.load, FileTree.document_of_object h, FileTree.realPath_of_locate ht hp hplace]
  rfl

/-- What becomes of a file with an object. -/
structure Loaded (t : FileTree) (path file : Path) (v : Json) : Prop where
  /-- An object of the right shape is a configuration. -/
  config (h : Config.shape v = none) : ∃ place, t.locate true path.text = .ok place ∧
    Config.load t path = .ok (Config.ofShaped ⟨.single, place.dropLast⟩ v)
  /-- What is wrong with the shape is an error in the configuration. -/
  invalidConfig {complaint : Json.Complaint} (h : Config.shape v = some complaint) :
    Config.load t path = .error (.config (.invalid complaint))
  /-- An object of the right shape is read as directives, part by part. -/
  directives (h : Directives.shape v = none) :
    Directives.load t path file = Directives.ofJson file v
  /-- What is wrong with the shape is an error in the directives. -/
  invalidDirectives {complaint : Json.Complaint} (h : Directives.shape v = some complaint) :
    Directives.load t path file = .error (.directives (.invalid complaint))

/-- How a file is loaded as a configuration and as directives. -/
structure LoadOutcome (t : FileTree) (path file : Path) : Prop where
  /-- There is nothing else that can be in a file. -/
  total : (∃ v, t.HoldsObject path v) ∨ (∃ problem, t.Unusable path problem) ∨
    ∃ f, t.Escapes path f
  /-- An object is looked at further. -/
  object {v : Json} (h : t.HoldsObject path v) : Loaded t path file v
  /-- An unusable file is an error in what it is loaded as. -/
  unusable {problem : DocumentProblem} (h : t.Unusable path problem) :
    Config.load t path = .error (.config (.document path problem)) ∧
      Directives.load t path file = .error (.directives (.document path problem))
  /-- Other faults are errors in neither. -/
  escapes {f : Fault} (h : t.Escapes path f) :
    Config.load t path = .error f ∧ Directives.load t path file = .error f

theorem loaded_of_object (ht : t.Proper) (hp : path.Spelled) (file : Path) {v : Json}
    (h : t.HoldsObject path v) : Loaded t path file v := by
  obtain ⟨place, hplace, hconfig⟩ := config_load_of_object ht hp h
  have hdirectives : Directives.load t path file = Directives.ofJson file v := by
    rw [Directives.load, FileTree.document_of_object h]
    rfl
  exact {
    config := fun hshape => ⟨place, hplace, by rw [hconfig, Config.ofJson, hshape]; rfl⟩
    invalidConfig := fun hshape => by rw [hconfig, Config.ofJson, hshape]; rfl
    directives := fun _ => hdirectives
    invalidDirectives := fun hshape => by rw [hdirectives, Directives.ofJson, hshape] }

/-- **What can be in a file decides how loading it ends.** -/
theorem load_outcome (ht : t.Proper) (hp : path.Spelled) (file : Path) :
    LoadOutcome t path file where
  total := t.object_or_unusable_or_escapes path
  object h := loaded_of_object ht hp file h
  unusable h := by
    have hdocument := FileTree.document_of_unusable hp h
    exact ⟨config_load_of_error hdocument, directives_load_of_error file hdocument⟩
  escapes h := by
    obtain ⟨e, hdocument, hfault⟩ := FileTree.document_of_escapes hp h
    exact ⟨by rw [config_load_of_error hdocument, hfault],
      by rw [directives_load_of_error file hdocument, hfault]⟩

end Load

/-! ### A file that is no text -/

/-- The text of a configuration. -/
def shortText : String := "\x7b\"program\": \x7b\"command\": \"cc\"\x7d\x7d"

/-- A configuration, and a file that is no text. -/
def mixedTree : FileTree where
  entries := [
    (["c.json"], .file (Bytes.ofText shortText) false),
    (["raw.json"], .file [0xff] false)]
  workingPlace := []

/-- The configuration. -/
def shortFile : Path := ⟨.relative, ["c.json"]⟩

/-- The file that is no text. -/
def rawFile : Path := ⟨.relative, ["raw.json"]⟩

theorem mixedTree_proper : mixedTree.Proper :=
  FileTree.proper_of_entries (by decide +kernel) rfl

theorem rawFile_escapes : mixedTree.Escapes rawFile .undecodable := by
  have hnone : Bytes.text? [0xff] = none := by decide +kernel
  have hread : mixedTree.read rawFile = .ok [0xff] := by decide +kernel
  refine .undecodable hread fun text h => ?_
  rw [Bytes.text?_eq_some_iff.2 h] at hnone
  cases hnone

theorem shortFile_holdsObject :
    ∃ v, mixedTree.HoldsObject shortFile v ∧ Config.shape v = none := by
  have hread : mixedTree.read shortFile = .ok (Bytes.ofText shortText) := by decide +kernel
  have hjson : Json.ofText shortText =
    .ok (.object [("program", .object [("command", .text "cc")])]) := by rfl
  exact ⟨_, ⟨_, hread, hjson, rfl⟩, by decide +kernel⟩

theorem mixedTree_loaded :
    (∃ config, Config.load mixedTree shortFile = .ok config) ∧
      Config.load mixedTree rawFile = .error .undecodable ∧
      Directives.load mixedTree rawFile ⟨.relative, ["t.rs"]⟩ = .error .undecodable := by
  obtain ⟨v, hobject, hshape⟩ := shortFile_holdsObject
  have hloaded := (load_outcome mixedTree_proper (by decide) ⟨.relative, ["t.rs"]⟩).object hobject
  obtain ⟨place, -, hconfig⟩ := hloaded.config hshape
  exact ⟨⟨_, hconfig⟩, (load_outcome mixedTree_proper (by decide) _).escapes rawFile_escapes⟩

/-- Not every unusable file is refused as a document. -/
theorem load_not_total :
    ¬ ∀ (t : FileTree) (path file : Path), t.Proper → path.Spelled → path.NoNull →
      ((∃ config, Config.load t path = .ok config) ∨
        ∃ e, Config.load t path = .error (.config e)) ∧
      ((∃ directives, Directives.load t path file = .ok directives) ∨
        ∃ e, Directives.load t path file = .error (.directives e)) := by
  intro h
  obtain ⟨hconfig, -⟩ := h mixedTree rawFile rawFile mixedTree_proper (by decide) (by decide)
  obtain ⟨e, hdocument, hfault⟩ := FileTree.document_of_escapes (by decide) rawFile_escapes
  rw [config_load_of_error hdocument, hfault] at hconfig
  rcases hconfig with ⟨config, hconfig⟩ | ⟨e, hconfig⟩ <;> cases hconfig

end CompilerTest

import CompilerTest.Config.Basic
import CompilerTest.Fault

/-!
# Reading configuration

The shape of a configuration document and the configuration that it stands for. Directories in it
are seen from the directory of the document.
-/

namespace CompilerTest

namespace Config

open Json

/-- A list of texts. -/
def textsShape : Check := .all [.kind [.array], .each (.kind [.string])]

/-- A text or nothing. -/
def optionalTextShape : Check := .kind [.string, .null]

/-- An object of texts. -/
def variablesShape : Check := .all [.kind [.object], .everyMember (.kind [.string])]

/-- The shape of the description of a compiler. -/
def programShape : Check :=
  .all [.kind [.object], .required ["command"],
    .closed ["command", "args", "out_dir_flag", "env"],
    .member "command" (.all [.kind [.string], .nonEmpty]),
    .member "args" textsShape,
    .member "out_dir_flag" optionalTextShape,
    .member "env" variablesShape]

/-- The widths of pointers that a configuration may ask for. -/
def widths : List Json := [.int 16, .int 32, .int 64, .null]

/-- The shape of a configuration document. -/
def shape : Check :=
  .all [.kind [.object], .required ["program"],
    .closed ["program", "root_dir", "out_dir", "target", "host", "pointer_width",
      "output_conflict_handling", "bless_command", "aux_args", "aux_link_args", "exe_suffix"],
    .member "program" programShape,
    .member "root_dir" (.kind [.string]),
    .member "out_dir" (.kind [.string]),
    .member "target" optionalTextShape,
    .member "host" optionalTextShape,
    .member "pointer_width" (.all [.kind [.integer, .null], .oneOf widths]),
    .member "output_conflict_handling" (.oneOf [.text "error", .text "bless", .text "ignore"]),
    .member "bless_command" optionalTextShape,
    .member "aux_args" textsShape,
    .member "aux_link_args" textsShape,
    .member "exe_suffix" (.kind [.string])]

/-! ## Parts of a document -/

/-- The text of a member, if it has one. -/
def textOf? (v : Json) (name : String) : Option String := (v.get? name).bind Json.text?

/-- The texts of a member that is a list, if it is there. -/
def textsOf? (v : Json) (name : String) : Option (List String) :=
  ((v.get? name).bind Json.items?).map (·.filterMap Json.text?)

/-- The members of an object of texts. -/
def variablesOf (v : Json) (name : String) : List (String × String) :=
  ((v.get? name).map Json.members).getD [] |>.filterMap fun (k, w) => w.text?.map (k, ·)

/-- The compiler that a document describes. -/
def programOf (v : Json) : CommandBuilder where
  program := (textOf? v "command").getD ""
  args := (textsOf? v "args").getD []
  outDirFlag :=
    match v.get? "out_dir_flag" with
    | some flag => flag.text?
    | none => some "--out-dir"
  envs := variablesOf v "env"

/-- A directory that a document names, seen from another one. -/
def directoryOf (v : Json) (base : Path) (name default : String) : Path :=
  base.join (.ofText ((textOf? v name).getD default))

/-- The configuration of a document that has the right shape. -/
def ofShaped (base : Path) (v : Json) : Config :=
  let program := programOf ((v.get? "program").getD .null)
  let plain : Config :=
    { program
      rootDir := directoryOf v base "root_dir" "."
      outDir := directoryOf v base "out_dir" "target/ui" }
  { plain with
    target := textOf? v "target"
    host := textOf? v "host"
    pointerWidth := (v.get? "pointer_width").bind Json.number?
    handling :=
      ((textOf? v "output_conflict_handling").bind ConflictHandling.ofName?).getD .error
    blessCommand := textOf? v "bless_command"
    auxArgs := (textsOf? v "aux_args").getD plain.auxArgs
    auxLinkArgs := (textsOf? v "aux_link_args").getD plain.auxLinkArgs
    exeSuffix := (textOf? v "exe_suffix").getD "" }

/-- The configuration of a document; directories in it are seen from `base`. -/
def ofJson (base : Path) (v : Json) : Except ConfigError Config :=
  match shape v with
  | some complaint => .error (.invalid complaint)
  | none => .ok (ofShaped base v)

/-- The configuration in the document at a path. -/
def load (t : FileTree) (path : Path) : Except Fault Config := do
  let v ← (t.document path).mapError (Fault.ofDocument fun p => .config (.document path p))
  let real ← (t.realPath false path).mapError .resolve
  (ofJson real.parent v).mapError .config

end Config

end CompilerTest

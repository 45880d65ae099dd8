import CompilerTest.Case.Run
import CompilerTest.Proofs.Outcome
import CompilerTest.Shell.Host

/-!
# The union of directive sets

A test reads the sets that apply to its revision one after the other, and it takes settings with one
value from the sets that name the revision or from those for all revisions. So its command, the
files of its expected output and its verification depend on what these sets say together, and not on
how it is spread over them or on any other set (`sameRun_of_sameUnion`).
-/

namespace CompilerTest

/-! ## What sets say together -/

namespace Directives

/-- What the sets that apply to a revision list in a field, in order. -/
def union {α : Type} (d : Directives) (revision : String) (field : DirectiveSet → List α) :
    List α :=
  (d.forRevision revision).flatMap field

/-- Whether a setting is resolved to one value in two groups of directives, without a conflict. -/
def SameValue {α : Type} (revision kind : String) (setting : DirectiveSet → Option (Spanned α))
    (d d' : Directives) : Prop :=
  ∃ v v', d.findOne revision kind setting = .ok v ∧ d'.findOne revision kind setting = .ok v' ∧
    v'.map Spanned.content = v.map Spanned.content

/-- Whether two groups of directives say the same about a revision, all sets that apply to it taken
together. -/
structure SameUnion (revision : String) (d d' : Directives) : Prop where
  compileFlags_eq : d'.union revision (·.compileFlags) = d.union revision (·.compileFlags)
  env_eq : d'.union revision (·.env) = d.union revision (·.env)
  auxBuilds_eq : d'.union revision (·.auxBuilds) = d.union revision (·.auxBuilds)
  errorMatches_eq : d'.union revision (·.errorMatches) = d.union revision (·.errorMatches)
  otherFiles_eq : d'.union revision (·.otherFiles) = d.union revision (·.otherFiles)
  normalizeStdout_eq : d'.union revision (·.normalizeStdout) = d.union revision (·.normalizeStdout)
  normalizeStderr_eq : d'.union revision (·.normalizeStderr) = d.union revision (·.normalizeStderr)
  flags_eq : d'.union revision (fun s => s.custom.map fun (_, flag) => flag.content) =
    d.union revision fun s => s.custom.map fun (_, flag) => flag.content
  perBitwidth_iff : (∃ s ∈ d'.forRevision revision, s.perBitwidth = true) ↔
    ∃ s ∈ d.forRevision revision, s.perBitwidth = true
  /-- The mode counts with its place, which complaints about expectations name. -/
  mode : ∃ mode, d.mode revision = .ok mode ∧ d'.mode revision = .ok mode
  codePrefix : SameValue revision "diagnostic_code_prefix" DirectiveSet.codePrefix d d'
  requiredLevel : SameValue revision "\x60require_annotations_for_level\x60 annotations"
    DirectiveSet.requiredLevel d d'

/-- The directives without the sets that do not apply to a revision. -/
def applicable (d : Directives) (revision : String) : Directives :=
  { d with sets := d.forRevision revision }

variable {α : Type} (d : Directives) (revision : String)

theorem forRevision_applicable :
    (d.applicable revision).forRevision revision = d.forRevision revision := by
  simp [applicable, forRevision]

/-- A set that is meant for all revisions or names one applies to it, so no value is lost. -/
theorem findOne_applicable (kind : String) (setting : DirectiveSet → Option (Spanned α)) :
    (d.applicable revision).findOne revision kind setting = d.findOne revision kind setting := by
  have hspecific : (d.applicable revision).specific revision setting =
      d.specific revision setting := by
    simp only [specific, applicable, forRevision, List.filter_filter]
    congr 2
    funext s
    cases h : s.mentions revision with
    | false => simp
    | true =>
      have happlies : s.appliesTo revision = true := by
        unfold DirectiveSet.mentions at h
        rw [DirectiveSet.appliesTo, h, Bool.or_true]
      simp [happlies]
  have hgeneral : (d.applicable revision).general setting = d.general setting := by
    simp only [general, applicable, forRevision, List.filter_filter]
    congr 2
    funext s
    cases h : s.revisions.isEmpty with
    | false => simp
    | true => simp [DirectiveSet.appliesTo, h]
  simp only [findOne, hspecific, hgeneral]

end Directives

namespace Case

/-! ## Tests with the same settings -/

/-- Whether two tests of one file and revision get the same from their directives. -/
structure SameSettings (c c' : Case) : Prop where
  config_eq : c'.config = c.config
  revision_eq : c'.revision = c.revision
  path_eq : c'.path = c.path
  auxDir_eq : c'.auxDir = c.auxDir
  compileFlags_eq : c'.sets.flatMap (·.compileFlags) = c.sets.flatMap (·.compileFlags)
  env_eq : c'.sets.flatMap (·.env) = c.sets.flatMap (·.env)
  auxBuilds_eq : c'.auxBuilds = c.auxBuilds
  errorMatches_eq : c'.errorMatches = c.errorMatches
  otherFiles_eq : c'.otherFiles = c.otherFiles
  rules_eq : c'.rules = c.rules
  flags_eq : c'.flags = c.flags
  perBitwidth_eq : c'.perBitwidth = c.perBitwidth
  mode_eq : c'.mode = c.mode
  codePrefix_eq : c'.codePrefix = c.codePrefix
  requiredLevel_eq : c'.requiredLevel = c.requiredLevel

/-- Whether two tests are run alike: their commands, the files of their expected outputs, and how
their verifications end and what they leave behind. -/
structure SameRun (host : Host) (shared : Config) (c c' : Case) : Prop where
  /-- Given the same arguments for builds, the commands are the same. -/
  assemble_eq (auxArgs : List String) : c'.assemble auxArgs = c.assemble auxArgs
  /-- The builds that the tests need are asked for alike, so the commands are the same then, too. -/
  buildCommand_eq (s : Session) :
    outcome (buildCommand host shared c') s = outcome (buildCommand host shared c) s
  /-- Expected output is found in the same files. -/
  outputPath_eq (kind : String) : c'.outputPath kind = c.outputPath kind
  /-- Verifications end alike and change the files, the builds and the log alike. -/
  verify_eq (command : Command) (output : ProcessOutput) (s : Session) :
    outcome (c'.verify command output) s = outcome (c.verify command output) s

/-- Variables are set one set after the other as if they came from one set. -/
theorem foldl_envs (sets : List DirectiveSet) (command : Command) :
    sets.foldl (fun command s => command.envs s.env) command =
      command.envs (sets.flatMap (·.env)) := by
  induction sets generalizing command with
  | nil => rfl
  | cons s sets ih =>
    rw [List.foldl_cons, ih, List.flatMap_cons]
    simp only [Command.envs, Command.setVariables, List.foldl_append]

namespace SameSettings

variable {c c' : Case}

theorem assemble_eq (h : c.SameSettings c') (auxArgs : List String) :
    c'.assemble auxArgs = c.assemble auxArgs := by
  simp only [assemble, foldl_envs, h.config_eq, h.path_eq, h.revision_eq, h.compileFlags_eq,
    h.flags_eq, h.env_eq]

theorem buildCommand_eq (h : c.SameSettings c') (host : Host) (shared : Config) :
    buildCommand host shared c' = buildCommand host shared c := by
  have hassemble : c'.assemble = c.assemble := funext h.assemble_eq
  simp only [buildCommand, buildAuxFiles, h.auxBuilds_eq, h.auxDir_eq, hassemble]

theorem outputPath_eq (h : c.SameSettings c') (kind : String) :
    c'.outputPath kind = c.outputPath kind := by
  simp only [outputPath, extension, h.perBitwidth_eq, h.path_eq, h.config_eq, h.revision_eq]

theorem checkOutput_eq (h : c.SameSettings c') (output : Bytes) (kind : String) :
    c'.checkOutput output kind = c.checkOutput output kind := by
  have hnormalize : c'.normalize output kind = c.normalize output kind := by
    simp only [normalize, h.rules_eq]
  simp only [checkOutput, hnormalize, h.outputPath_eq, h.config_eq]

theorem checkAnnotations_eq (h : c.SameSettings c') :
    c'.checkAnnotations = c.checkAnnotations := by
  simp only [checkAnnotations, lastExpectation, h.otherFiles_eq, h.codePrefix_eq, h.errorMatches_eq,
    h.requiredLevel_eq, h.mode_eq, h.path_eq]

theorem verify_eq (h : c.SameSettings c') (command : Command) (output : ProcessOutput) :
    c'.verify command output = c.verify command output := by
  simp only [verify, decodeDiagnostics, checkTestOutput, messageErrors, h.mode_eq, h.path_eq,
    h.checkOutput_eq, h.checkAnnotations_eq]

theorem sameRun (h : c.SameSettings c') (host : Host) (shared : Config) :
    SameRun host shared c c' where
  assemble_eq := h.assemble_eq
  buildCommand_eq s := by rw [h.buildCommand_eq]
  outputPath_eq := h.outputPath_eq
  verify_eq command output s := by rw [h.verify_eq]

end SameSettings

/-! ## Directives that say the same -/

section Union

variable (c : Case)

/-- A value that is resolved without a conflict counts by its content. -/
theorem contentOr_eq {α : Type} {revision kind : String}
    {setting : DirectiveSet → Option (Spanned α)} {d d' : Directives} (default : α)
    (h : Directives.SameValue revision kind setting d d') :
    (do return ((← d'.findOne revision kind setting).map Spanned.content).getD default :
      Except Failure α) =
    (do return ((← d.findOne revision kind setting).map Spanned.content).getD default) := by
  obtain ⟨v, v', hv, hv', hcontent⟩ := h
  rw [hv, hv']
  simp only [bind, Except.bind, hcontent]

theorem sameSettings_of_sameUnion {d : Directives}
    (h : c.directives.SameUnion c.revision d) :
    c.SameSettings { c with directives := d } where
  config_eq := rfl
  revision_eq := rfl
  path_eq := rfl
  auxDir_eq := rfl
  compileFlags_eq := h.compileFlags_eq
  env_eq := h.env_eq
  auxBuilds_eq := h.auxBuilds_eq
  errorMatches_eq := h.errorMatches_eq
  otherFiles_eq := h.otherFiles_eq
  rules_eq := by
    funext stream
    cases stream with
    | stdout => exact h.normalizeStdout_eq
    | stderr => exact h.normalizeStderr_eq
  flags_eq := h.flags_eq
  perBitwidth_eq := by
    rw [Bool.eq_iff_iff, perBitwidth, perBitwidth, List.any_eq_true, List.any_eq_true]
    exact h.perBitwidth_iff
  mode_eq := by
    obtain ⟨mode, hmode, hmode'⟩ := h.mode
    exact hmode'.trans hmode.symm
  codePrefix_eq := contentOr_eq "" h.codePrefix
  requiredLevel_eq := by
    have hmatches : errorMatches { c with directives := d } = c.errorMatches := h.errorMatches_eq
    rw [requiredLevel, requiredLevel, hmatches]
    exact contentOr_eq _ h.requiredLevel

theorem sameSettings_applicable :
    c.SameSettings { c with directives := c.directives.applicable c.revision } := by
  have hsets : sets { c with directives := c.directives.applicable c.revision } = c.sets :=
    c.directives.forRevision_applicable c.revision
  have hone {α : Type} (kind : String) (setting : DirectiveSet → Option (Spanned α)) :
      findOne { c with directives := c.directives.applicable c.revision } kind setting =
        c.findOne kind setting :=
    c.directives.findOne_applicable c.revision kind setting
  have hmatches : errorMatches { c with directives := c.directives.applicable c.revision } =
      c.errorMatches := by
    rw [errorMatches, errorMatches, hsets]
  constructor
  case mode_eq =>
    rw [mode, mode, Directives.mode, Directives.mode, Directives.findOne_applicable]
  case codePrefix_eq => rw [codePrefix, codePrefix, hone]
  case requiredLevel_eq => rw [requiredLevel, requiredLevel, hone, hmatches]
  case rules_eq =>
    funext stream
    cases stream <;> simp only [rules, hsets]
  case errorMatches_eq => exact hmatches
  all_goals first | rfl | simp only [auxBuilds, otherFiles, flags, perBitwidth, hsets]

/-- **Only the union of the sets that apply matters.** Two tests of one file and revision are run
alike if their directives say the same about the revision, all sets that apply taken together; and
a test is run alike without the sets that do not apply. -/
theorem sameRun_of_sameUnion (host : Host) (shared : Config) :
    (∀ d, c.directives.SameUnion c.revision d →
      SameRun host shared c { c with directives := d }) ∧
    SameRun host shared c { c with directives := c.directives.applicable c.revision } :=
  ⟨fun _ h => (c.sameSettings_of_sameUnion h).sameRun host shared,
    c.sameSettings_applicable.sameRun host shared⟩

/-- The directives of a test for its revision, for another one and for all of them. -/
def spreadDirectives : Directives where
  revisions := ["fast", "slow"]
  sets :=
    [{ revisions := ["fast"], compileFlags := ["-O"], mode := some ⟨.pass, {}⟩ },
      { revisions := ["slow"], compileFlags := ["-g"], perBitwidth := true },
      { env := [("LANG", "C")], mode := some ⟨.panic, {}⟩ }]

/-- What they say about the first revision in a single set. -/
def mergedDirectives : Directives where
  sets := [{ compileFlags := ["-O"], env := [("LANG", "C")], mode := some ⟨.pass, {}⟩ }]

theorem sameUnion_merged : spreadDirectives.SameUnion "fast" mergedDirectives := by
  constructor
  case perBitwidth_iff => decide
  case mode => exact ⟨⟨.pass, {}⟩, rfl, rfl⟩
  case codePrefix => exact ⟨none, none, rfl, rfl, rfl⟩
  case requiredLevel => exact ⟨none, none, rfl, rfl, rfl⟩
  all_goals rfl

/-- A test with these directives. -/
def spreadCase : Case where
  config := { program := { program := "cc" }, rootDir := .ofText "ui", outDir := .ofText "out" }
  revision := "fast"
  directives := spreadDirectives
  path := .ofText "ui/loop.c"
  auxDir := .ofText "ui/auxiliary"

/-- The first revision is run as if it had a single set. -/
theorem sameRun_merged :
    spreadCase.directives.SameUnion spreadCase.revision mergedDirectives ∧
    SameRun Shell.host spreadCase.config spreadCase
      { spreadCase with directives := mergedDirectives } :=
  ⟨sameUnion_merged,
    (spreadCase.sameRun_of_sameUnion Shell.host spreadCase.config).1 mergedDirectives
      sameUnion_merged⟩

end Union

end Case

end CompilerTest

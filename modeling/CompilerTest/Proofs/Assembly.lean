import CompilerTest.Proofs.Builds.Auxiliary
import CompilerTest.Proofs.Directives.Union

/-!
# The command of a test

The command of a test is put together from the configuration, the sets that apply to its revision,
and the arguments for the files that it needs, which are asked for first and one after the other.
The variables of its environment come from many places: each keeps the position of its first
definition and takes the value of the last.

Main statement: if all builds succeed, the command is the one that is written out here, and if one
fails, so does the test, with the report about that file and nothing asked for after it
(`buildCommand_assembled`).
-/

namespace CompilerTest

namespace Command

/-! ## Variables -/

/-- The last value of a variable. -/
def lastValue? (name : String) (env : List (String × String)) : Option String :=
  (env.filter (·.1 = name)).getLast?.map Prod.snd

variable {env values : List (String × String)} {name value key : String}

theorem lookup_setVariable :
    (setVariable name value env).lookup key =
      if key = name then some value else env.lookup key := by
  induction env with
  | nil =>
    by_cases hkey : key = name
    · simp [setVariable, hkey]
    · simp [setVariable, hkey, List.lookup_cons, beq_eq_false_iff_ne.2 hkey]
  | cons kv env ih =>
    obtain ⟨k, v⟩ := kv
    rw [setVariable]
    by_cases hk : k = name
    · rw [if_pos hk, hk]
      by_cases hkey : key = name
      · simp [hkey]
      · simp [hkey, List.lookup_cons, beq_eq_false_iff_ne.2 hkey]
    · rw [if_neg hk, List.lookup_cons, List.lookup_cons, ih]
      by_cases hkey : key = k
      · have hne : key ≠ name := fun h => hk (hkey.symm.trans h)
        simp [hkey, hk]
      · simp [beq_eq_false_iff_ne.2 hkey]

theorem lastValue?_append (name : String) (env values : List (String × String)) :
    lastValue? name (env ++ values) = (lastValue? name values).or (lastValue? name env) := by
  rw [lastValue?, List.filter_append, List.getLast?_append, lastValue?, lastValue?]
  cases (values.filter (·.1 = name)).getLast? <;> rfl

/-- A variable that is set takes the last value, and every other one keeps its own. -/
theorem lookup_setVariables (env values : List (String × String)) (key : String) :
    (setVariables env values).lookup key = (lastValue? key values).or (env.lookup key) := by
  induction values generalizing env with
  | nil => rfl
  | cons kv values ih =>
    obtain ⟨k, v⟩ := kv
    have hstep : setVariables env ((k, v) :: values) = setVariables (setVariable k v env) values :=
      rfl
    have hlast : lastValue? key ((k, v) :: values) =
        (lastValue? key values).or (if key = k then some v else none) := by
      rw [← List.singleton_append, lastValue?_append]
      by_cases hk : k = key
      · simp [lastValue?, hk]
      · simp [lastValue?, hk, Ne.symm hk]
    rw [hstep, ih, lookup_setVariable, hlast]
    cases lastValue? key values with
    | some value => rfl
    | none => by_cases hk : key = k <;> simp [hk]

theorem names_setVariable (name value : String) (env : List (String × String)) :
    (setVariable name value env).map Prod.fst =
      if name ∈ env.map Prod.fst then env.map Prod.fst else env.map Prod.fst ++ [name] := by
  induction env with
  | nil => rfl
  | cons kv env ih =>
    obtain ⟨k, v⟩ := kv
    rw [setVariable]
    by_cases hk : k = name
    · simp [hk]
    · rw [if_neg hk, List.map_cons, List.map_cons, ih]
      by_cases hname : name ∈ env.map Prod.fst
      · simp [hname]
      · simp [hname, Ne.symm hk]

/-- A name comes where it was first, and only once. -/
theorem names_setVariables {names : List String} (henv : env.map Prod.fst = names.eraseDups)
    (values : List (String × String)) :
    (setVariables env values).map Prod.fst = (names ++ values.map Prod.fst).eraseDups := by
  induction values generalizing env names with
  | nil => rw [List.map_nil, List.append_nil, ← henv]; rfl
  | cons kv values ih =>
    obtain ⟨k, v⟩ := kv
    have hstep : setVariables env ((k, v) :: values) = setVariables (setVariable k v env) values :=
      rfl
    have hnames : (setVariable k v env).map Prod.fst = (names ++ [k]).eraseDups := by
      rw [names_setVariable, henv, List.eraseDups_append]
      by_cases hk : k ∈ names
      · simp [hk, List.removeAll]
      · simp [hk, List.removeAll, List.eraseDups_cons]
    rw [hstep, ih hnames, List.map_cons, List.append_assoc, List.singleton_append]

theorem lastValue?_flatMap (name : String) (sets : List DirectiveSet) :
    lastValue? name (sets.flatMap (·.env)) =
      (sets.filterMap fun s => lastValue? name s.env).getLast? := by
  induction sets using List.reverseRecOn with
  | nil => rfl
  | append_singleton sets s ih =>
    rw [List.flatMap_append, List.flatMap_singleton, lastValue?_append, ih, List.filterMap_append,
      List.getLast?_append]
    cases h : lastValue? name s.env <;> simp [h]

theorem extend_extend (c : Command) (first second : List String) :
    (c.extend first).extend second = c.extend (first ++ second) := by
  simp only [extend, List.append_assoc]

end Command

/-! ## Custom flags -/

namespace Flag

/-- Whether a flag only adds texts, or runs the compiled program. -/
def IsPlain : Flag → Prop
  | args values => ∀ value ∈ values, value.text?.isSome
  | run _ => True
  | observe _ _ _ => False

/-- The arguments that a flag adds. -/
def arguments : Flag → List String
  | args values => values.filterMap Json.text?
  | run _ => []
  | observe _ values _ => values

theorem extend?_of_isPlain {flag : Flag} (h : flag.IsPlain) (command : Command) :
    flag.extend? command = some (command.extend flag.arguments) := by
  cases flag with
  | args values =>
    have htexts : values.mapM Json.text? = some (values.filterMap Json.text?) := by
      induction values with
      | nil => rfl
      | cons value values ih =>
        obtain ⟨hvalue, hvalues⟩ := List.forall_mem_cons.1 h
        obtain ⟨text, htext⟩ := Option.isSome_iff_exists.1 hvalue
        simp [List.mapM_cons, htext, ih hvalues]
    simp only [extend?, htexts, Option.map_some, arguments]
  | run exitCode => simp [extend?, arguments, Command.extend]
  | observe key values decision => exact h.elim

end Flag

namespace Case

theorem applyFlags_of_isPlain {flags : List Flag} (h : ∀ flag ∈ flags, flag.IsPlain)
    (command : Command) :
    applyFlags flags command = .ok (command.extend (flags.flatMap Flag.arguments)) := by
  induction flags generalizing command with
  | nil => simp [applyFlags, Command.extend, pure, Except.pure]
  | cons flag flags ih =>
    obtain ⟨hflag, hflags⟩ := List.forall_mem_cons.1 h
    have hrest := ih hflags (command.extend flag.arguments)
    rw [applyFlags] at hrest
    rw [applyFlags, List.foldlM_cons, Flag.extend?_of_isPlain hflag, List.flatMap_cons,
      ← Command.extend_extend, ← hrest]
    rfl

/-! ## The command -/

/-- What the command of a test is, given the arguments for the files that it needs. -/
structure IsCommandOf (c : Case) (auxArgs : List (List String)) (command : Command) : Prop where
  program_eq : command.program = c.config.program.program
  args_eq : command.args =
    c.config.program.args ++
    (match c.config.program.outDirFlag with
      | some flag => [flag, c.config.outDir.text]
      | none => []) ++
    auxArgs.flatten ++
    [c.path.text] ++
    (if c.revision = "" then [] else ["--cfg=" ++ c.revision]) ++
    c.sets.flatMap (·.compileFlags) ++
    c.flags.flatMap Flag.arguments ++
    (match c.config.target with
      | some target => if c.config.host = some target then [] else ["--target", target]
      | none => [])
  /-- Each variable is there once, in the order of the first definitions. -/
  names_eq : command.env.map Prod.fst =
    ((c.config.program.envs ++ c.sets.flatMap (·.env)).map Prod.fst).eraseDups
  /-- The last set that defines a variable gives its value, or else the configuration does. -/
  value_eq (name : String) : command.env.lookup name =
    (c.sets.filterMap fun s => Command.lastValue? name s.env).getLast?.or
      (Command.lastValue? name c.config.program.envs)
  directory_eq : command.directory = none
  stdin_eq : command.stdin = none

section Assemble

variable {c : Case}

theorem build_eq (b : CommandBuilder) (outDir : Path) : b.build outDir =
    { program := b.program
      args := b.args ++ (match b.outDirFlag with
        | some flag => [flag, outDir.text]
        | none => [])
      env := Command.setVariables [] b.envs } := by
  unfold CommandBuilder.build
  cases b.outDirFlag <;> simp [Command.envs, Command.extend]

theorem targetArgs_eq (config : Config) : targetArgs config =
    match config.target with
    | some target => if config.host = some target then [] else ["--target", target]
    | none => [] := by
  unfold targetArgs Config.hostMatchesTarget
  cases config.target with
  | none => rfl
  | some target => simp [eq_comm]

theorem assemble_of_isPlain (hplain : ∀ flag ∈ c.flags, flag.IsPlain) (args : List String) :
    c.assemble args = .ok
      { program := c.config.program.program
        args := c.config.program.args ++
          (match c.config.program.outDirFlag with
            | some flag => [flag, c.config.outDir.text]
            | none => []) ++
          args ++ [c.path.text] ++
          (if c.revision = "" then [] else ["--cfg=" ++ c.revision]) ++
          c.sets.flatMap (·.compileFlags) ++ c.flags.flatMap Flag.arguments ++
          targetArgs c.config
        env := Command.setVariables [] (c.config.program.envs ++ c.sets.flatMap (·.env)) } := by
  have happend (values values' : List (String × String)) :
      Command.setVariables (Command.setVariables [] values) values' =
        Command.setVariables [] (values ++ values') := by
    simp only [Command.setVariables, List.foldl_append]
  unfold assemble
  simp only [applyFlags_of_isPlain hplain, foldl_envs, build_eq]
  by_cases hrevision : c.revision = "" <;>
    simp [hrevision, bind, Except.bind, pure, Except.pure, Command.envs, Command.extend,
      Command.arg, happend]

theorem exists_isCommandOf (hplain : ∀ flag ∈ c.flags, flag.IsPlain)
    (auxArgs : List (List String)) :
    ∃ command, c.assemble auxArgs.flatten = .ok command ∧ IsCommandOf c auxArgs command := by
  refine ⟨_, assemble_of_isPlain hplain auxArgs.flatten, ?_⟩
  constructor
  case program_eq => rfl
  case args_eq => rw [targetArgs_eq]
  case names_eq =>
    have hnone : ([] : List (String × String)).map Prod.fst = [].eraseDups := rfl
    have hnames := Command.names_setVariables hnone
      (c.config.program.envs ++ c.sets.flatMap (·.env))
    rwa [List.nil_append] at hnames
  case value_eq =>
    intro name
    rw [Command.lookup_setVariables, Command.lastValue?_append, Command.lastValue?_flatMap]
    simp
  case directory_eq => rfl
  case stdin_eq => rfl

end Assemble

/-! ## Files that are asked for one after the other -/

/-- Whether the builds of all files succeed, with these arguments and this session in the end. -/
inductive Supplied (host : Host) (shared : Config) (dir : Path) :
    Session → List (Spanned Path) → List (List String) → Session → Prop where
  | nil {s : Session} : Supplied host shared dir s [] [] s
  | cons {s u t : Session} {aux : Spanned Path} {auxes : List (Spanned Path)} {args : List String}
    {auxArgs : List (List String)}
    (hfirst : outcome (requestAux host shared (resolveAux aux.content dir)) s = (.ok args, u))
    (hrest : Supplied host shared dir u auxes auxArgs t) :
    Supplied host shared dir s (aux :: auxes) (args :: auxArgs) t

/-- Whether asking for the build of `bad` ends with a fault, all before it having succeeded. The
session in the end is the one that this leaves behind, whichever files come after. -/
inductive Stopped (host : Host) (shared : Config) (dir : Path) :
    Session → List (Spanned Path) → Spanned Path → Fault → Session → Prop where
  | here {s t : Session} {bad : Spanned Path} {after : List (Spanned Path)} {f : Fault}
    (h : outcome (requestAux host shared (resolveAux bad.content dir)) s = (.error f, t)) :
    Stopped host shared dir s (bad :: after) bad f t
  | later {s u t : Session} {aux bad : Spanned Path} {auxes : List (Spanned Path)}
    {args : List String} {f : Fault}
    (hfirst : outcome (requestAux host shared (resolveAux aux.content dir)) s = (.ok args, u))
    (hrest : Stopped host shared dir u auxes bad f t) :
    Stopped host shared dir s (aux :: auxes) bad f t

section Requests

variable {host : Host} {shared : Config} {dir : Path} {s u t : Session} {aux : Spanned Path}
  {auxes : List (Spanned Path)} {args : List String} {auxArgs : List (List String)} {f : Fault}

theorem outcome_buildAux_of_ok
    (h : outcome (requestAux host shared (resolveAux aux.content dir)) s = (.ok args, u)) :
    outcome (buildAux host shared dir aux) s = (.ok args, u) := by
  rw [outcome_buildAux_eq, h]
  rfl

theorem outcome_buildAux_of_fault
    (h : outcome (requestAux host shared (resolveAux aux.content dir)) s = (.error f, u)) :
    outcome (buildAux host shared dir aux) s =
      (.error (f.ofAux (resolveAux aux.content dir) aux.line), u) := by
  rw [outcome_buildAux_eq, h]
  rfl

theorem Supplied.outcome_eq (h : Supplied host shared dir s auxes auxArgs t) :
    outcome (auxes.mapM (buildAux host shared dir)) s = (.ok auxArgs, t) := by
  induction h with
  | nil => rfl
  | cons hfirst _ ih =>
    rw [List.mapM_cons, outcome_bind_of_ok (outcome_buildAux_of_ok hfirst), outcome_bind_of_ok ih]
    rfl

theorem Stopped.outcome_eq (h : Stopped host shared dir s auxes aux f t) :
    outcome (auxes.mapM (buildAux host shared dir)) s =
      (.error (f.ofAux (resolveAux aux.content dir) aux.line), t) := by
  induction h with
  | here h => rw [List.mapM_cons, outcome_bind, outcome_buildAux_of_fault h]
  | later hfirst _ ih =>
    rw [List.mapM_cons, outcome_bind_of_ok (outcome_buildAux_of_ok hfirst), outcome_bind, ih]

/-- The builds of all files succeed, or there is a first one that does not. -/
theorem supplied_or_stopped (host : Host) (shared : Config) (dir : Path)
    (auxes : List (Spanned Path)) (s : Session) :
    (∃ auxArgs t, Supplied host shared dir s auxes auxArgs t) ∨
      ∃ aux f t, Stopped host shared dir s auxes aux f t := by
  induction auxes generalizing s with
  | nil => exact .inl ⟨[], s, .nil⟩
  | cons aux auxes ih =>
    rcases hfirst : outcome (requestAux host shared (resolveAux aux.content dir)) s with
      ⟨f | args, u⟩
    · exact .inr ⟨aux, f, u, .here hfirst⟩
    · rcases ih u with ⟨auxArgs, t, hrest⟩ | ⟨bad, f, t, hrest⟩
      · exact .inl ⟨args :: auxArgs, t, .cons hfirst hrest⟩
      · exact .inr ⟨bad, f, t, .later hfirst hrest⟩

end Requests

/-! ## The command after the builds -/

/-- How the command of a test comes about. The case is only read: all that this changes is the
session. -/
structure Assembled (host : Host) (shared : Config) (c : Case) (s : Session) : Prop where
  /-- If all builds succeed, there is the command with their arguments. -/
  command {auxArgs : List (List String)} {t : Session} :
    Supplied host shared c.auxDir s c.auxBuilds auxArgs t →
      ∃ command, outcome (buildCommand host shared c) s = (.ok command, t) ∧
        IsCommandOf c auxArgs command
  /-- The first build that fails is reported, and no other file is asked for. -/
  report {aux : Spanned Path} {g : Failure} {t : Session} :
    Stopped host shared c.auxDir s c.auxBuilds aux (.failed g) t →
      outcome (buildCommand host shared c) s =
        (.error (.failed { g with
          errors := [.auxiliary (resolveAux aux.content c.auxDir) g.errors aux.line] }), t)
  /-- Any other fault ends the test as it is, and no other file is asked for, either. -/
  fault {aux : Spanned Path} {f : Fault} {t : Session} :
    Stopped host shared c.auxDir s c.auxBuilds aux f t → (∀ g, f ≠ .failed g) →
      outcome (buildCommand host shared c) s = (.error f, t)
  /-- There is no other way. -/
  ends : (∃ auxArgs t, Supplied host shared c.auxDir s c.auxBuilds auxArgs t) ∨
    ∃ aux f t, Stopped host shared c.auxDir s c.auxBuilds aux f t

/-- **The command of a test.** A test whose flags only add texts or run the compiled program gets
the command that is written out above iff all its builds succeed, and ends with the first that does
not otherwise. -/
theorem buildCommand_assembled (host : Host) (shared : Config) {c : Case} (s : Session)
    (hplain : ∀ flag ∈ c.flags, flag.IsPlain) : Assembled host shared c s := by
  have hstopped {aux : Spanned Path} {f : Fault} {t : Session}
      (h : Stopped host shared c.auxDir s c.auxBuilds aux f t) :
      outcome (buildCommand host shared c) s =
        (.error (f.ofAux (resolveAux aux.content c.auxDir) aux.line), t) := by
    rw [buildCommand, outcome_bind, buildAuxFiles, outcome_bind, h.outcome_eq]
  constructor
  case command =>
    intro auxArgs t h
    obtain ⟨command, hcommand, hof⟩ := exists_isCommandOf hplain auxArgs
    refine ⟨command, ?_, hof⟩
    have hfiles : outcome (buildAuxFiles host shared c) s = (.ok auxArgs.flatten, t) := by
      rw [buildAuxFiles, outcome_bind_of_ok h.outcome_eq, outcome_pure]
    rw [buildCommand, outcome_bind_of_ok hfiles, hcommand, Run.outcome_lift_ok]
  case report =>
    intro aux g t h
    exact hstopped h
  case fault =>
    intro aux f t h hf
    rw [hstopped h, Fault.ofAux_of_ne_failed hf]
  case ends => exact supplied_or_stopped host shared c.auxDir c.auxBuilds s

/-! ## A test with two sets for its revision -/

/-- A test of which three sets say something, one of them for another revision. -/
def layeredCase : Case where
  config := {
    program := {
      program := "rustc"
      args := ["--error-format=json"]
      envs := [("LANG", "C"), ("MODE", "slow"), ("LANG", "en")] }
    rootDir := .ofText "ui"
    outDir := .ofText "out"
    target := some "wasm32"
    host := some "x86_64" }
  revision := "fast"
  directives := {
    revisions := ["fast", "safe"]
    sets := [
      { compileFlags := ["-g"]
        env := [("DEPTH", "1"), ("MODE", "plain")]
        auxBuilds := [⟨.ofText "a.rs", ⟨none, some (.int 1)⟩⟩]
        custom := [("edition", ⟨.args [.text "--edition", .text "2021"], {}⟩)] },
      { revisions := ["safe"]
        compileFlags := ["-C", "debug-assertions"], env := [("MODE", "safe")] },
      { revisions := ["fast"]
        compileFlags := ["-O"]
        env := [("MODE", "fast")]
        custom := [("run", ⟨.run 0, {}⟩)] }] }
  path := .ofText "ui/t.rs"
  auxDir := .ofText "ui/auxiliary"

/-- A session in which the file that the test needs has been built. -/
def builtSession : Session where
  tree := {
    entries := [(["ui"], .directory), (["ui", "auxiliary"], .directory),
      (["ui", "auxiliary", "a.rs"], .file [] true)]
    workingPlace := [] }
  builds := {
    slots := [(.auxiliary "ui/auxiliary/a.rs", 0)]
    promises := [.settled (.ok ["--extern", "a=out/auxiliary/liba.rlib"])] }

/-- The session after the test has asked for the file. -/
def askedSession : Session :=
  { builtSession with
    log := [⟨.debug, "build_manager", "reusing building aux file \x60ui/auxiliary/a.rs\x60"⟩] }

theorem layeredCase_assembled :
    (∀ flag ∈ layeredCase.flags, flag.IsPlain) ∧
      ∃ command, outcome (buildCommand noHost layeredCase.config layeredCase) builtSession =
          (.ok command, askedSession) ∧
        command.args = ["--error-format=json", "--out-dir", "out", "--extern",
          "a=out/auxiliary/liba.rlib", "ui/t.rs", "--cfg=fast", "-g", "-O", "--edition", "2021",
          "--target", "wasm32"] ∧
        command.env.map Prod.fst = ["LANG", "MODE", "DEPTH"] ∧
        ["LANG", "MODE", "DEPTH"].map (command.env.lookup ·) =
          [some "en", some "fast", some "1"] := by
  have hplain : ∀ flag ∈ layeredCase.flags, flag.IsPlain := by
    have hflags : layeredCase.flags = [.args [.text "--edition", .text "2021"], .run 0] := rfl
    rw [hflags]
    simp [Flag.IsPlain, Json.text?]
  have hreal : builtSession.tree.realPath true (.ofText "ui/auxiliary/a.rs") =
      .ok (builtSession.tree.workingDirectory.join (.ofText "ui/auxiliary/a.rs")) := by
    decide +kernel
  have haux : outcome (requestAux noHost layeredCase.config (.ofText "ui/auxiliary/a.rs"))
      builtSession = (.ok ["--extern", "a=out/auxiliary/liba.rlib"], askedSession) := by
    rw [outcome_requestAux_of_ok hreal]
    rfl
  have hsupplied : Supplied noHost layeredCase.config layeredCase.auxDir builtSession
      layeredCase.auxBuilds [["--extern", "a=out/auxiliary/liba.rlib"]] askedSession :=
    .cons haux .nil
  obtain ⟨command, houtcome, hof⟩ :=
    (buildCommand_assembled noHost layeredCase.config builtSession hplain).command hsupplied
  refine ⟨hplain, command, houtcome, hof.args_eq.trans (by decide), ?_, ?_⟩
  · exact hof.names_eq.trans (by decide)
  · simp only [List.map_cons, List.map_nil, hof.value_eq]
    decide

end Case

end CompilerTest

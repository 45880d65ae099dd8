import CompilerTest.Proofs.Builds.Request
import CompilerTest.Proofs.FileTree.RealPaths

/-!
# Builds of files that tests need

A test that needs a file looks for its real path and asks for the build of that. Either of these can
go wrong in ways that fail the test and in others that do not. What goes wrong as a failed test is
reported as the failure of the file; any other fault ends the test as it is, and no report names the
file.

Main statement: a test gets the arguments of the build or the report about the file iff none of the
faults that fail no test comes up, all of which are listed here (`buildAux_reported`).
-/

namespace CompilerTest

/-- What a test ends with for a fault of a file that it needs: a failure is reported as that of the
file. -/
def Fault.ofAux (file : Path) (line : Option Number) : Fault → Fault
  | .failed f => .failed { f with errors := [.auxiliary file f.errors line] }
  | f => f

theorem Fault.ofAux_of_ne_failed {file : Path} {line : Option Number} {f : Fault}
    (h : ∀ g, f ≠ .failed g) : f.ofAux file line = f := by
  cases f with
  | failed g => exact absurd rfl (h g)
  | _ => rfl

/-- Whether no build is going on: whoever asks for a build that was begun gets what it has ended
with. -/
def Builds.AllSettled (b : Builds) : Prop :=
  ∀ key n, b.slot? key = some n → ∃ o, b.promise? n = some (.settled o)

/-! ## Commands that cannot be handed to a program -/

/-- The texts that are handed to a program with a command. -/
def Command.texts (c : Command) : List String :=
  c.tokens ++ c.env.flatMap (fun (k, v) => [k, v]) ++ (c.directory.map Path.text).toList

/-- Why a command cannot be handed to any program. -/
inductive Command.Unusable (c : Command) : Fault → Prop where
  /-- The name of a variable holds an equals sign. -/
  | badName {name value : String} (h : (name, value) ∈ c.env) (hname : '=' ∈ name.toList) :
    Unusable c .badVariable
  /-- A text holds a zero byte; the first one is shown. -/
  | zeroByte {text : String} (hnames : ∀ name value, (name, value) ∈ c.env → '=' ∉ name.toList)
    (h : c.texts.find? (·.toList.contains '\x00') = some text) :
    Unusable c (.file ⟨.hasNull, Text.quote text⟩)

namespace Run

variable {c : Command} {s : Session}

theorem outcome_checkCommand_of_unusable {f : Fault} (h : c.Unusable f) (s : Session) :
    outcome (checkCommand c) s = (.error f, s) := by
  cases h with
  | badName h hname =>
    have hany : c.env.any (fun (k, _) => k.toList.contains '=') = true :=
      List.any_eq_true.2 ⟨_, h, by simpa using hname⟩
    simp only [checkCommand, hany, if_true]
    rfl
  | zeroByte hnames h =>
    have hany : c.env.any (fun (k, _) => k.toList.contains '=') = false :=
      List.any_eq_false.2 fun kv hkv => by simpa using hnames kv.1 kv.2 hkv
    rw [Command.texts] at h
    simp only [checkCommand, hany, h]
    rfl

/-- A command that cannot be handed to any program is refused, and no other is. -/
theorem outcome_checkCommand_cases (c : Command) (s : Session) :
    (∃ f, c.Unusable f) ∨ outcome (checkCommand c) s = (.ok (), s) := by
  by_cases hnames : ∀ name value, (name, value) ∈ c.env → '=' ∉ name.toList
  · cases htext : c.texts.find? (·.toList.contains '\x00') with
    | some text => exact .inl ⟨_, .zeroByte hnames htext⟩
    | none =>
      right
      have hany : c.env.any (fun (k, _) => k.toList.contains '=') = false :=
        List.any_eq_false.2 fun kv hkv => by simpa using hnames kv.1 kv.2 hkv
      rw [Command.texts] at htext
      simp only [checkCommand, hany, htext]
      rfl
  · simp only [not_forall, not_not] at hnames
    obtain ⟨name, value, h, hname⟩ := hnames
    exact .inl ⟨_, .badName h hname⟩

/-- A command without input is launched once that has been recorded. -/
theorem outcome_command_of_stdin (hstdin : c.stdin = none) (host : Host) (s : Session) :
    ∃ u, u.tree = s.tree ∧ outcome (command host c) s = outcome (launch host c) u := by
  refine ⟨{ s with log := s.log ++ [⟨.debug, "command", "running " ++ c.render⟩] }, rfl, ?_⟩
  rw [command, outcome_bind_of_ok (outcome_log ..), hstdin]

theorem outcome_launch_of_unusable {f : Fault} (h : c.Unusable f) (host : Host) (s : Session) :
    (outcome (launch host c) s).1 = .error f := by
  rw [launch, outcome_bind, outcome_checkCommand_of_unusable h]

theorem outcome_launch_of_refused {e : FileError}
    (hchecked : outcome (checkCommand c) s = (.ok (), s)) {host : Host}
    (h : host.launch s.tree c = .error e) :
    (outcome (launch host c) s).1 = .error (.failed (refusal c e)) := by
  rw [launch, outcome_bind_of_ok hchecked, outcome_bind_of_ok (outcome_tree s), h]
  rfl

theorem outcome_launch_of_launched {output : ProcessOutput} {t : FileTree}
    (hchecked : outcome (checkCommand c) s = (.ok (), s)) {host : Host}
    (h : host.launch s.tree c = .ok (output, t)) :
    outcome (launch host c) s = (.ok output, { s with tree := t }) := by
  rw [launch, outcome_bind_of_ok hchecked, outcome_bind_of_ok (outcome_tree s), h]
  rfl

end Run

namespace Case

/-! ## The build of a file -/

/-- The command that compiles a file with a directory for the artifacts. -/
def auxCommand (shared : Config) (file outDir : Path) : Command :=
  ((shared.program.build outDir).extend shared.auxArgs).arg file.text

/-- Whether `outDir` is the output directory of a file, and `t'` is the tree with it. -/
structure Placed (shared : Config) (t : FileTree) (file outDir : Path) (t' : FileTree) : Prop where
  outDir_eq : shared.outDirFor t file = .ok outDir
  tree_eq : t.ensureDirectory outDir = .ok t'

/-- How the build of a file ends, given the files that there are when it begins. It fails the test
if its program cannot be run or ends with a status other than zero; the other faults fail no test.
-/
inductive BuildEnds (host : Host) (shared : Config) (t : FileTree) (file : Path) :
    BuildOutcome → Prop where
  /-- The place of the output directory cannot be found. -/
  | noPlace {e : ResolveError} (h : shared.outDirFor t file = .error e) :
    BuildEnds host shared t file (.error (.resolve e))
  /-- The output directory cannot be made. -/
  | noDirectory {outDir : Path} {e : FileError} (h : shared.outDirFor t file = .ok outDir)
    (he : t.ensureDirectory outDir = .error e) : BuildEnds host shared t file (.error (.file e))
  /-- The command cannot be handed to any program. -/
  | unusable {outDir : Path} {t' : FileTree} {f : Fault} (h : Placed shared t file outDir t')
    (hf : (auxCommand shared file outDir).Unusable f) : BuildEnds host shared t file (.error f)
  /-- The program cannot be run. -/
  | notRun {outDir : Path} {t' : FileTree} {e : FileError} (h : Placed shared t file outDir t')
    (hc : ∀ f, ¬ (auxCommand shared file outDir).Unusable f)
    (he : host.launch t' (auxCommand shared file outDir) = .error e) :
    BuildEnds host shared t file
      (.error (.failed (Run.refusal (auxCommand shared file outDir) e)))
  /-- The program does not end with status zero. -/
  | badStatus {outDir : Path} {t' t'' : FileTree} {output : ProcessOutput}
    (h : Placed shared t file outDir t') (hc : ∀ f, ¬ (auxCommand shared file outDir).Unusable f)
    (hrun : host.launch t' (auxCommand shared file outDir) = .ok (output, t''))
    (hstatus : output.status ≠ 0) :
    BuildEnds host shared t file (.error (.failed
      { command := auxCommand shared file outDir
        errors := [.commandFailed "compilation of aux build" output.status]
        stderr := output.stderr
        stdout := output.stdout }))
  /-- The program ends with status zero, but a template for the arguments is unusable. -/
  | badTemplate {outDir : Path} {t' t'' : FileTree} {output : ProcessOutput}
    {e : Text.TemplateError} (h : Placed shared t file outDir t')
    (hc : ∀ f, ¬ (auxCommand shared file outDir).Unusable f)
    (hrun : host.launch t' (auxCommand shared file outDir) = .ok (output, t''))
    (hstatus : output.status = 0) (he : linkArgs shared file outDir = .error e) :
    BuildEnds host shared t file (.error (.template e))
  /-- The program ends with status zero, and the templates give the arguments. -/
  | built {outDir : Path} {t' t'' : FileTree} {output : ProcessOutput} {args : List String}
    (h : Placed shared t file outDir t') (hc : ∀ f, ¬ (auxCommand shared file outDir).Unusable f)
    (hrun : host.launch t' (auxCommand shared file outDir) = .ok (output, t''))
    (hstatus : output.status = 0) (hargs : linkArgs shared file outDir = .ok args) :
    BuildEnds host shared t file (.ok args)

section Build

variable {host : Host} {shared : Config} {t : FileTree} {file outDir : Path} {s : Session}

theorem stdin_auxCommand (shared : Config) (file outDir : Path) :
    (auxCommand shared file outDir).stdin = none := by
  unfold auxCommand CommandBuilder.build
  cases shared.program.outDirFlag <;> rfl

/-- A build whose output directory is there launches its command. -/
theorem outcome_buildAuxFile_of_placed (host : Host) {t' : FileTree}
    (h : Placed shared s.tree file outDir t') :
    ∃ u, u.tree = t' ∧ outcome (buildAuxFile host shared file) s = outcome (do
      let output ← Run.launch host (auxCommand shared file outDir)
      if output.status ≠ 0 then
        Run.fail {
          command := auxCommand shared file outDir
          errors := [.commandFailed "compilation of aux build" output.status]
          stderr := output.stderr
          stdout := output.stdout }
      Run.lift ((linkArgs shared file outDir).mapError .template)) u := by
  obtain ⟨u, hu, hcommand⟩ :=
    Run.outcome_command_of_stdin (stdin_auxCommand shared file outDir) host { s with tree := t' }
  refine ⟨u, hu, ?_⟩
  have houtDir : outcome (Run.liftResolve (.ok outDir)) s = (.ok outDir, s) := rfl
  rw [buildAuxFile, outcome_bind_of_ok (Run.outcome_tree s), h.outDir_eq,
    outcome_bind_of_ok houtDir, outcome_bind_of_ok (Run.outcome_tree s), h.tree_eq,
    outcome_bind_of_ok (Run.outcome_liftFile_ok t' s),
    outcome_bind_of_ok (Run.outcome_setTree t' s)]
  rw [outcome_bind, outcome_bind, ← hcommand]
  rfl

theorem checked_of_usable {c : Command} (hc : ∀ f, ¬ c.Unusable f) (s : Session) :
    outcome (Run.checkCommand c) s = (.ok (), s) := by
  rcases Run.outcome_checkCommand_cases c s with ⟨f, hf⟩ | hchecked
  · exact absurd hf (hc f)
  · exact hchecked

/-- The build of a file ends as it should. -/
theorem BuildEnds.outcome_eq {o : BuildOutcome} (h : BuildEnds host shared s.tree file o) :
    (outcome (buildAuxFile host shared file) s).1 = o := by
  cases h with
  | noPlace h =>
    rw [buildAuxFile, outcome_bind_of_ok (Run.outcome_tree s), h]
    rfl
  | @noDirectory outDir e h he =>
    have houtDir : outcome (Run.liftResolve (.ok outDir)) s = (.ok outDir, s) := rfl
    rw [buildAuxFile, outcome_bind_of_ok (Run.outcome_tree s), h, outcome_bind_of_ok houtDir,
      outcome_bind_of_ok (Run.outcome_tree s), he]
    rfl
  | unusable h hf =>
    obtain ⟨u, rfl, hbuild⟩ := outcome_buildAuxFile_of_placed host h
    rw [hbuild, outcome_bind]
    have hlaunch := Run.outcome_launch_of_unusable hf host u
    generalize outcome (Run.launch host _) u = result at hlaunch
    obtain ⟨_, u'⟩ := result
    cases hlaunch
    rfl
  | notRun h hc he =>
    obtain ⟨u, rfl, hbuild⟩ := outcome_buildAuxFile_of_placed host h
    rw [hbuild, outcome_bind]
    have hlaunch := Run.outcome_launch_of_refused (checked_of_usable hc u) he
    generalize outcome (Run.launch host _) u = result at hlaunch
    obtain ⟨_, u'⟩ := result
    cases hlaunch
    rfl
  | badStatus h hc hrun hstatus =>
    obtain ⟨u, rfl, hbuild⟩ := outcome_buildAuxFile_of_placed host h
    rw [hbuild, outcome_bind_of_ok (Run.outcome_launch_of_launched (checked_of_usable hc u) hrun),
      if_pos hstatus]
    rfl
  | badTemplate h hc hrun hstatus he =>
    obtain ⟨u, rfl, hbuild⟩ := outcome_buildAuxFile_of_placed host h
    rw [hbuild, outcome_bind_of_ok (Run.outcome_launch_of_launched (checked_of_usable hc u) hrun),
      if_neg (not_not.2 hstatus), he]
    rfl
  | built h hc hrun hstatus hargs =>
    obtain ⟨u, rfl, hbuild⟩ := outcome_buildAuxFile_of_placed host h
    rw [hbuild, outcome_bind_of_ok (Run.outcome_launch_of_launched (checked_of_usable hc u) hrun),
      if_neg (not_not.2 hstatus), hargs]
    rfl

/-- There is no other way in which the build of a file ends. -/
theorem exists_buildEnds (host : Host) (shared : Config) (t : FileTree) (file : Path) :
    ∃ o, BuildEnds host shared t file o := by
  cases houtDir : shared.outDirFor t file with
  | error e => exact ⟨_, .noPlace houtDir⟩
  | ok outDir =>
    cases htree : t.ensureDirectory outDir with
    | error e => exact ⟨_, .noDirectory houtDir htree⟩
    | ok t' =>
      have hplaced : Placed shared t file outDir t' := ⟨houtDir, htree⟩
      by_cases hc : ∀ f, ¬ (auxCommand shared file outDir).Unusable f
      · cases hrun : host.launch t' (auxCommand shared file outDir) with
        | error e => exact ⟨_, .notRun hplaced hc hrun⟩
        | ok result =>
          obtain ⟨output, t''⟩ := result
          by_cases hstatus : output.status = 0
          · cases hargs : linkArgs shared file outDir with
            | error e => exact ⟨_, .badTemplate hplaced hc hrun hstatus hargs⟩
            | ok args => exact ⟨_, .built hplaced hc hrun hstatus hargs⟩
          · exact ⟨_, .badStatus hplaced hc hrun hstatus⟩
      · simp only [not_forall, not_not] at hc
        obtain ⟨f, hf⟩ := hc
        exact ⟨_, .unusable hplaced hf⟩

end Build

/-! ## Asking for the build of a file -/

/-- How asking for the build of a file ends. A missing file fails the test, and so do a build that
fails it and one that has failed before; the other faults fail no test. -/
inductive RequestEnds (host : Host) (shared : Config) (s : Session) (file : Path) :
    Except Fault (List String) → Prop where
  /-- The file has no real path. -/
  | missing {e : FileError} (h : s.tree.realPath true file = .error (.file e))
    (hnull : e.problem ≠ .hasNull) :
    RequestEnds host shared s file (.error (.failed
      { command := { program := s!"canonicalizing path \x60{file.text}\x60" }
        stderr := Bytes.ofText e.message }))
  /-- There is a zero byte in the name of the file. -/
  | zeroByte {e : FileError} (h : s.tree.realPath true file = .error (.file e))
    (hnull : e.problem = .hasNull) : RequestEnds host shared s file (.error (.file e))
  /-- Links lead in a circle. -/
  | loop {shown : String} (h : s.tree.realPath true file = .error (.loop shown)) :
    RequestEnds host shared s file (.error (.linkLoop shown))
  /-- The real file has been built before. -/
  | again {real : Path} {n : Nat} {o : BuildOutcome} (h : s.tree.realPath true file = .ok real)
    (hslot : s.builds.slot? (auxBuild host shared (auxKeyPath s.tree real)).key = some n)
    (hp : s.builds.promise? n = some (.settled o)) :
    RequestEnds host shared s file
      (Builds.reused (auxBuild host shared (auxKeyPath s.tree real)).description o)
  /-- The real file is built now. -/
  | first {real : Path} {o : BuildOutcome} (h : s.tree.realPath true file = .ok real)
    (hslot : s.builds.slot? (auxBuild host shared (auxKeyPath s.tree real)).key = none)
    (hends : BuildEnds host shared s.tree (auxKeyPath s.tree real) o) :
    RequestEnds host shared s file o

/-- What a real path that cannot be found means for a test. -/
def unresolved (file : Path) : ResolveError → Fault
  | .file e =>
    if e.problem = .hasNull then .file e
    else .failed
      { command := { program := s!"canonicalizing path \x60{file.text}\x60" }
        stderr := Bytes.ofText e.message }
  | .loop shown => .linkLoop shown

section Request

variable {host : Host} {shared : Config} {file real dir : Path} {aux : Spanned Path} {s : Session}

theorem outcome_realAux_of_error {e : ResolveError} (h : s.tree.realPath true file = .error e) :
    outcome (realAux file) s = (.error (unresolved file e), s) := by
  rw [realAux, outcome_bind_of_ok (Run.outcome_tree s), h]
  cases e with
  | file e =>
    by_cases hnull : e.problem = .hasNull
    · simp only [unresolved, if_pos hnull, Run.outcome_fault]
    · simp only [unresolved, if_neg hnull]
      rfl
  | loop shown => rfl

/-- A file that has no real path is not asked for. -/
theorem outcome_requestAux_of_error {e : ResolveError}
    (h : s.tree.realPath true file = .error e) :
    outcome (requestAux host shared file) s = (.error (unresolved file e), s) := by
  rw [requestAux, outcome_bind, outcome_realAux_of_error h]

/-- A file is asked for by its real path. -/
theorem outcome_requestAux_of_ok (h : s.tree.realPath true file = .ok real) :
    outcome (requestAux host shared file) s =
      ((outcome (Run.request (auxBuild host shared (auxKeyPath s.tree real))) s).1.map (·.getD []),
        (outcome (Run.request (auxBuild host shared (auxKeyPath s.tree real))) s).2) := by
  have hreal : outcome (realAux file) s = (.ok real, s) := by
    rw [realAux, outcome_bind_of_ok (Run.outcome_tree s), h]
    rfl
  rw [requestAux, outcome_bind_of_ok hreal, outcome_bind_of_ok (Run.outcome_tree s), outcome_bind]
  generalize outcome (Run.request _) s = result
  obtain ⟨_ | _, s'⟩ := result <;> rfl

/-- A test that needs a file asks for it, and reports a failure as that of the file. -/
theorem outcome_buildAux_eq (host : Host) (shared : Config) (dir : Path) (aux : Spanned Path)
    (s : Session) : outcome (buildAux host shared dir aux) s =
      ((outcome (requestAux host shared (resolveAux aux.content dir)) s).1.mapError
          (Fault.ofAux (resolveAux aux.content dir) aux.line),
        (outcome (requestAux host shared (resolveAux aux.content dir)) s).2) := by
  rw [buildAux, outcome_bind_of_ok (Run.outcome_attempt _ s)]
  generalize outcome (requestAux host shared _) s = result
  obtain ⟨f | _, s'⟩ := result
  · cases f <;> rfl
  · rfl

theorem claim_of_slot?_none {b : Builds} {key : BuildKey} (h : b.slot? key = none) :
    ∃ n b', b.claim key = (n, true, b') := by
  unfold Builds.slot? at h
  exact ⟨b.promises.length, _, by rw [Builds.claim, h]⟩

theorem outcome_auxBuild (host : Host) (shared : Config) (file : Path) (s : Session) :
    (outcome (auxBuild host shared file).run s).1 =
      (outcome (buildAuxFile host shared file) s).1.map some := by
  have hrun : (auxBuild host shared file).run =
      (do return some (← buildAuxFile host shared file)) := rfl
  rw [hrun, outcome_bind]
  rcases outcome (buildAuxFile host shared file) s with ⟨_ | _, s'⟩ <;> rfl

/-- Asking for the build of a file ends as it should. -/
theorem RequestEnds.outcome_eq {o : Except Fault (List String)}
    (h : RequestEnds host shared s file o) : (outcome (requestAux host shared file) s).1 = o := by
  cases h with
  | missing h hnull => rw [outcome_requestAux_of_error h, unresolved, if_neg hnull]
  | zeroByte h hnull => rw [outcome_requestAux_of_error h, unresolved, if_pos hnull]
  | loop h => rw [outcome_requestAux_of_error h, unresolved]
  | again h hslot hp =>
    obtain ⟨-, hended⟩ := Run.outcome_request_old hslot
    rw [hp] at hended
    rw [outcome_requestAux_of_ok h]
    generalize outcome (Run.request _) s = result at hended ⊢
    obtain ⟨f | _ | args, s'⟩ := result
    · exact Option.some.inj hended
    · cases hended
    · exact Option.some.inj hended
  | @first real _ h hslot hends =>
    obtain ⟨n, b', hclaim⟩ := claim_of_slot?_none hslot
    obtain ⟨⟨u, htree, -, hresult, -⟩, -⟩ :=
      Run.outcome_request_new (leaves_builds_auxBuild host shared _) hclaim
    have hends : BuildEnds host shared u.tree (auxKeyPath s.tree real) o := by
      rw [htree]
      exact hends
    rw [outcome_requestAux_of_ok h, hresult, outcome_auxBuild, hends.outcome_eq]
    cases o <;> rfl

/-- There is no other way in which asking for the build of a file ends, if none is still going on.
-/
theorem exists_requestEnds (hsettled : s.builds.AllSettled) (host : Host) (shared : Config)
    (file : Path) : ∃ o, RequestEnds host shared s file o := by
  cases hreal : s.tree.realPath true file with
  | error e =>
    cases e with
    | loop shown => exact ⟨_, .loop hreal⟩
    | file e =>
      by_cases hnull : e.problem = .hasNull
      · exact ⟨_, .zeroByte hreal hnull⟩
      · exact ⟨_, .missing hreal hnull⟩
  | ok real =>
    cases hslot : s.builds.slot? (auxBuild host shared (auxKeyPath s.tree real)).key with
    | some n =>
      obtain ⟨o, hp⟩ := hsettled _ n hslot
      exact ⟨_, .again hreal hslot hp⟩
    | none =>
      obtain ⟨o, hends⟩ := exists_buildEnds host shared s.tree (auxKeyPath s.tree real)
      exact ⟨o, .first hreal hslot hends⟩

/-! ## No build is left unsettled -/

theorem allSettled_settle {b b' : Builds} {key : BuildKey} {n : Nat} (hb : b.AllSettled)
    (hclaim : b.claim key = (n, true, b')) (o : BuildOutcome) : (b'.settle n o).AllSettled := by
  obtain ⟨-, hn, -⟩ := Builds.claim_new hclaim
  intro other m hslot
  have hslot : b'.slot? other = some m := hslot
  rw [Builds.slot?_of_claim_new hclaim] at hslot
  rw [Builds.promise?_settle, Builds.promise?_of_claim_new hclaim]
  by_cases hkey : other = key
  · rw [if_pos hkey] at hslot
    cases hslot
    exact ⟨o, by simp⟩
  · rw [if_neg hkey] at hslot
    obtain ⟨o', hp⟩ := hb other m hslot
    -- the promise of another key is older than the new one
    have hlt := Builds.lt_length_of_promise? hp
    exact ⟨o', by rw [if_neg (by omega), if_neg (by omega), hp]⟩

/-- Asking for the build of a file leaves no build unsettled. -/
theorem allSettled_requestAux (hsettled : s.builds.AllSettled) (host : Host) (shared : Config)
    (file : Path) : (outcome (requestAux host shared file) s).2.builds.AllSettled := by
  cases hreal : s.tree.realPath true file with
  | error e =>
    rw [outcome_requestAux_of_error hreal]
    exact hsettled
  | ok real =>
    rw [outcome_requestAux_of_ok hreal]
    cases hslot : s.builds.slot? (auxBuild host shared (auxKeyPath s.tree real)).key with
    | some n =>
      rw [(Run.outcome_request_old hslot).1]
      exact hsettled
    | none =>
      obtain ⟨n, b', hclaim⟩ := claim_of_slot?_none hslot
      obtain ⟨⟨u, -, -, hresult, -⟩, hbuilds⟩ :=
        Run.outcome_request_new (leaves_builds_auxBuild host shared _) hclaim
      have hended : ∃ o, Run.ended? (outcome (Run.request
          (auxBuild host shared (auxKeyPath s.tree real))) s).1 = some o := by
        rw [hresult, outcome_auxBuild]
        cases (outcome (buildAuxFile host shared (auxKeyPath s.tree real)) u).1 with
        | error f => exact ⟨.error f, rfl⟩
        | ok args => exact ⟨.ok args, rfl⟩
      obtain ⟨o, hended⟩ := hended
      rw [hended] at hbuilds
      show (outcome (Run.request _) s).2.builds.AllSettled
      rw [hbuilds]
      exact allSettled_settle hsettled hclaim o

/-! ## Reports about files -/

/-- Whether a test gets the arguments of the build of a file, or fails with a report that names the
file and the line, and holds what was wrong with the build. The rest of the report is that of the
build. -/
inductive Reported (host : Host) (shared : Config) (s : Session) (file : Path)
    (line : Option Number) : Except Fault (List String) → Prop where
  /-- The test gets the arguments. -/
  | args {args : List String} (h : RequestEnds host shared s file (.ok args)) :
    Reported host shared s file line (.ok args)
  /-- The test fails. -/
  | failure {f : Failure} (h : RequestEnds host shared s file (.error (.failed f))) :
    Reported host shared s file line
      (.error (.failed { f with errors := [.auxiliary file f.errors line] }))

/-- Whether asking for the build of a file ends with a fault that fails no test. -/
def Escapes (host : Host) (shared : Config) (s : Session) (file : Path) (f : Fault) : Prop :=
  RequestEnds host shared s file (.error f) ∧ ∀ g, f ≠ .failed g

/-- How a test ends that needs a file, and what it leaves behind. -/
structure Accounted (host : Host) (shared : Config) (dir : Path) (aux : Spanned Path)
    (s : Session) : Prop where
  /-- Asking for the build ends in exactly one of the ways that there are. -/
  ends : ∃! o, RequestEnds host shared s (resolveAux aux.content dir) o
  /-- The test gets the arguments or the report iff no fault comes up that fails no test. -/
  reported_iff : Reported host shared s (resolveAux aux.content dir) aux.line
      (outcome (buildAux host shared dir aux) s).1 ↔
    ¬ ∃ f, Escapes host shared s (resolveAux aux.content dir) f
  /-- Such a fault ends the test as it is. -/
  escaped (f : Fault) : Escapes host shared s (resolveAux aux.content dir) f →
    (outcome (buildAux host shared dir aux) s).1 = .error f
  /-- No build is left unsettled, so that this holds for the next file, too. -/
  settled : (outcome (buildAux host shared dir aux) s).2.builds.AllSettled

/-- **Files that tests need.** When no build is going on, a test that needs a file gets the
arguments of its build or a report about the file, unless a fault comes up that fails no test: a
zero byte in the name, a circle of links, an output directory that cannot be found or made, a
command that cannot be handed to any program, an unusable template, or one of the last four in the
same build before. -/
theorem buildAux_reported (host : Host) (shared : Config) (dir : Path) (aux : Spanned Path)
    (hsettled : s.builds.AllSettled) : Accounted host shared dir aux s := by
  obtain ⟨o, hends⟩ := exists_requestEnds hsettled host shared (resolveAux aux.content dir)
  have hresult : (outcome (buildAux host shared dir aux) s).1 =
      o.mapError (Fault.ofAux (resolveAux aux.content dir) aux.line) := by
    rw [outcome_buildAux_eq, hends.outcome_eq]
  have hunique : ∀ o', RequestEnds host shared s (resolveAux aux.content dir) o' → o' = o :=
    fun o' h => h.outcome_eq.symm.trans hends.outcome_eq
  refine ⟨⟨o, hends, hunique⟩, ?_, ?_, ?_⟩
  · rw [hresult]
    constructor
    · rintro hreported ⟨f, hescapes, hf⟩
      obtain rfl := hunique _ hescapes
      -- a fault that fails no test is no report
      have hsame : (Except.error f : Except Fault (List String)).mapError
          (Fault.ofAux (resolveAux aux.content dir) aux.line) = .error f :=
        congrArg Except.error (Fault.ofAux_of_ne_failed hf)
      rw [hsame] at hreported
      cases hreported with
      | failure => exact hf _ rfl
    · intro hnone
      cases o with
      | ok args => exact .args hends
      | error f =>
        cases f with
        | failed g => exact .failure hends
        | _ => exact absurd ⟨_, hends, fun _ => Fault.noConfusion⟩ hnone
  · rintro f ⟨hescapes, hf⟩
    obtain rfl := hunique _ hescapes
    rw [hresult]
    exact congrArg Except.error (Fault.ofAux_of_ne_failed hf)
  · rw [outcome_buildAux_eq]
    exact allSettled_requestAux hsettled host shared _

end Request

/-! ## A missing file and a circle of links -/

/-- A tree with a link that leads to itself. -/
def circleTree : FileTree where
  entries := [(["ui"], .directory), (["ui", "auxiliary"], .directory),
    (["ui", "auxiliary", "a.rs"], .link "a.rs")]
  workingPlace := []

/-- A host that refuses all programs. -/
def noHost : Host := ⟨fun _ command => .error ⟨.notFound, Text.quote command.program⟩⟩

/-- A configuration for tests that need files. -/
def circleConfig : Config where
  program := { program := "rustc" }
  rootDir := .ofText "ui"
  outDir := .ofText "out"

theorem missing_reported :
    ({ tree := circleTree } : Session).builds.AllSettled ∧
      Accounted noHost circleConfig (.ofText "ui/auxiliary") ⟨.ofText "b.rs", ⟨none, some (.int 3)⟩⟩
        { tree := circleTree } ∧
      (outcome (buildAux noHost circleConfig (.ofText "ui/auxiliary")
          ⟨.ofText "b.rs", ⟨none, some (.int 3)⟩⟩) { tree := circleTree }).1 =
        .error (.failed
          { command := { program := "canonicalizing path \x60ui/auxiliary/b.rs\x60" }
            errors := [.auxiliary (.ofText "ui/auxiliary/b.rs") [] (some (.int 3))]
            stderr := Bytes.ofText
              "[Errno 2] No such file or directory: 'ui/auxiliary/b.rs'" }) := by
  have hsettled : ({ tree := circleTree } : Session).builds.AllSettled := fun _ _ h => nomatch h
  refine ⟨hsettled, buildAux_reported _ _ _ _ hsettled, ?_⟩
  have hreal : circleTree.realPath true (resolveAux (.ofText "b.rs") (.ofText "ui/auxiliary")) =
      .error (.file ⟨.notFound, "'ui/auxiliary/b.rs'"⟩) := by decide +kernel
  rw [outcome_buildAux_eq, outcome_requestAux_of_error (s := { tree := circleTree }) hreal]
  rfl

/-- There is a file whose failure is not reported: a link that leads to itself. -/
theorem circle_not_reported :
    ¬ ∀ (host : Host) (shared : Config) (dir : Path) (aux : Spanned Path) (s : Session),
      s.builds.AllSettled → Reported host shared s (resolveAux aux.content dir) aux.line
        (outcome (buildAux host shared dir aux) s).1 := by
  intro h
  have hreported := h noHost circleConfig (.ofText "ui/auxiliary")
    ⟨.ofText "a.rs", ⟨none, some (.int 3)⟩⟩ { tree := circleTree } fun _ _ h => nomatch h
  have hreal : circleTree.realPath true (resolveAux (.ofText "a.rs") (.ofText "ui/auxiliary")) =
      .error (.loop "'ui/auxiliary/a.rs'") := by decide +kernel
  rw [outcome_buildAux_eq, outcome_requestAux_of_error (s := { tree := circleTree }) hreal]
    at hreported
  cases hreported

end Case

end CompilerTest

import CompilerTest.Cli.Run
import CompilerTest.Proofs.FileTree.Routes
import CompilerTest.Proofs.Outcome
import CompilerTest.Proofs.Paths

/-!
# The report of the program

The program either refuses its input, and then it has run and changed nothing, or it tries the test
under all selected revisions. A trial starts in the session that the one before it has left, whether
that one has passed or failed, and the output, the error output and the exit status are those of the
list of all trials.

Main statement: `run_reported`. The test file is looked for last, and there is one way in which this
goes wrong: a name or a path that is longer than the system allows is a fault and no error of the
input (`longName_not_refused`).
-/

namespace CompilerTest

/-! ## Files that are there -/

namespace FileTree

variable {t : FileTree} {p : Path} {follow : Bool} {problem : FileProblem}

/-- There is a regular file at a path. -/
def HasFile (t : FileTree) (p : Path) : Prop :=
  ∃ place entry, t.find true p.text = .ok (place, entry) ∧ isRegular entry = true

/-- A name on the way to a path, or the path as a whole, is longer than the system allows
(`nameTooLong_of_lt`, `nameTooLong_of_isTooLong`). -/
def NameTooLong (t : FileTree) (p : Path) : Prop := t.find true p.text = .error .nameTooLong

/-- Names that cannot be followed lead nowhere, or one of them is too long. -/
theorem isAbsence_of_walkNames {place : Place} {names : List String}
    (h : t.walkNames follow place names = .error problem) :
    isAbsence problem = true ∨ problem = .nameTooLong := by
  fun_induction walkNames t follow place names
  case case1 | case5 | case6 | case7 => cases h
  case case2 | case8 | case10 => cases h; exact .inl rfl
  case case3 ih | case9 ih => exact ih h
  case case4 => cases h; exact .inr rfl

theorem isAbsence_of_walk {links : Nat} {place : Place} {names : List String}
    (h : t.walk follow links place names = .error problem) :
    isAbsence problem = true ∨ problem = .nameTooLong := by
  induction links generalizing place names with
  | zero =>
    rw [walk] at h
    rcases bind_error_iff.1 h with h | ⟨walked, -, h⟩
    · exact isAbsence_of_walkNames h
    · cases walked with
      | arrived => cases h
      | met => cases h; exact .inl rfl
  | succ links ih =>
    rw [walk] at h
    rcases bind_error_iff.1 h with h | ⟨walked, -, h⟩
    · exact isAbsence_of_walkNames h
    · cases walked with
      | arrived => cases h
      | met => exact ih h

/-- What is not found is not there, or it has a name that is too long. -/
theorem isAbsence_of_find {text : String} (h : t.find follow text = .error problem) :
    isAbsence problem = true ∨ problem = .nameTooLong := by
  cases hlocate : t.locate follow text with
  | ok place =>
    rw [find_eq_of_locate hlocate] at h
    split at h
    · cases h
    · cases h; exact .inl rfl
  | error problem' =>
    rw [find_eq_of_locate_error hlocate] at h
    cases h
    rw [locate, trace] at hlocate
    split_ifs at hlocate
    · cases hlocate; exact .inr rfl
    · cases hlocate; exact .inl rfl
    · cases hlocate; exact .inl rfl
    · exact isAbsence_of_walk hlocate

/-- A path of more bytes than the system allows is not looked up at all. -/
theorem nameTooLong_of_isTooLong (h : isTooLong p.text = true) : t.NameTooLong p :=
  find_eq_of_locate_error (if_pos h)

/-- A name of more bytes than the system allows is not looked up in the working directory. -/
theorem nameTooLong_of_lt {name : String} (hpart : Path.IsPart name) (hnull : '\x00' ∉ name.toList)
    (hlong : nameLimit < (Bytes.ofText name).length)
    (hworking : t.at? t.workingPlace = some .directory) : t.NameTooLong ⟨.relative, [name]⟩ := by
  have htext : Path.text ⟨.relative, [name]⟩ = name := by simp [Path.text, Root.text]
  have hnames : namesOf name = [name] := by
    simpa using Path.namesOf_intercalate (List.cons_ne_nil name []) (by simpa using hpart)
  have hne : name ≠ "" := by
    rintro rfl
    exact absurd hpart.2 (by decide)
  have hparent : name ≠ ".." := by
    rintro rfl
    exact absurd hlong (by decide)
  have hstart : t.at? (startOf name t.workingPlace) = some .directory := by
    unfold startOf
    split
    · rfl
    · exact hworking
  have hwalk : t.walkNames true (startOf name t.workingPlace) [name] = .error .nameTooLong := by
    simp [walkNames, hstart, hparent, hlong]
  have htrace : t.trace true name = .error .nameTooLong := by
    rw [trace, if_neg (by simpa using hnull), if_neg hne, hnames, linkLimit, walk, hwalk]
    rfl
  rw [NameTooLong, htext]
  refine find_eq_of_locate_error ?_
  rw [locate, htrace, ite_self]

theorem HasFile.isFile? (h : t.HasFile p) : t.isFile? p = .ok true := by
  obtain ⟨place, entry, hfind, hregular⟩ := h
  simp [FileTree.isFile?, entry?, hfind, hregular, bind, Except.bind, pure, Except.pure]

theorem NameTooLong.isFile? (h : t.NameTooLong p) :
    t.isFile? p = .error ⟨.nameTooLong, Text.quote p.text⟩ := by
  rw [NameTooLong] at h
  simp [FileTree.isFile?, entry?, h, isAbsence, bind, Except.bind]

theorem NameTooLong.not_hasFile (h : t.NameTooLong p) : ¬ t.HasFile p := by
  rintro ⟨place, entry, hfind, -⟩
  rw [NameTooLong, hfind] at h
  cases h

theorem isFile?_of_not_hasFile (hfile : ¬ t.HasFile p) (hname : ¬ t.NameTooLong p) :
    t.isFile? p = .ok false := by
  cases h : t.find true p.text with
  | ok found =>
    obtain ⟨place, entry⟩ := found
    have hregular : isRegular entry = false := by
      by_contra hregular
      exact hfile ⟨place, entry, h, by simpa using hregular⟩
    simp [FileTree.isFile?, entry?, h, hregular, bind, Except.bind, pure, Except.pure]
  | error problem =>
    rcases isAbsence_of_find h with habsence | rfl
    · simp [FileTree.isFile?, entry?, h, habsence, bind, Except.bind, pure, Except.pure]
    · exact absurd h hname

end FileTree

namespace Cli

/-! ## Lines -/

/-- Lines, each with its end. -/
def written (lines : List String) : String := String.join (lines.map (· ++ "\n"))

@[simp] theorem written_nil : written [] = "" := String.join_nil

theorem written_cons (line : String) (lines : List String) :
    written (line :: lines) = line ++ "\n" ++ written lines := String.join_cons

theorem written_append (lines others : List String) :
    written (lines ++ others) = written lines ++ written others := by
  rw [written, List.map_append, String.join_append]
  rfl

/-- The lines of those records that are important enough to be shown. -/
def logLines (severity : Severity) (records : List LogRecord) : List String :=
  (records.filter fun record => severity.rank ≤ record.severity.rank).map LogRecord.line

namespace Report

theorem foldl_complain {α : Type} (line : α → String) (l : List α) (r : Report) :
    l.foldl (fun r a => r.complain (line a)) r =
      { r with stderr := r.stderr ++ written (l.map line) } := by
  induction l generalizing r with
  | nil => simp
  | cons a l ih =>
    rw [List.foldl_cons, ih, List.map_cons, written_cons]
    simp only [complain, String.append_assoc]

/-- Going on with a later session shows what is new in its log. -/
theorem advance_eq (r : Report) (severity : Severity) (session : Session) :
    r.advance severity session =
      { session, stdout := r.stdout
        stderr := r.stderr ++
          written (logLines severity (session.log.drop r.session.log.length)) } := by
  rw [advance, foldl_complain]
  rfl

theorem step_eq {α : Type} (r : Report) (severity : Severity) (x : Run α) :
    r.step severity x =
      ((outcome x r.session).1, r.advance severity (outcome x r.session).2) := rfl

end Report

/-! ## Trials -/

/-- The test under one revision, with the sessions before and after it. -/
structure Trial where
  /-- The revision. -/
  revision : String
  /-- The session that it starts in. -/
  before : Session
  /-- How it ends. -/
  result : Except Fault Case.Passed
  /-- The session that it leaves behind. -/
  after : Session

namespace Trial

/-- The test has passed. -/
def passed (trial : Trial) : Bool :=
  match trial.result with
  | .ok _ => true
  | .error _ => false

/-- The failure of the test, if it has failed. -/
def failure? (trial : Trial) : Option Failure :=
  match trial.result with
  | .error (.failed failure) => some failure
  | _ => none

/-- The test has passed or failed; it has not ended with another fault. -/
def Ends (trial : Trial) : Prop :=
  (∃ passed, trial.result = .ok passed) ∨ ∃ failure, trial.result = .error (.failed failure)

theorem ends_of {trial : Trial} (h : (trial.passed || trial.failure?.isSome) = true) :
    trial.Ends := by
  unfold Ends
  unfold passed failure? at h
  split at h
  · exact .inl ⟨_, ‹_›⟩
  · split at h
    · exact .inr ⟨_, ‹_›⟩
    · cases h

/-- What a trial adds to the output. -/
def outputLines (file : Path) (trial : Trial) : List String :=
  if trial.passed then [s!"ok {labelOf file trial.revision}"] else []

/-- What a trial adds to the error output: the records that are new in the log, and after them the
failure. -/
def errorLines (file : Path) (severity : Severity) (trial : Trial) : List String :=
  logLines severity (trial.after.log.drop trial.before.log.length) ++
    match trial.failure? with
    | some failure => [s!"FAILED {labelOf file trial.revision}", failure.render]
    | none => []

end Trial

/-- The trial of a revision that starts in session `s`. -/
def trial (run : String → Run Case.Passed) (revision : String) (s : Session) : Trial where
  revision := revision
  before := s
  result := (outcome (run revision) s).1
  after := (outcome (run revision) s).2

theorem trial_result (run : String → Run Case.Passed) (revision : String) (s : Session) :
    (trial run revision s).result = (outcome (run revision) s).1 := rfl

/-- Trials one after the other. Each starts in the session that the one before has left. -/
def trials (run : String → Run Case.Passed) : List String → Session → List Trial
  | [], _ => []
  | revision :: rest, s =>
    let first := trial run revision s
    first :: trials run rest first.after

/-- There is one trial for each revision, in order. -/
theorem map_revision_trials (run : String → Run Case.Passed) (revisions : List String)
    (s : Session) : (trials run revisions s).map Trial.revision = revisions := by
  induction revisions generalizing s with
  | nil => rfl
  | cons revision rest ih => exact congrArg (revision :: ·) (ih _)

theorem length_trials (run : String → Run Case.Passed) (revisions : List String) (s : Session) :
    (trials run revisions s).length = revisions.length := by
  rw [← List.length_map Trial.revision, map_revision_trials]

/-- The number of trials that have not passed. -/
def failures (ts : List Trial) : Nat := ts.countP (!·.passed)

theorem failures_cons_of_passed {first : Trial} {ts : List Trial} {passed : Case.Passed}
    (h : first.result = .ok passed) : failures (first :: ts) = failures ts := by
  simp [failures, Trial.passed, h]

theorem failures_cons_of_fault {first : Trial} {ts : List Trial} {fault : Fault}
    (h : first.result = .error fault) : failures (first :: ts) = failures ts + 1 := by
  simp [failures, Trial.passed, h]

/-- The session after trials that start in session `s`. -/
def lastSession (s : Session) (ts : List Trial) : Session :=
  (ts.getLast?.map Trial.after).getD s

theorem lastSession_cons (s : Session) (trial : Trial) (ts : List Trial) :
    lastSession s (trial :: ts) = lastSession trial.after ts := by
  rw [lastSession, List.getLast?_cons, lastSession]
  cases ts.getLast? <;> rfl

/-- A report with what trials add to it. -/
def Report.extend (r : Report) (o : Options) (ts : List Trial) : Report where
  session := lastSession r.session ts
  stdout := r.stdout ++ written (ts.flatMap (Trial.outputLines o.file))
  stderr := r.stderr ++ written (ts.flatMap (Trial.errorLines o.file o.severity))

theorem Report.extend_nil (r : Report) (o : Options) : r.extend o [] = r := by
  simp [extend, lastSession]

/-- Trials are added one after the other. -/
theorem Report.extend_cons (r : Report) (o : Options) (trial : Trial) (ts : List Trial) :
    r.extend o (trial :: ts) = (r.extend o [trial]).extend o ts := by
  simp only [extend, lastSession_cons, List.flatMap_cons, List.flatMap_nil, List.append_nil,
    written_append, String.append_assoc]
  rfl

/-- What a passed trial adds: the new records of the log, and a line on the output. -/
theorem Report.extend_of_passed {r : Report} {o : Options} {first : Trial}
    (hbefore : first.before = r.session) {passed : Case.Passed} (h : first.result = .ok passed) :
    r.extend o [first] =
      (r.advance o.severity first.after).print s!"ok {labelOf o.file first.revision}" := by
  simp [extend, lastSession, Trial.outputLines, Trial.errorLines, Trial.passed, Trial.failure?, h,
    hbefore, advance_eq, print, written_cons, String.append_assoc]

/-- What a failed trial adds: the new records of the log, and the failure. -/
theorem Report.extend_of_failed {r : Report} {o : Options} {first : Trial}
    (hbefore : first.before = r.session) {failure : Failure}
    (h : first.result = .error (.failed failure)) :
    r.extend o [first] =
      ((r.advance o.severity first.after).complain
        s!"FAILED {labelOf o.file first.revision}").complain failure.render := by
  simp [extend, lastSession, Trial.outputLines, Trial.errorLines, Trial.passed, Trial.failure?, h,
    hbefore, advance_eq, complain, written_cons, written_append, String.append_assoc]

section Revisions

variable (host : Host) (o : Options) (config : Config) (directives : Directives)

/-- The test under a revision. -/
def attempt (revision : String) : Run Case.Passed :=
  (caseFor o config directives revision).run host config

variable {host o config directives} {revision : String} {rest : List String} {r : Report}

theorem runRevisions_cons_of_passed {passed : Case.Passed}
    (h : (trial (attempt host o config directives) revision r.session).result = .ok passed) :
    runRevisions host o config directives (revision :: rest) r =
      runRevisions host o config directives rest
        (r.extend o [trial (attempt host o config directives) revision r.session]) := by
  rw [Report.extend_of_passed rfl h, runRevisions, Report.step_eq]
  rw [trial_result, attempt] at h
  rw [h]
  rfl

theorem runRevisions_cons_of_failed {failure : Failure}
    (h : (trial (attempt host o config directives) revision r.session).result =
      .error (.failed failure)) :
    runRevisions host o config directives (revision :: rest) r =
      (runRevisions host o config directives rest
        (r.extend o [trial (attempt host o config directives) revision r.session])).map
          fun (failed, r) => (failed + 1, r) := by
  rw [Report.extend_of_failed rfl h, runRevisions, Report.step_eq]
  rw [trial_result, attempt] at h
  rw [h]
  rfl

/-- **The program goes on after a failed revision**: it reports all trials and counts those that
have not passed. -/
theorem runRevisions_of_ends {revisions : List String}
    (h : ∀ trial ∈ trials (attempt host o config directives) revisions r.session, trial.Ends) :
    runRevisions host o config directives revisions r =
      .ok (failures (trials (attempt host o config directives) revisions r.session),
        r.extend o (trials (attempt host o config directives) revisions r.session)) := by
  -- the report that a trial leaves is the one in which the rest of the loop starts
  induction revisions generalizing r with
  | nil =>
    rw [trials, Report.extend_nil]
    rfl
  | cons revision rest ih =>
    obtain ⟨hfirst, hrest⟩ := List.forall_mem_cons.1 h
    rw [trials, Report.extend_cons]
    rcases hfirst with ⟨passed, hpassed⟩ | ⟨failure, hfailed⟩
    · rw [runRevisions_cons_of_passed hpassed, ih hrest, failures_cons_of_passed hpassed]
      rfl
    · rw [runRevisions_cons_of_failed hfailed, ih hrest, failures_cons_of_fault hfailed]
      rfl

end Revisions

/-! ## Input -/

/-- The record of a configuration that has been read. -/
def loadedRecord (config : Config) : LogRecord :=
  ⟨.debug, "config", "loaded config for program " ++ config.program.program⟩

/-- Both documents are read, or refused as documents. The document of directives does not matter if
the configuration is refused. -/
def Loads (o : Options) (t : FileTree) : Prop :=
  (∃ e, Config.load t o.config = .error (.config e)) ∨
    (∃ config, Config.load t o.config = .ok config) ∧
      ((∃ e, Directives.load t o.annotations o.file = .error (.directives e)) ∨
        ∃ directives, Directives.load t o.annotations o.file = .ok directives)

/-- The documents or the requested revisions are refused, with a message, after some records of the
log. -/
inductive Rejected (o : Options) (t : FileTree) : List LogRecord → String → Prop where
  /-- There is no configuration. -/
  | config {e : ConfigError} (h : Config.load t o.config = .error (.config e)) :
    Rejected o t [] e.message
  /-- There are no directives. -/
  | directives {config : Config} {e : DirectivesError}
    (hconfig : Config.load t o.config = .ok config)
    (h : Directives.load t o.annotations o.file = .error (.directives e)) :
    Rejected o t [loadedRecord config] e.message
  /-- A requested revision is not declared. -/
  | revisions {config : Config} {directives : Directives} {revision : String}
    (hconfig : Config.load t o.config = .ok config)
    (hdirectives : Directives.load t o.annotations o.file = .ok directives)
    (hrequested : revision ∈ o.revisions) (h : revision ∉ directives.revisions) :
    Rejected o t [loadedRecord config] ("unknown revision(s): " ++
      String.intercalate ", " (o.revisions.filter (!directives.revisions.contains ·)))

/-- The documents are read, and the requested revisions are declared. -/
structure Ready (o : Options) (t : FileTree) (config : Config) (directives : Directives) :
    Prop where
  config_eq : Config.load t o.config = .ok config
  directives_eq : Directives.load t o.annotations o.file = .ok directives
  declared : ∀ revision ∈ o.revisions, revision ∈ directives.revisions

/-- The revisions to run: the requested ones, or else the declared ones, or else the nameless
one. -/
def selected (declared requested : List String) : List String :=
  if requested = [] then if declared = [] then [""] else declared else requested

/-- The session in which the first trial starts. -/
def startOf (config : Config) (t : FileTree) : Session where
  tree := t
  log := [loadedRecord config]

/-- The end of the program that refuses its input: status two, nothing run, no file changed, and
the message on the error output. -/
def refusal (o : Options) (t : FileTree) (log : List LogRecord) (message : String) : Ended where
  status := 2
  report :=
    { session := { tree := t, log }
      stderr := written (logLines o.severity log ++ [s!"{programName}: error: {message}"]) }

/-- The line about trials that have failed, if there are any. -/
def summaryLines (ts : List Trial) : List String :=
  if failures ts = 0 then []
  else [s!"{programName}: {failures ts} of {ts.length} revision(s) failed"]

/-- The end of the program after trials that start in session `s`. -/
def conclusion (o : Options) (s : Session) (ts : List Trial) : Ended where
  status := if failures ts = 0 then 0 else 1
  report :=
    { session := lastSession s ts
      stdout := written (ts.flatMap (Trial.outputLines o.file))
      stderr := written (logLines o.severity s.log ++
        ts.flatMap (Trial.errorLines o.file o.severity) ++ summaryLines ts) }

/-- How the program ends. -/
structure Reported (o : Options) (t : FileTree) : Prop where
  /-- Either the documents or the requested revisions are refused, or there is something to run. -/
  rejected_or_ready : (∃ log message, Rejected o t log message) ∨
    ∃ config directives, Ready o t config directives
  /-- What is refused ends the program, whatever programs do. -/
  rejected {log : List LogRecord} {message : String} (h : Rejected o t log message) (host : Host) :
    Cli.run host o t = .ok (refusal o t log message)
  /-- So does a missing test file. -/
  missing {config : Config} {directives : Directives} (h : Ready o t config directives)
    (hfile : ¬ t.HasFile o.file) (hname : ¬ t.NameTooLong o.file) (host : Host) :
    Cli.run host o t =
      .ok (refusal o t [loadedRecord config] s!"test file does not exist: {o.file.text}")
  /-- A test file with a name or a path that is too long is a fault. -/
  tooLong {config : Config} {directives : Directives} (h : Ready o t config directives)
    (hname : t.NameTooLong o.file) (host : Host) :
    Cli.run host o t = .error (.file ⟨.nameTooLong, Text.quote o.file.text⟩)
  /-- Otherwise there is a trial of each selected revision, in order. If each of them passes or
  fails, then the program ends with the report of all of them. -/
  tried {config : Config} {directives : Directives} (h : Ready o t config directives)
    (hfile : t.HasFile o.file) (host : Host) :
    let ts := trials (attempt host o (configFor o config) directives)
      (selected directives.revisions o.revisions) (startOf config t)
    ts.map Trial.revision = selected directives.revisions o.revisions ∧
      ((∀ trial ∈ ts, trial.Ends) → Cli.run host o t = .ok (conclusion o (startOf config t) ts))

section Input

variable {o : Options} {t : FileTree} {config : Config} {directives : Directives}

theorem outcome_loadConfig (h : Config.load t o.config = .ok config) :
    outcome (loadConfig o) { tree := t } = (.ok config, startOf config t) := by
  rw [loadConfig, outcome_bind_of_ok (Run.outcome_tree _), h]
  rfl

theorem selectRevisions_of_declared {declared requested : List String}
    (h : ∀ revision ∈ requested, revision ∈ declared) :
    Directives.selectRevisions declared requested = .ok (selected declared requested) := by
  have hunknown : requested.filter (!declared.contains ·) = [] := by
    rw [List.filter_eq_nil_iff]
    intro revision hrevision
    simpa using h revision hrevision
  simp only [Directives.selectRevisions, selected, List.isEmpty_iff, hunknown, if_true]
  split_ifs <;> rfl

theorem selectRevisions_of_undeclared {declared requested : List String} {revision : String}
    (hrequested : revision ∈ requested) (h : revision ∉ declared) :
    Directives.selectRevisions declared requested =
      .error (.unknownRevisions (requested.filter (!declared.contains ·))) := by
  have hunknown : requested.filter (!declared.contains ·) ≠ [] :=
    List.ne_nil_of_mem (List.mem_filter.2 ⟨hrequested, by simpa using h⟩)
  simp only [Directives.selectRevisions, List.isEmpty_iff, List.ne_nil_of_mem hrequested, hunknown,
    if_false]

theorem Ready.outcome_loadInput (h : Ready o t config directives) :
    outcome (loadInput o) { tree := t } =
      (.ok ⟨config, directives, selected directives.revisions o.revisions⟩, startOf config t) := by
  rw [loadInput, outcome_bind_of_ok (outcome_loadConfig h.config_eq),
    outcome_bind_of_ok (Run.outcome_tree _), startOf, h.directives_eq,
    outcome_bind_of_ok (Run.outcome_lift_ok _ _), selectRevisions_of_declared h.declared]
  rfl

theorem Rejected.outcome_loadInput {log : List LogRecord} {message : String}
    (h : Rejected o t log message) : ∃ fault, inputError? fault = some message ∧
      outcome (loadInput o) { tree := t } = (.error fault, { tree := t, log }) := by
  cases h with
  | @config e h =>
    refine ⟨.config e, rfl, ?_⟩
    rw [loadInput, outcome_bind, loadConfig, outcome_bind_of_ok (Run.outcome_tree _), h]
    rfl
  | @directives config e hconfig h =>
    refine ⟨.directives e, rfl, ?_⟩
    rw [loadInput, outcome_bind_of_ok (outcome_loadConfig hconfig),
      outcome_bind_of_ok (Run.outcome_tree _), startOf, h]
    rfl
  | @revisions config directives _ hconfig hdirectives hrequested h =>
    refine ⟨.directives (.unknownRevisions _), rfl, ?_⟩
    rw [loadInput, outcome_bind_of_ok (outcome_loadConfig hconfig),
      outcome_bind_of_ok (Run.outcome_tree _), startOf, hdirectives,
      outcome_bind_of_ok (Run.outcome_lift_ok _ _), selectRevisions_of_undeclared hrequested h]
    rfl

/-- What is read is rejected or ready to be run. -/
theorem Loads.rejected_or_ready (loads : Loads o t) :
    (∃ log message, Rejected o t log message) ∨
      ∃ config directives, Ready o t config directives := by
  rcases loads with ⟨e, h⟩ | ⟨⟨config, hconfig⟩, ⟨e, h⟩ | ⟨directives, hdirectives⟩⟩
  · exact .inl ⟨_, _, .config h⟩
  · exact .inl ⟨_, _, .directives hconfig h⟩
  · by_cases hdeclared : ∀ revision ∈ o.revisions, revision ∈ directives.revisions
    · exact .inr ⟨config, directives, hconfig, hdirectives, hdeclared⟩
    · push Not at hdeclared
      obtain ⟨revision, hrequested, h⟩ := hdeclared
      exact .inl ⟨_, _, .revisions hconfig hdirectives hrequested h⟩

/-- The report when the documents have been looked at. -/
def opened (o : Options) (s : Session) : Report where
  session := s
  stderr := written (logLines o.severity s.log)

theorem step_loadInput {result : Except Fault Input} {s : Session}
    (h : outcome (loadInput o) { tree := t } = (result, s)) :
    Report.step { session := { tree := t } } o.severity (loadInput o) = (result, opened o s) := by
  rw [Report.step_eq, h, Report.advance_eq, opened]
  simp

theorem refusal_eq (o : Options) (t : FileTree) (log : List LogRecord) (message : String) :
    endWithInputError (opened o { tree := t, log }) message = refusal o t log message := by
  simp [endWithInputError, refusal, Report.complain, opened, written_append, written_cons,
    String.append_assoc]

/-- The program that is ready goes on with what it works on. -/
theorem Ready.run_eq (h : Ready o t config directives) (host : Host) :
    Cli.run host o t =
      runInput host o ⟨config, directives, selected directives.revisions o.revisions⟩
        (opened o (startOf config t)) := by
  unfold Cli.run
  dsimp only
  rw [step_loadInput h.outcome_loadInput]

/-- A name that is too long ends the program with a fault. -/
theorem Ready.run_eq_of_nameTooLong (h : Ready o t config directives) (hname : t.NameTooLong o.file)
    (host : Host) : Cli.run host o t = .error (.file ⟨.nameTooLong, Text.quote o.file.text⟩) := by
  rw [h.run_eq, runInput, opened, startOf, hname.isFile?]
  rfl

theorem Rejected.run_eq {log : List LogRecord} {message : String} (h : Rejected o t log message)
    (host : Host) : Cli.run host o t = .ok (refusal o t log message) := by
  obtain ⟨fault, hmessage, hload⟩ := h.outcome_loadInput
  unfold Cli.run
  dsimp only
  rw [step_loadInput hload]
  simp only [hmessage, refusal_eq]

theorem conclusion_eq (o : Options) (s : Session) (ts : List Trial) :
    (if failures ts = 0 then ⟨0, (opened o s).extend o ts⟩
      else ⟨1, ((opened o s).extend o ts).complain
        s!"{programName}: {failures ts} of {ts.length} revision(s) failed"⟩ : Ended) =
      conclusion o s ts := by
  rw [conclusion, summaryLines]
  split_ifs
  · simp [Report.extend, opened, written_append]
  · simp [Report.extend, Report.complain, opened, written_append, written_cons,
      String.append_assoc]

/-- The program runs the revisions once the test file is there. -/
theorem runInput_of_hasFile {r : Report} (h : r.session.tree.HasFile o.file) (host : Host)
    (input : Input) :
    runInput host o input r =
      (runRevisions host o (configFor o input.config) input.directives input.revisions r).map
        fun (failed, r) =>
          if failed = 0 then ⟨0, r⟩
          else ⟨1, r.complain
            s!"{programName}: {failed} of {input.revisions.length} revision(s) failed"⟩ := by
  rw [runInput, h.isFile?]
  change (runRevisions host o _ _ _ r >>= fun x => _) = _
  rcases runRevisions host o (configFor o input.config) input.directives input.revisions r with
    fault | ⟨failed, r'⟩
  · rfl
  · exact (apply_ite Except.ok (failed = 0) _ _).symm

end Input

/-- **The exit status and the report are exact**, for all documents that are read or refused. -/
theorem run_reported {o : Options} {t : FileTree} (loads : Loads o t) : Reported o t where
  rejected_or_ready := loads.rejected_or_ready
  rejected h host := h.run_eq host
  missing h hfile hname host := by
    rw [h.run_eq, runInput, opened, startOf, FileTree.isFile?_of_not_hasFile hfile hname]
    exact congrArg Except.ok (refusal_eq o t _ _)
  tooLong h hname host := h.run_eq_of_nameTooLong hname host
  tried {config directives} h hfile host := by
    refine ⟨map_revision_trials _ _ _, fun hends => ?_⟩
    have hrevisions := runRevisions_of_ends (r := opened o (startOf config t)) hends
    have hrun := runInput_of_hasFile (r := opened o (startOf config t)) hfile host
    rw [h.run_eq, hrun, hrevisions, ← conclusion_eq, length_trials]
    rfl

/-! ## A test with two revisions -/

/-- The files of the test. -/
def pairTree : FileTree where
  entries := [
    (["c.json"], .file (Bytes.ofText "\x7b\"program\":\x7b\"command\":\"cc\"\x7d\x7d") false),
    (["a.json"], .file (Bytes.ofText ("\x7b\"revisions\":[\"a\",\"b\"]," ++
      "\"directives\":[\x7b\"revisions\":[\"a\"],\"mode\":\"pass\"\x7d]\x7d")) false),
    (["t.rs"], .file [] false)]
  workingPlace := []

/-- The test is to be run under all revisions. -/
def pairOptions : Options where
  file := ⟨.relative, ["t.rs"]⟩
  config := ⟨.relative, ["c.json"]⟩
  annotations := ⟨.relative, ["a.json"]⟩
  revisions := []
  auxDir := none
  handling := none
  severity := .warning

/-- The configuration of the test. -/
def pairConfig : Config where
  program := { program := "cc" }
  rootDir := ⟨.single, []⟩
  outDir := ⟨.single, ["target", "ui"]⟩

/-- The directives that the document of the test stands for: the first of two revisions has to
compile. -/
def pairDirectives : Directives :=
  (Directives.load pairTree pairOptions.annotations pairOptions.file).toOption.getD default

/-- A host whose programs succeed without output. -/
def quietHost : Host where
  launch t _ := .ok (⟨0, [], []⟩, t)

theorem pair_ready : Ready pairOptions pairTree pairConfig pairDirectives where
  config_eq := eq_ok_of_toOption (by decide +kernel)
  directives_eq := by
    have h : (Directives.load pairTree pairOptions.annotations
        pairOptions.file).toOption.isSome := by decide +kernel
    obtain ⟨directives, h⟩ := exists_ok_of_toOption_isSome h
    rw [pairDirectives, h]
    rfl
  declared revision h := nomatch h

/-- The second revision fails, and the first one is reported all the same. -/
theorem pair_reported : Loads pairOptions pairTree ∧
    ∃ e, Cli.run quietHost pairOptions pairTree = .ok e ∧ e.status = 1 ∧
      e.report.stdout = "ok t.rs (a)\n" := by
  have loads : Loads pairOptions pairTree :=
    .inr ⟨⟨_, pair_ready.config_eq⟩, .inr ⟨_, pair_ready.directives_eq⟩⟩
  have hfile : pairTree.HasFile pairOptions.file :=
    ⟨["t.rs"], .file [] false, by decide +kernel, rfl⟩
  let ts := trials (attempt quietHost pairOptions (configFor pairOptions pairConfig) pairDirectives)
    (selected pairDirectives.revisions pairOptions.revisions) (startOf pairConfig pairTree)
  have hends : ∀ trial ∈ ts, trial.Ends := by
    have h : (ts.all fun trial => trial.passed || trial.failure?.isSome) = true := by decide +kernel
    exact fun trial htrial => Trial.ends_of (List.all_eq_true.1 h trial htrial)
  refine ⟨loads, _, ((run_reported loads).tried pair_ready hfile quietHost).2 hends, ?_, ?_⟩
  · decide +kernel
  · decide +kernel

/-! ## A test file with a long name -/

/-- A name of `n` letters. -/
def longName (n : Nat) : String := String.ofList (List.replicate n 't')

theorem nameTooLong_longName {t : FileTree} {n : Nat} (hn : FileTree.nameLimit < n)
    (h : t.at? t.workingPlace = some .directory) : t.NameTooLong ⟨.relative, [longName n]⟩ := by
  have hlist : (longName n).toList = List.replicate n 't' := String.toList_ofList
  have hne {name : String} (hname : name.length < n) : longName n ≠ name := by
    rintro rfl
    rw [longName, String.length_ofList, List.length_replicate] at hname
    exact absurd hname (Nat.lt_irrefl n)
  have htwo : 2 < n := Nat.lt_trans (by decide) hn
  have hpart : Path.IsPart (longName n) := by
    have hblank : longName n ≠ "" := hne (Nat.zero_lt_of_lt htwo)
    have hdot : longName n ≠ "." := hne (Nat.lt_of_succ_lt htwo)
    exact ⟨by simp [hlist], by simp [Path.isName, hblank, hdot]⟩
  refine FileTree.nameTooLong_of_lt hpart (by simp [hlist]) ?_ h
  have hlength : (Bytes.ofText (longName n)).length = n := by
    simp [Bytes.ofText, hlist, List.length_flatMap, show Char.utf8Size 't' = 1 by decide]
  rwa [hlength]

/-- There is a missing test file that is not refused as such. -/
theorem longName_not_refused :
    ¬ ∀ (host : Host) (o : Options) (t : FileTree), Loads o t → ¬ t.HasFile o.file →
      ∃ r, Cli.run host o t = .ok ⟨2, r⟩ := by
  intro h
  let o : Options := { pairOptions with file := ⟨.relative, [longName 256]⟩ }
  have hdirectives : (Directives.load pairTree o.annotations o.file).toOption.isSome := by
    decide +kernel
  obtain ⟨directives, hdirectives⟩ := exists_ok_of_toOption_isSome hdirectives
  have hready : Ready o pairTree pairConfig directives :=
    ⟨pair_ready.config_eq, hdirectives, fun _ h => nomatch h⟩
  have hname : pairTree.NameTooLong o.file := nameTooLong_longName (by decide) rfl
  obtain ⟨r, hr⟩ := h quietHost o pairTree
    (.inr ⟨⟨_, hready.config_eq⟩, .inr ⟨_, hdirectives⟩⟩) hname.not_hasFile
  rw [hready.run_eq_of_nameTooLong hname] at hr
  cases hr

end Cli

end CompilerTest

import CompilerTest.Proofs.Builds.Request
import Mathlib.Data.List.Chain

/-!
# Actions after the verification

Once a test has been verified, the custom flags of the sets that apply act one after the other. Each
is handed the command that the one before has handed on, together with the output of the compiler,
until one hands nothing on or ends the test with a fault.

Main statement: a test that is not verified ends with no action, and one that is verified runs a
chain of actions, from which its result follows (`run_postActions`).
-/

namespace CompilerTest

namespace Run

/-! ## Steps that leave the records of the flags alone -/

theorem leaves_handed_setTree (t : FileTree) : Leaves Session.handed (setTree t) := fun _ => rfl

theorem leaves_handed_log (severity : Severity) (source text : String) :
    Leaves Session.handed (log severity source text) := fun _ => rfl

theorem leaves_handed_modifyBuilds (f : Builds → Builds) :
    Leaves Session.handed (modifyBuilds f) := fun _ => rfl

theorem leaves_handed_command (host : Host) (c : Command) :
    Leaves Session.handed (command host c) :=
  part_command leaves_handed_setTree host c

theorem leaves_handed_request {what : Build} (hwhat : Leaves Session.handed what.run) :
    Leaves Session.handed (request what) := by
  unfold request
  refine Leaves.bind (fun _ => rfl) fun s => ?_
  rcases s.builds.claim what.key with ⟨n, isNew, b⟩
  refine (leaves_handed_modifyBuilds _).bind fun _ => ?_
  cases isNew with
  | true =>
    refine (leaves_handed_log _ _ _).bind fun _ => hwhat.attempt.bind fun result => ?_
    rcases result with f | _ | args
    · exact (leaves_handed_modifyBuilds _).bind fun _ => leaves_throw f
    · exact (leaves_handed_modifyBuilds _).bind fun _ =>
        (leaves_handed_modifyBuilds _).bind fun _ => leaves_pure none
    · exact (leaves_handed_modifyBuilds _).bind fun _ =>
        (leaves_handed_log _ _ _).bind fun _ => leaves_pure (some args)
  | false =>
    refine (leaves_handed_log _ _ _).bind fun _ => ?_
    rcases b.promise? n with _ | _ | _ | _
    case some.settled =>
      dsimp only
      exact (leaves_lift _).bind fun _ => leaves_pure _
    all_goals exact leaves_pure none

end Run

namespace Case

open Run (Leaves leaves_pure leaves_throw leaves_tree leaves_lift leaves_liftFile leaves_liftResolve
  leaves_liftFailure leaves_handed_setTree leaves_handed_log leaves_handed_command)

variable {host : Host} {shared : Config} {c : Case} {output : ProcessOutput}

/-! ## The verification leaves the records of the flags alone -/

theorem leaves_handed_buildAuxFile (host : Host) (shared : Config) (file : Path) :
    Leaves Session.handed (buildAuxFile host shared file) := by
  unfold buildAuxFile
  refine leaves_tree.bind fun t => (leaves_liftResolve _).bind fun outDir => ?_
  refine leaves_tree.bind fun t => (leaves_liftFile _).bind fun t => ?_
  refine (leaves_handed_setTree t).bind fun _ =>
    (leaves_handed_command host _).bind fun output => ?_
  split
  · exact (leaves_throw _).bind fun _ => leaves_lift _
  · exact leaves_lift _

theorem leaves_handed_realAux (file : Path) : Leaves Session.handed (realAux file) := by
  unfold realAux
  refine leaves_tree.bind fun t => ?_
  split
  · exact leaves_pure _
  · split
    · exact leaves_throw _
    · exact leaves_throw _
  · exact leaves_throw _

theorem leaves_handed_buildAux (host : Host) (shared : Config) (dir : Path) (aux : Spanned Path) :
    Leaves Session.handed (buildAux host shared dir aux) := by
  have hrequest (file : Path) : Leaves Session.handed (requestAux host shared file) := by
    unfold requestAux
    refine (leaves_handed_realAux file).bind fun real => leaves_tree.bind fun t => ?_
    refine (Run.leaves_handed_request ?_).bind fun args => leaves_pure _
    exact (leaves_handed_buildAuxFile host shared _).bind fun _ => leaves_pure _
  unfold buildAux
  refine (hrequest _).attempt.bind fun result => ?_
  split
  · exact leaves_pure _
  · exact leaves_throw _
  · exact leaves_throw _

theorem leaves_handed_buildCommand (host : Host) (shared : Config) (c : Case) :
    Leaves Session.handed (buildCommand host shared c) := by
  unfold buildCommand buildAuxFiles
  refine Leaves.bind ?_ fun _ => leaves_lift _
  exact (Leaves.mapM (leaves_handed_buildAux host shared c.auxDir) _).bind fun _ => leaves_pure _

theorem leaves_handed_withInput (c : Case) (command : Command) :
    Leaves Session.handed (c.withInput command) := by
  unfold withInput
  refine (leaves_lift _).bind fun stdin => leaves_tree.bind fun t => ?_
  refine (leaves_liftFile _).bind fun found => ?_
  split
  · exact leaves_pure _
  · exact leaves_pure _

theorem leaves_handed_bless (path : Path) (bytes : Bytes) :
    Leaves Session.handed (bless path bytes) := by
  unfold bless
  refine leaves_tree.bind fun t => (leaves_liftFile _).bind fun t => ?_
  refine (leaves_handed_setTree t).bind fun _ => ?_
  split
  · exact leaves_handed_log _ _ _
  · exact leaves_handed_log _ _ _

theorem leaves_handed_checkOutput (c : Case) (bytes : Bytes) (kind : String) :
    Leaves Session.handed (c.checkOutput bytes kind) := by
  unfold checkOutput
  refine (leaves_lift _).bind fun normalized => (leaves_lift _).bind fun path => ?_
  split
  · refine leaves_tree.bind fun t => (leaves_liftFile _).bind fun expected => ?_
    split
    · exact leaves_pure _
    · exact leaves_pure _
  · exact (leaves_handed_bless path normalized).bind fun _ => leaves_pure _
  · exact leaves_pure _

theorem leaves_handed_checkTestOutput (c : Case) (stdout stderr : Bytes) :
    Leaves Session.handed (c.checkTestOutput stdout stderr) :=
  (leaves_handed_checkOutput c stderr "stderr").bind fun _ =>
    (leaves_handed_checkOutput c stdout "stdout").bind fun _ => leaves_pure _

theorem leaves_handed_verify (c : Case) (command : Command) (output : ProcessOutput) :
    Leaves Session.handed (c.verify command output) := by
  unfold verify decodeDiagnostics
  refine (leaves_liftFailure _).bind fun mode => Leaves.bind ?decoded fun diagnostics => ?_
  case decoded =>
    refine leaves_tree.bind fun t => (leaves_lift _).bind fun decoding => ?_
    exact (Leaves.forM (leaves_handed_log .warning "diagnostics") _).bind fun _ => leaves_pure _
  refine (leaves_handed_checkTestOutput c _ _).bind fun errors => ?_
  refine (leaves_lift _).bind fun errors => ?_
  split
  · exact (leaves_throw _).bind fun _ => leaves_pure output
  · exact leaves_pure output

/-- A test that has been verified. -/
structure Verified where
  /-- The case with the output directory for its file. -/
  patched : Case
  /-- The command that was verified. -/
  command : Command
  /-- The output of the compiler. -/
  output : ProcessOutput

/-- Runs a test up to its verification. -/
def verified (host : Host) (shared : Config) (c : Case) : Run Verified := do
  let patched ← Run.liftResolve (c.patchOutDir (← Run.tree))
  Run.setTree (← Run.liftFile ((← Run.tree).ensureDirectory patched.config.outDir))
  let command ← patched.withInput (← buildCommand host shared patched)
  let output ← verify patched command (← Run.command host command)
  return { patched, command, output }

theorem run_eq (host : Host) (shared : Config) (c : Case) :
    run host shared c = verified host shared c >>= fun v =>
      actAll host v.patched v.output v.command v.patched.flags >>= fun command =>
        pure { command, output := v.output } := by
  simp only [run, verified, bind_assoc, pure_bind]

theorem leaves_handed_verified (host : Host) (shared : Config) (c : Case) :
    Leaves Session.handed (verified host shared c) := by
  unfold verified
  refine leaves_tree.bind fun t => (leaves_liftResolve _).bind fun c => ?_
  refine leaves_tree.bind fun t => (leaves_liftFile _).bind fun t => ?_
  refine (leaves_handed_setTree t).bind fun _ => ?_
  refine (leaves_handed_buildCommand host shared c).bind fun command => ?_
  refine (leaves_handed_withInput c command).bind fun command => ?_
  refine (leaves_handed_command host command).bind fun output => ?_
  exact (leaves_handed_verify c command output).bind fun _ => leaves_pure _

theorem flags_of_patchOutDir {t : FileTree} {patched : Case}
    (h : c.patchOutDir t = .ok patched) : patched.flags = c.flags := by
  unfold patchOutDir at h
  split at h
  · cases h
    rfl
  · obtain ⟨outDir, -, h⟩ := bind_ok_iff.1 h
    cases h
    rfl

/-- Only the configuration of a case changes before it is verified. -/
theorem flags_of_verified {v : Verified} {s u : Session}
    (h : outcome (verified host shared c) s = (.ok v, u)) : v.patched.flags = c.flags := by
  obtain ⟨tree, _, -, h⟩ := outcome_bind_ok_iff.1 h
  obtain ⟨patched, _, hpatched, h⟩ := outcome_bind_ok_iff.1 h
  obtain ⟨_, _, -, h⟩ := outcome_bind_ok_iff.1 h
  obtain ⟨_, _, -, h⟩ := outcome_bind_ok_iff.1 h
  obtain ⟨_, _, -, h⟩ := outcome_bind_ok_iff.1 h
  obtain ⟨_, _, -, h⟩ := outcome_bind_ok_iff.1 h
  obtain ⟨_, _, -, h⟩ := outcome_bind_ok_iff.1 h
  obtain ⟨_, _, -, h⟩ := outcome_bind_ok_iff.1 h
  obtain ⟨_, _, -, h⟩ := outcome_bind_ok_iff.1 h
  cases h
  exact flags_of_patchOutDir (Run.outcome_liftResolve_ok_iff.1 hpatched).1

/-! ## Chains of actions -/

/-- An action of a flag that has run. -/
structure PostAction where
  /-- The flag. -/
  flag : Flag
  /-- The command that it was handed. -/
  command : Command
  /-- The session that it started in. -/
  before : Session
  /-- How it ended: with the command that it hands on, with none, or with a fault. -/
  result : Except Fault (Option Command)
  /-- The session that it left behind. -/
  after : Session

namespace PostAction

/-- Whether an action is what its flag does with the command that it was handed and the output. -/
def Happens (host : Host) (c : Case) (output : ProcessOutput) (a : PostAction) : Prop :=
  outcome (act host c output a.command a.flag) a.before = (a.result, a.after)

/-- Whether an action is followed by another one, which is handed the command of the first. -/
def Precedes (a b : PostAction) : Prop := a.result = .ok (some b.command) ∧ a.after = b.before

/-- Whether an action hands a command on. -/
def HandsOn (a : PostAction) : Prop := ∃ command, a.result = .ok (some command)

/-- The last command that was handed on if no action follows: the one of this action, or the one
that it was handed if it has none. -/
def last (a : PostAction) : Except Fault Command := a.result.map (·.getD a.command)

/-- What an action records. -/
def records (output : ProcessOutput) (a : PostAction) : List FlagRecord :=
  match a.flag with
  | .observe key _ _ => [{ key, command := a.command, output }]
  | .args _ | .run _ => []

end PostAction

/-- Whether these are the actions of flags that start with a command in a session, and what comes of
them. -/
structure Chained (host : Host) (c : Case) (output : ProcessOutput) (flags : List Flag)
    (command : Command) (s : Session) (actions : List PostAction) (result : Except Fault Command)
    (t : Session) : Prop where
  /-- The flags act in their order, without a gap. -/
  inOrder : actions.map (·.flag) <+: flags
  /-- Each of them is handed the output. -/
  happens : ∀ a ∈ actions, a.Happens host c output
  first : ∀ a ∈ actions.head?, a.command = command ∧ a.before = s
  next : actions.IsChain PostAction.Precedes
  /-- The actions end early only with one that hands nothing on. -/
  complete : (∀ a ∈ actions.getLast?, a.HandsOn) → actions.map (·.flag) = flags
  result_eq : result = (actions.getLast?.map PostAction.last).getD (.ok command)
  session_eq : t = (actions.getLast?.map PostAction.after).getD s
  /-- No other flag has been handed anything. -/
  handed_eq : t.handed = s.handed ++ actions.flatMap (PostAction.records output)

theorem leaves_handed_runExecutable (host : Host) (c : Case) (exitCode : Int) :
    Leaves Session.handed (runExecutable host c exitCode) := by
  unfold runExecutable
  refine (leaves_handed_withInput _ _).bind fun command => ?_
  refine (leaves_handed_command host command).bind fun output => ?_
  refine (leaves_handed_checkTestOutput _ _ _).bind fun errors => ?_
  dsimp only
  split
  · exact (leaves_throw _).bind fun _ => leaves_handed_log _ _ _
  · exact leaves_handed_log _ _ _

theorem handed_of_happens {a : PostAction} (h : a.Happens host c output) :
    a.after.handed = a.before.handed ++ a.records output := by
  have hafter : a.after = (outcome (act host c output a.command a.flag) a.before).2 := by rw [h]
  rw [hafter, PostAction.records]
  cases a.flag with
  | args values => exact (List.append_nil _).symm
  | run exitCode =>
    rw [act, List.append_nil]
    exact (leaves_handed_runExecutable host c exitCode).bind (fun _ => leaves_pure _) _
  | observe key values decide =>
    rw [act, record, outcome_bind_of_ok (outcome_modify ..)]
    cases decide a.command output <;> rfl

/-- A first action that hands nothing on ends the chain. -/
theorem Chained.single {flag : Flag} {rest : List Flag} {command : Command} {s t : Session}
    {result : Except Fault (Option Command)}
    (h : outcome (act host c output command flag) s = (result, t))
    (hresult : ∀ next, result ≠ .ok (some next)) :
    Chained host c output (flag :: rest) command s [⟨flag, command, s, result, t⟩]
      (result.map (·.getD command)) t where
  inOrder := ⟨rest, rfl⟩
  happens := by
    rintro a (_ | ⟨_, ⟨⟩⟩)
    exact h
  first := by
    rintro a ⟨⟩
    exact ⟨rfl, rfl⟩
  next := .singleton _
  complete hlast := by
    obtain ⟨next, hnext⟩ := hlast _ rfl
    exact absurd hnext (hresult next)
  result_eq := rfl
  session_eq := rfl
  handed_eq := by
    rw [List.flatMap_singleton]
    exact handed_of_happens (a := ⟨flag, command, s, result, t⟩) h

/-- A first action that hands a command on is followed by the chain of the other flags. -/
theorem Chained.cons {flag : Flag} {rest : List Flag} {command next : Command} {s u t : Session}
    {actions : List PostAction} {result : Except Fault Command}
    (h : outcome (act host c output command flag) s = (.ok (some next), u))
    (hrest : Chained host c output rest next u actions result t) :
    Chained host c output (flag :: rest) command s
      (⟨flag, command, s, .ok (some next), u⟩ :: actions) result t where
  inOrder := List.cons_prefix_cons.2 ⟨rfl, hrest.inOrder⟩
  happens := List.forall_mem_cons.2 ⟨h, hrest.happens⟩
  first := by
    rintro a ⟨⟩
    exact ⟨rfl, rfl⟩
  next := by
    refine List.isChain_cons.2 ⟨fun a ha => ?_, hrest.next⟩
    obtain ⟨hcommand, hbefore⟩ := hrest.first a ha
    exact ⟨by rw [hcommand], hbefore.symm⟩
  complete hlast := by
    rw [List.map_cons, hrest.complete fun a ha => ?_]
    refine hlast a ?_
    rw [List.getLast?_cons, Option.mem_def.1 ha]
    rfl
  result_eq := by
    rw [hrest.result_eq, List.getLast?_cons]
    cases actions.getLast? <;> rfl
  session_eq := by
    rw [hrest.session_eq, List.getLast?_cons]
    cases actions.getLast? <;> rfl
  handed_eq := by
    rw [hrest.handed_eq, List.flatMap_cons, ← List.append_assoc]
    exact congrArg (· ++ _)
      (handed_of_happens (a := ⟨flag, command, s, .ok (some next), u⟩) h)

theorem exists_chained (host : Host) (c : Case) (output : ProcessOutput) (flags : List Flag)
    (command : Command) (s : Session) : ∃ actions,
      Chained host c output flags command s actions
        (outcome (actAll host c output command flags) s).1
        (outcome (actAll host c output command flags) s).2 := by
  induction flags generalizing command s with
  | nil =>
    refine ⟨[], ?_⟩
    constructor
    case inOrder => exact List.prefix_rfl
    case next => exact .nil
    case handed_eq => exact (List.append_nil _).symm
    all_goals simp [actAll]
  | cons flag rest ih =>
    rw [actAll, outcome_bind]
    rcases hact : outcome (act host c output command flag) s with ⟨f | _ | next, u⟩
    · exact ⟨_, .single hact (by simp)⟩
    · exact ⟨_, .single hact (by simp)⟩
    · obtain ⟨actions, hrest⟩ := ih next u
      exact ⟨_, .cons hact hrest⟩

/-! ## The whole test -/

/-- How a test goes on once it has been verified, and that nothing goes on otherwise. -/
structure PostActions (host : Host) (shared : Config) (c : Case) (s : Session) : Prop where
  /-- Before the verification no flag is handed anything. -/
  handed_verified : (outcome (verified host shared c) s).2.handed = s.handed
  /-- A test that is not verified ends there. -/
  unverified {f : Fault} {u : Session} : outcome (verified host shared c) s = (.error f, u) →
    outcome (run host shared c) s = (.error f, u)
  /-- The flags of a test that is verified act in a chain: those of the sets that apply, sets in
  order and flags in the order of their set. -/
  chained {v : Verified} {u : Session} : outcome (verified host shared c) s = (.ok v, u) →
    ∃ actions result t,
      Chained host v.patched v.output
        ((c.directives.sets.filter (·.appliesTo c.revision)).flatMap fun set =>
          set.custom.map fun (_, flag) => flag.content)
        v.command u actions result t ∧
      outcome (run host shared c) s =
        (result.map fun command => { command, output := v.output }, t)

/-- **Actions after the verification.** -/
theorem run_postActions (host : Host) (shared : Config) (c : Case) (s : Session) :
    PostActions host shared c s := by
  constructor
  case handed_verified => exact leaves_handed_verified host shared c s
  case unverified =>
    intro f u h
    rw [run_eq, outcome_bind, h]
  case chained =>
    intro v u h
    obtain ⟨actions, hchained⟩ :=
      exists_chained host v.patched v.output v.patched.flags v.command u
    rw [flags_of_verified h] at hchained
    refine ⟨actions, _, _, hchained, ?_⟩
    rw [run_eq, outcome_bind_of_ok h, flags_of_verified h, outcome_bind]
    rcases outcome (actAll host v.patched v.output v.command c.flags) u with ⟨_ | _, t⟩
    · rfl
    · rfl

/-- A flag that only decides how the test goes on. -/
def deciding (key : Nat) (decision : Decision) : String × Spanned Flag :=
  (toString key, ⟨.observe key [] fun _ _ => decision, {}⟩)

/-- A test with flags in three sets, one of them for another revision. -/
def relayCase : Case where
  config := { program := { program := "rustc" }, rootDir := .ofText "ui", outDir := .ofText "out" }
  revision := "a"
  directives := {
    revisions := ["a", "b"]
    sets := [
      { mode := some ⟨.pass, {}⟩
        custom := [deciding 0 .keep, deciding 1 (.replace { program := "ld" })] },
      { revisions := ["b"], custom := [deciding 2 .stop] },
      { revisions := ["a"], custom := [deciding 3 .stop, deciding 4 .keep] }] }
  path := .ofText "ui/t.rs"
  auxDir := .ofText "ui/auxiliary"

/-- The last flag does not act, since the one before hands nothing on. -/
example :
    let host : Host := ⟨fun t _ => .ok (⟨0, [], []⟩, t)⟩
    let tree : FileTree := {
      entries := [(["ui"], .directory), (["ui", "t.rs"], .file [] true)], workingPlace := [] }
    let (result, t) := outcome (run host relayCase.config relayCase) { tree }
    result.toOption.map (·.command.program) = some "ld" ∧
      t.handed.map (fun r => (r.key, r.command.program)) =
        [(0, "rustc"), (1, "rustc"), (3, "ld")] := by
  decide +kernel

end Case

end CompilerTest

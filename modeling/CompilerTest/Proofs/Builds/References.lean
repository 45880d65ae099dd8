import CompilerTest.Proofs.Builds.Auxiliary
import CompilerTest.Proofs.Builds.Once
import CompilerTest.Proofs.Paths
import CompilerTest.Shell.Host

/-!
# References to files that tests need

Tests refer to the files that they need by paths of any spelling. A build is known by the real path
of its file, as seen from the working directory, so references share a build iff they lead to the
same file: the compiler is run for it once at most, by a command that depends on the file and not on
who asks, and all references to it get the same arguments (`references_compiledOnce`).
-/

namespace CompilerTest

namespace Case

/-- A reference of a test to a file that it needs. -/
structure Reference where
  /-- The file as the test spells it. -/
  aux : Spanned Path
  /-- The directory of such files. -/
  dir : Path
  aux_spelled : aux.content.Spelled
  dir_spelled : dir.Spelled

namespace Reference

/-- The file as it is found from the working directory. -/
def file (r : Reference) : Path := resolveAux r.aux.content r.dir

/-- What the test ends with for a fault of the build. -/
def report (r : Reference) : Fault → Fault
  | .failed f => .failed { f with errors := [.auxiliary r.file f.errors r.aux.line] }
  | f => f

theorem spelled_file (r : Reference) : r.file.Spelled := by
  unfold file resolveAux
  split
  · exact r.dir_spelled.parent.join r.aux_spelled
  · exact r.dir_spelled.join r.aux_spelled

end Reference

/-- The build of a real file. -/
def realBuild (host : Host) (shared : Config) (t : FileTree) (real : Path) : Run.Build :=
  auxBuild host shared (auxKeyPath t real)

variable {host : Host} {shared : Config} {t : FileTree} {s : Session} {p q real : Path}

/-! ## Keys -/

theorem auxKeyPath_cases (t : FileTree) (p : Path) :
    (∃ names, p = t.workingDirectory.below names ∧ auxKeyPath t p = ⟨.relative, names⟩) ∨
      auxKeyPath t p = p := by
  unfold auxKeyPath
  cases h : p.relativeTo? t.workingDirectory with
  | some names => exact .inl ⟨names, Path.relativeTo?_eq_some_iff.1 h, rfl⟩
  | none => exact .inr rfl

theorem auxKeyPath_inj (hp : p.root = .single) (hq : q.root = .single)
    (h : auxKeyPath t p = auxKeyPath t q) : p = q := by
  rcases auxKeyPath_cases t p with ⟨names, hnames, hkey⟩ | hkey
  · rcases auxKeyPath_cases t q with ⟨names', hnames', hkey'⟩ | hkey'
    · have hsame : names = names' := congrArg Path.names (hkey.symm.trans (h.trans hkey'))
      rw [hnames, hnames', hsame]
    · -- a relative path is no absolute one
      rw [hkey, hkey'] at h
      rw [← h] at hq
      cases hq
  · rcases auxKeyPath_cases t q with ⟨names', -, hkey'⟩ | hkey'
    · rw [hkey, hkey'] at h
      rw [h] at hp
      cases hp
    · rw [← hkey, h, hkey']

theorem spelled_auxKeyPath (h : p.Spelled) : (auxKeyPath t p).Spelled := by
  rcases auxKeyPath_cases t p with ⟨names, rfl, hkey⟩ | hkey
  · rw [hkey]
    intro name hname
    exact h name (List.mem_append_right _ hname)
  · rw [hkey]
    exact h

/-- Builds of real files have one key iff the files are one. -/
theorem realBuild_key_iff {r r' : Reference} (hworking : t.workingDirectory.Spelled)
    (hp : t.realPath true r.file = .ok p) (hq : t.realPath true r'.file = .ok q) :
    (realBuild host shared t p).key = (realBuild host shared t q).key ↔ p = q := by
  have hspelled : (auxKeyPath t p).Spelled :=
    spelled_auxKeyPath (FileTree.spelled_of_realPath hworking r.spelled_file hp)
  have hspelled' : (auxKeyPath t q).Spelled :=
    spelled_auxKeyPath (FileTree.spelled_of_realPath hworking r'.spelled_file hq)
  constructor
  · intro h
    have htext : (auxKeyPath t p).text = (auxKeyPath t q).text := BuildKey.auxiliary.inj h
    exact auxKeyPath_inj (FileTree.root_of_realPath hp) (FileTree.root_of_realPath hq)
      ((Path.text_inj hspelled hspelled').1 htext)
  · rintro rfl
    rfl

/-! ## Commands -/

/-- Whether the commands that were run from one point of a run to another are that which compiles a
file, or none. -/
def CompilesOnly (shared : Config) (file : Path) (s s' : Session) : Prop :=
  s'.commands = s.commands ∨ ∃ outDir, shared.outDirFor s.tree file = .ok outDir ∧
    s'.commands = s.commands ++
      [⟨.debug, "command", "running " ++ (auxCommand shared file outDir).render⟩]

theorem compilesOnly_auxBuild (host : Host) (shared : Config) (file : Path) (s : Session) :
    CompilesOnly shared file s (outcome (auxBuild host shared file).run s).2 := by
  have hrun : (outcome (auxBuild host shared file).run s).2.commands =
      (outcome (buildAuxFile host shared file) s).2.commands :=
    Run.part_bind (fun _ => Run.leaves_pure _) s
  rw [CompilesOnly, hrun, buildAuxFile, outcome_bind_of_ok (Run.outcome_tree s)]
  cases houtDir : shared.outDirFor s.tree file with
  | error e => exact .inl rfl
  | ok outDir =>
    have hok : outcome (Run.liftResolve (.ok outDir)) s = (.ok outDir, s) := rfl
    rw [outcome_bind_of_ok hok, outcome_bind_of_ok (Run.outcome_tree s)]
    cases htree : s.tree.ensureDirectory outDir with
    | error e => exact .inl rfl
    | ok t =>
      refine .inr ⟨outDir, rfl, ?_⟩
      have hsetTree (t : FileTree) : Run.Leaves Session.commands (Run.setTree t) := fun _ => rfl
      rw [outcome_bind_of_ok (Run.outcome_liftFile_ok t s),
        outcome_bind_of_ok (Run.outcome_setTree t s)]
      refine ((Run.part_bind (fun output => ?_) _).trans
        (Run.part_command hsetTree host _ _)).trans ?_
      · split
        · exact (Run.leaves_throw _).bind fun _ => Run.leaves_lift _
        · exact Run.leaves_lift _
      · simp [Session.commands, auxCommand]

/-! ## What a reference asks for -/

/-- Building the file of a reference is asking for the build of its real file. -/
theorem outcome_buildAux (r : Reference) (h : s.tree.realPath true r.file = .ok real) :
    outcome (buildAux host shared r.dir r.aux) s =
      (((outcome (Run.request (realBuild host shared s.tree real)) s).1.map
          (·.getD [])).mapError r.report,
        (outcome (Run.request (realBuild host shared s.tree real)) s).2) := by
  have hfile : resolveAux r.aux.content r.dir = r.file := rfl
  have hreport : Fault.ofAux r.file r.aux.line = r.report := by
    funext f
    cases f <;> rfl
  rw [outcome_buildAux_eq, hfile, hreport, outcome_requestAux_of_ok h]
  rfl

/-- A reference that leads to no file asks for nothing. -/
theorem outcome_buildAux_of_error {e : ResolveError} (r : Reference)
    (h : s.tree.realPath true r.file = .error e) :
    (outcome (buildAux host shared r.dir r.aux) s).2 = s := by
  have hfile : resolveAux r.aux.content r.dir = r.file := rfl
  rw [outcome_buildAux_eq, hfile, outcome_requestAux_of_error h]

/-! ## Compiled once -/

section Compiled

open Sharing

variable {ι : Type} {refs : ι → Reference} {file : ι → Path} {l : List (Event ι)}
  {traffic : Traffic ι}

/-- Whether references lead to the same files in two trees, however these differ otherwise. -/
structure SameFiles (refs : ι → Reference) (t t' : FileTree) : Prop where
  workingPlace_eq : t'.workingPlace = t.workingPlace
  realPath_eq (i : ι) : t'.realPath true (refs i).file = t.realPath true (refs i).file

theorem asks_of_sameFiles {i : ι} (hfile : ∀ i, t.realPath true (refs i).file = .ok (file i))
    (hs : SameFiles refs t s.tree) :
    outcome (buildAux host shared (refs i).dir (refs i).aux) s =
      (((outcome (Run.request (realBuild host shared t (file i))) s).1.map
          (·.getD [])).mapError (refs i).report,
        (outcome (Run.request (realBuild host shared t (file i))) s).2) := by
  have hreal : s.tree.realPath true (refs i).file = .ok (file i) :=
    (hs.realPath_eq i).trans (hfile i)
  have hbuild : realBuild host shared s.tree (file i) = realBuild host shared t (file i) := by
    simp only [realBuild, auxKeyPath, FileTree.workingDirectory, hs.workingPlace_eq]
  rw [outcome_buildAux (refs i) hreal, hbuild]

variable [DecidableEq ι]

/-- Each file is compiled once at most, however it is spelled, and all who refer to it get the same
arguments. -/
structure CompiledOnce (host : Host) (shared : Config) (t : FileTree) (refs : ι → Reference)
    (file : ι → Path) (l : List (Event ι)) (traffic : Traffic ι) : Prop where
  /-- Keys tell files apart, and nothing else. -/
  key_iff (i j : ι) :
    (realBuild host shared t (file i)).key = (realBuild host shared t (file j)).key ↔
      file i = file j
  /-- Building the file of a reference is a request for the build of its real file. -/
  asks (i : ι) (s : Session) (hs : SameFiles refs t s.tree) :
    let request := outcome (Run.request (realBuild host shared t (file i))) s
    outcome (buildAux host shared (refs i).dir (refs i).aux) s =
      ((request.1.map (·.getD [])).mapError (refs i).report, request.2)
  /-- A reference that leads to no file changes nothing. -/
  unresolved (r : Reference) (s : Session) {e : ResolveError}
    (h : s.tree.realPath true r.file = .error e) :
    (outcome (buildAux host shared r.dir r.aux) s).2 = s
  /-- One build of a file is started at most. -/
  starts (real : Path) :
    l.countP (fun e => e.action.isStart && file e.who = real) ≤ 1
  /-- A build runs one command at most. It is that for the file as it is seen from the working
  directory, whoever has asked for it and whatever else the run has done. -/
  command (real : Path) (s : Session) :
    CompilesOnly shared (auxKeyPath t real) s (outcome (realBuild host shared t real).run s).2
  /-- From any point where its turn comes, a reference takes steps of this run without an
  interruption, and a command is run only if they start the build. -/
  turn {i : ι} {s : Session} (hi : traffic.phase i = .asking) (hb : s.builds = traffic.builds)
    (hs : SameFiles refs t s.tree) :
    let s' := (outcome (buildAux host shared (refs i).dir (refs i).aux) s).2
    ∃ l' traffic', Runs (fun i => realBuild host shared t (file i)) (l ++ l') traffic' ∧
      (∀ e ∈ l', e.who = i ∧ e.action.isInterrupt = false) ∧ traffic'.builds = s'.builds ∧
      (s'.commands = s.commands ∨
        ⟨i, .start⟩ ∈ l' ∧ CompilesOnly shared (auxKeyPath t (file i)) s s')
  /-- All references to a file whose build has succeeded get its arguments. -/
  arguments {i j : ι} {args : List String} {o : BuildOutcome} (hi : ⟨i, .finish (.ok args)⟩ ∈ l)
    (hfile : file j = file i) (hj : traffic.phase j = .answered o) : o = .ok args
  /-- A reference to a file whose build has succeeded gets its arguments, and nothing is run. -/
  reuse {i j : ι} {args : List String} {s : Session} (hi : traffic.phase i = .answered (.ok args))
    (hfile : file j = file i) (hb : s.builds = traffic.builds) (hs : SameFiles refs t s.tree) :
    outcome (buildAux host shared (refs j).dir (refs j).aux) s = (.ok args,
      { s with log := s.log ++ [⟨.debug, "build_manager", "reusing " ++
        (realBuild host shared t (file j)).description⟩] })

/-- A build that is not interrupted is started once at most. -/
theorem count_start_le_one {what : ι → Run.Build} (h : Runs what l traffic)
    (hfinish : ∀ e ∈ l, e.action.isInterrupt = false) (k : BuildKey) :
    count what Action.isStart k l ≤ 1 := by
  have hinterrupts : count what Action.isInterrupt k l = 0 := by
    rw [count, List.countP_eq_zero]
    intro e he hcount
    rw [hfinish e he] at hcount
    cases hcount
  have hstarts := (h.balanced k).le
  rwa [hinterrupts] at hstarts

/-- **Each file that tests need is compiled once at most**, as long as no build is interrupted. -/
theorem references_compiledOnce (hworking : t.workingDirectory.Spelled)
    (hfile : ∀ i, t.realPath true (refs i).file = .ok (file i))
    (h : Runs (fun i => realBuild host shared t (file i)) l traffic)
    (hfinish : ∀ e ∈ l, e.action.isInterrupt = false) :
    CompiledOnce host shared t refs file l traffic where
  key_iff i j := realBuild_key_iff hworking (hfile i) (hfile j)
  asks i s hs := asks_of_sameFiles hfile hs
  unresolved r s _ h := outcome_buildAux_of_error r h
  starts real := by
    refine Nat.le_trans ?_ (count_start_le_one h hfinish (realBuild host shared t real).key)
    refine List.countP_mono_left fun e _ he => ?_
    simp only [Bool.and_eq_true, decide_eq_true_eq] at he ⊢
    exact ⟨he.1, by rw [he.2]⟩
  command real s := compilesOnly_auxBuild host shared _ s
  turn {i s} hi hb hs := by
    obtain ⟨l', traffic', hturn⟩ := h.request hi hb (leaves_builds_auxBuild host shared _)
    dsimp only
    rw [asks_of_sameFiles hfile hs]
    refine ⟨l', traffic', hturn.runs, fun e he => ⟨hturn.who_eq e he, ?_⟩, hturn.builds_eq, ?_⟩
    · by_contra hinterrupt
      obtain ⟨u, hu⟩ := hturn.interrupted e he (by simpa using hinterrupt)
      exact auxBuild_ne_none host shared _ u hu
    · rcases hturn.commands with hnone | ⟨hstart, u, htree, hbefore, hafter⟩
      · exact .inl hnone
      · have honly := compilesOnly_auxBuild host shared (auxKeyPath t (file i)) u
        rw [CompilesOnly, htree, hbefore] at honly
        exact .inr ⟨hstart, by rw [CompilesOnly, hafter]; exact honly⟩
  arguments {i j args o} hi hsame hj := by
    have hkey :
        (realBuild host shared t (file j)).key = (realBuild host shared t (file i)).key := by
      rw [hsame]
    rcases h.sound.answer_eq hi hkey hj with ⟨-, ho⟩ | ⟨-, ho⟩
    · exact ho
    · exact ho
  reuse {i j args s} hi hsame hb hs := by
    obtain ⟨n, _, hslot, hp, -, -⟩ := h.sound.settled_of_args hi
    rw [← hb] at hslot hp
    obtain ⟨hstate, hended⟩ := Run.outcome_request_old hslot
    rw [hp] at hended
    rw [asks_of_sameFiles hfile hs, hsame, hstate, Run.ended?_eq_ok_iff.1 hended]
    rfl

/-! ## A file that is spelled in two ways -/

/-- A tree with a link to the directory of a library. -/
def linkedTree : FileTree where
  entries := [(["work"], .directory), (["work", "tests"], .directory),
    (["work", "tests", "auxiliary"], .directory),
    (["work", "tests", "auxiliary", "lib.rs"], .file [] false),
    (["work", "shared"], .link "tests/auxiliary")]
  workingPlace := ["work"]

/-- The library in the directory of such files, and through the link. -/
def libReference : Bool → Reference
  | false => ⟨⟨.ofText "lib.rs", {}⟩, .ofText "tests/auxiliary", Path.spelled_ofText _,
      Path.spelled_ofText _⟩
  | true => ⟨⟨.ofText "../shared/lib.rs", {}⟩, .ofText "/work/tests/auxiliary",
      Path.spelled_ofText _, Path.spelled_ofText _⟩

/-- The real path of the library. -/
def libFile : Path := .ofText "/work/tests/auxiliary/lib.rs"

/-- A configuration for tests with a library. -/
def libConfig : Config where
  program := { program := "rustc" }
  rootDir := .ofText "tests"
  outDir := .ofText "out"

/-- The second reference comes while the first one builds the library. -/
def libEvents : List (Event Bool) := [
  ⟨false, .start⟩, ⟨true, .join⟩, ⟨false, .finish (.ok ["-L", "out"])⟩, ⟨false, .settle⟩,
  ⟨true, .wake⟩]

theorem libReference_compiledOnce : linkedTree.workingDirectory.Spelled ∧
    (∀ i, linkedTree.realPath true (libReference i).file = .ok libFile) ∧
    (∀ e ∈ libEvents, e.action.isInterrupt = false) ∧
    ∃ traffic, Runs (fun _ => realBuild Shell.host libConfig linkedTree libFile) libEvents traffic ∧
      traffic.phase true = .answered (.ok ["-L", "out"]) ∧
      CompiledOnce Shell.host libConfig linkedTree libReference (fun _ => libFile) libEvents
        traffic := by
  have hworking : linkedTree.workingDirectory.Spelled := by
    intro name hname
    obtain rfl := List.mem_singleton.1 hname
    exact ⟨by decide, by decide⟩
  have hfile : ∀ i, linkedTree.realPath true (libReference i).file = .ok libFile := by
    decide +kernel
  have hfinish : ∀ e ∈ libEvents, e.action.isInterrupt = false := by
    simp [libEvents, Action.isInterrupt]
  have h : Runs (fun _ : Bool => realBuild Shell.host libConfig linkedTree libFile) []
    ⟨{}, fun _ => .asking⟩ := .nil
  have h := h.snoc (.start (i := false) rfl rfl)
  have h := h.snoc (.join (i := true) rfl (Builds.claim_of_slot? List.lookup_cons_self))
  have h := h.snoc (.finish (i := false) rfl (.ok ["-L", "out"]))
  have h := h.snoc (.settle (i := false) rfl)
  have h := h.snoc (.wake (i := true) rfl rfl)
  exact ⟨hworking, hfile, hfinish, _, h, rfl, references_compiledOnce hworking hfile h hfinish⟩

end Compiled

end Case

end CompilerTest

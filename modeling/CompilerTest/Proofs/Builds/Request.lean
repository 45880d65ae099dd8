import CompilerTest.Case.Run
import CompilerTest.Proofs.Builds.Once
import CompilerTest.Proofs.Outcome

/-!
# A request of a run

A run asks for a build in one go. What it does with the builds is what a request does in steps that
nobody comes between, and what it gets is the answer of that request (`Runs.request`).
-/

namespace CompilerTest

/-- The commands that were run, as the log has them. -/
def Session.commands (s : Session) : List LogRecord := s.log.filter fun r => r.source = "command"

namespace Run

variable {α β γ : Type}

/-! ## Steps that leave a part of what is shared alone -/

/-- Whether a step leaves a part of what the steps of a run share alone. -/
def Leaves (part : Session → γ) (x : Run α) : Prop := ∀ s, part (outcome x s).2 = part s

section Leaves

variable {part : Session → γ}

theorem leaves_pure (a : α) : Leaves part (pure a : Run α) := fun _ => rfl

theorem leaves_throw (f : Fault) : Leaves part (throw f : Run α) := fun _ => rfl

theorem leaves_tree : Leaves part tree := fun _ => rfl

/-- A step whose second part leaves something alone leaves it as its first part does. -/
theorem part_bind {x : Run α} {f : α → Run β} (hf : ∀ a, Leaves part (f a)) (s : Session) :
    part (outcome (x >>= f) s).2 = part (outcome x s).2 := by
  rw [outcome_bind]
  rcases outcome x s with ⟨e | a, u⟩
  · rfl
  · exact hf a u

theorem Leaves.bind {x : Run α} {f : α → Run β} (hx : Leaves part x)
    (hf : ∀ a, Leaves part (f a)) : Leaves part (x >>= f) :=
  fun s => (part_bind hf s).trans (hx s)

theorem leaves_lift (x : Except Fault α) : Leaves part (lift x) := by
  cases x <;> exact fun _ => rfl

theorem leaves_liftFile (x : Except FileError α) : Leaves part (liftFile x) := by
  cases x <;> exact fun _ => rfl

theorem leaves_liftFailure (x : Except Failure α) : Leaves part (liftFailure x) := by
  cases x <;> exact fun _ => rfl

theorem leaves_liftResolve (x : Except ResolveError α) : Leaves part (liftResolve x) := by
  cases x <;> exact fun _ => rfl

theorem Leaves.attempt {x : Run α} (hx : Leaves part x) : Leaves part (attempt x) := hx

theorem Leaves.mapM {f : α → Run β} (hf : ∀ a, Leaves part (f a)) (l : List α) :
    Leaves part (l.mapM f) := by
  induction l with
  | nil => exact leaves_pure _
  | cons a l ih =>
    rw [List.mapM_cons]
    exact (hf a).bind fun _ => ih.bind fun _ => leaves_pure _

theorem Leaves.forM {f : α → Run Unit} (hf : ∀ a, Leaves part (f a)) (l : List α) :
    Leaves part (l.forM f) := by
  induction l with
  | nil => exact leaves_pure _
  | cons a l ih => exact (hf a).bind fun _ => ih

theorem leaves_checkCommand (c : Command) : Leaves part (checkCommand c) := by
  unfold checkCommand
  dsimp only
  split
  · exact (leaves_throw _).bind fun _ => by split <;> exact fun _ => rfl
  · split <;> exact fun _ => rfl

/-- A program that is launched changes the files only. -/
theorem leaves_launch (htree : ∀ t, Leaves part (setTree t)) (host : Host) (c : Command) :
    Leaves part (launch host c) := by
  unfold launch
  refine (leaves_checkCommand c).bind fun _ => leaves_tree.bind fun t => ?_
  split
  · exact (htree _).bind fun _ => leaves_pure _
  · exact leaves_throw _

/-- Running a program is recorded, as the first thing; after that it changes the files only. -/
theorem part_command (htree : ∀ t, Leaves part (setTree t)) (host : Host) (c : Command)
    (s : Session) : part (outcome (command host c) s).2 =
      part { s with log := s.log ++ [⟨.debug, "command", "running " ++ c.render⟩] } := by
  have hlaunch : Leaves part (launch host c) := leaves_launch htree host c
  unfold command
  refine part_bind (fun _ => ?_) s
  split
  · exact hlaunch
  · refine leaves_tree.bind fun t => ?_
    split
    · exact hlaunch
    · split
      · exact leaves_throw _
      · exact leaves_throw _

end Leaves

theorem leaves_builds_setTree (t : FileTree) : Leaves Session.builds (setTree t) := fun _ => rfl

/-- Running a program leaves the builds alone. -/
theorem leaves_builds_command (host : Host) (c : Command) :
    Leaves Session.builds (command host c) :=
  part_command leaves_builds_setTree host c

/-! ## Outcomes of a request -/

/-- What the promise of a build is settled with, if it is not cancelled. -/
def ended? : Except Fault (Option (List String)) → Option BuildOutcome
  | .ok (some args) => some (.ok args)
  | .ok none => none
  | .error f => some (.error f)

/-- A request that makes a promise runs the build, ends as it does, and settles the promise with its
result or gives it up. -/
theorem outcome_request_new {what : Build} {s : Session} {n : Nat} {b : Builds}
    (hwhat : Leaves Session.builds what.run) (hb : s.builds.claim what.key = (n, true, b)) :
    (∃ u, u.tree = s.tree ∧ u.commands = s.commands ∧
        (outcome (request what) s).1 = (outcome what.run u).1 ∧
        (outcome (request what) s).2.commands = (outcome what.run u).2.commands) ∧
      (outcome (request what) s).2.builds =
        match ended? (outcome (request what) s).1 with
        | some o => b.settle n o
        | none => (b.forget what.key).cancel n := by
  rw [request, outcome_bind_of_ok (outcome_get s), hb,
    outcome_bind_of_ok (outcome_modifyBuilds _ s)]
  simp only [if_true]
  rw [outcome_bind_of_ok (outcome_log ..), outcome_bind_of_ok (outcome_attempt ..)]
  have hstart : ({ s with builds := b, log := s.log ++ [⟨.debug, "build_manager",
      what.description⟩] } : Session).commands = s.commands := by simp [Session.commands]
  generalize hs : ({ s with builds := b, log := _ } : Session) = u at hstart ⊢
  have htree : u.tree = s.tree := by rw [← hs]
  have hv : (outcome what.run u).2.builds = b := by rw [hwhat u, ← hs]
  cases hresult : outcome what.run u with
  | mk result v =>
    rw [hresult] at hv
    rcases result with f | _ | args
    · rw [outcome_bind_of_ok (outcome_modifyBuilds _ v), outcome_fault]
      exact ⟨⟨u, htree, hstart, by rw [hresult], by rw [hresult]; rfl⟩,
        congrArg (·.settle n (.error f)) hv⟩
    · rw [outcome_bind_of_ok (outcome_modifyBuilds _ v),
        outcome_bind_of_ok (outcome_modifyBuilds ..), outcome_pure]
      exact ⟨⟨u, htree, hstart, by rw [hresult], by rw [hresult]; rfl⟩,
        congrArg (fun b => (b.forget what.key).cancel n) hv⟩
    · rw [outcome_bind_of_ok (outcome_modifyBuilds _ v), outcome_bind_of_ok (outcome_log ..),
        outcome_pure]
      refine ⟨⟨u, htree, hstart, by rw [hresult], ?_⟩, congrArg (·.settle n (.ok args)) hv⟩
      rw [hresult]
      simp [Session.commands]

theorem ended?_eq_none_iff {result : Except Fault (Option (List String))} :
    ended? result = none ↔ result = .ok none := by
  rcases result with f | _ | args
  · simp [ended?]
  · simp [ended?]
  · simp [ended?]

theorem ended?_eq_ok_iff {result : Except Fault (Option (List String))} {args : List String} :
    ended? result = some (.ok args) ↔ result = .ok (some args) := by
  rcases result with f | _ | args'
  · simp [ended?]
  · simp [ended?]
  · simp [ended?]

/-- A request that finds a promise changes nothing but the log, and gets what the promise was
settled with. -/
theorem outcome_request_old {what : Build} {s : Session} {n : Nat}
    (hslot : s.builds.slot? what.key = some n) :
    (outcome (request what) s).2 =
        { s with log := s.log ++ [⟨.debug, "build_manager", "reusing " ++ what.description⟩] } ∧
      ended? (outcome (request what) s).1 =
        match s.builds.promise? n with
        | some (.settled o) => some (Builds.reused what.description o)
        | _ => none := by
  rw [request, outcome_bind_of_ok (outcome_get s), Builds.claim_of_slot? hslot,
    outcome_bind_of_ok (outcome_modifyBuilds _ s)]
  simp only [Bool.false_eq_true, if_false]
  rw [outcome_bind_of_ok (outcome_log ..)]
  rcases s.builds.promise? n with _ | _ | o | _
  · exact ⟨rfl, rfl⟩
  · exact ⟨rfl, rfl⟩
  · dsimp only
    cases Builds.reused what.description o
    · exact ⟨rfl, rfl⟩
    · exact ⟨rfl, rfl⟩
  · exact ⟨rfl, rfl⟩

end Run

namespace Sharing

variable {ι : Type} [DecidableEq ι] {what : ι → Run.Build} {l : List (Event ι)} {t : Traffic ι}
  {i : ι} {s : Session}

/-- A turn of a request: the steps that it takes in one go after a run. -/
structure Turn (what : ι → Run.Build) (l : List (Event ι)) (i : ι) (s : Session)
    (l' : List (Event ι)) (t' : Traffic ι) : Prop where
  runs : Runs what (l ++ l') t'
  who_eq : ∀ e ∈ l', e.who = i
  builds_eq : t'.builds = (outcome (Run.request (what i)) s).2.builds
  /-- Commands are run only by the build, and only if the steps start it. -/
  commands : (outcome (Run.request (what i)) s).2.commands = s.commands ∨
    ⟨i, .start⟩ ∈ l' ∧ ∃ u, u.tree = s.tree ∧ u.commands = s.commands ∧
      (outcome (Run.request (what i)) s).2.commands = (outcome (what i).run u).2.commands
  interrupted : ∀ e ∈ l', e.action.isInterrupt → ∃ u, (outcome (what i).run u).1 = .ok none
  ended : match Run.ended? (outcome (Run.request (what i)) s).1 with
    | some o => t'.phase i = .answered o
    | none => t'.phase i = .interrupted ∨ ∃ n, t'.phase i = .waiting n

/-- **A request takes the steps of a request.** From any point of a run where its turn comes, it
goes on to its answer, or its build is interrupted, or it would have to wait. -/
theorem Runs.request (h : Runs what l t) (hi : t.phase i = .asking) (hs : s.builds = t.builds)
    (hwhat : Run.Leaves Session.builds (what i).run) : ∃ l' t', Turn what l i s l' t' := by
  rcases hb : t.builds.claim (what i).key with ⟨n, isNew, b⟩
  rw [← hs] at hb
  cases isNew with
  | true =>
    obtain ⟨⟨u, htree, hbefore, hresult, hafter⟩, hbuilds⟩ := Run.outcome_request_new hwhat hb
    rw [hs] at hb
    have h := h.snoc (.start hi hb)
    cases hended : Run.ended? (outcome (Run.request (what i)) s).1 with
    | some o =>
      have h := h.snoc (.finish (next_phase_self ..) o)
      have h := h.snoc (.settle (next_phase_self ..))
      simp only [List.append_assoc] at h
      rw [hended] at hbuilds
      refine ⟨_, _, h, by simp, hbuilds.symm, .inr ⟨by simp, u, htree, hbefore, hafter⟩,
        by simp [Action.isInterrupt], ?_⟩
      rw [hended]
      exact next_phase_self ..
    | none =>
      have h := h.snoc (.interrupt (next_phase_self ..))
      have h := h.snoc (.forget (next_phase_self ..))
      have h := h.snoc (.cancel (next_phase_self ..))
      simp only [List.append_assoc] at h
      rw [hended] at hbuilds
      have hnone : (outcome (what i).run u).1 = .ok none :=
        hresult.symm.trans (Run.ended?_eq_none_iff.1 hended)
      refine ⟨_, _, h, by simp, hbuilds.symm, .inr ⟨by simp, u, htree, hbefore, hafter⟩,
        fun _ _ _ => ⟨u, hnone⟩, ?_⟩
      rw [hended]
      exact .inl (next_phase_self ..)
  | false =>
    obtain ⟨hslot, hjoined⟩ := Builds.claim_old hb
    obtain ⟨hstate, hended⟩ := Run.outcome_request_old hslot
    have hbuilds : (outcome (Run.request (what i)) s).2.builds = b := by rw [hstate, hjoined]
    have hcommands : (outcome (Run.request (what i)) s).2.commands = s.commands := by
      rw [hstate]
      simp [Session.commands]
    rw [hs] at hb hjoined hended
    have hjoin := h.snoc (.join hi hb)
    cases hp : t.builds.promise? n with
    | none =>
      refine ⟨_, _, hjoin, by simp, hbuilds.symm, .inl hcommands,
          by simp [Action.isInterrupt], ?_⟩
      rw [hended, hp]
      exact .inr ⟨n, next_phase_self ..⟩
    | some p =>
      cases p with
      | settled o =>
        have hwake := hjoin.snoc (.wake (next_phase_self ..) (by rw [next_builds, hjoined, hp]))
        rw [List.append_assoc] at hwake
        refine ⟨_, _, hwake, by simp, hbuilds.symm, .inl hcommands,
          by simp [Action.isInterrupt], ?_⟩
        rw [hended, hp]
        exact next_phase_self ..
      | pending | cancelled =>
        refine ⟨_, _, hjoin, by simp, hbuilds.symm, .inl hcommands,
          by simp [Action.isInterrupt], ?_⟩
        rw [hended, hp]
        exact .inr ⟨n, next_phase_self ..⟩

end Sharing

/-- The build of a file that tests need leaves the builds alone. -/
theorem Case.leaves_builds_auxBuild (host : Host) (shared : Config) (file : Path) :
    Run.Leaves Session.builds (Case.auxBuild host shared file).run := by
  unfold Case.auxBuild Case.buildAuxFile
  refine Run.Leaves.bind ?_ fun _ => Run.leaves_pure _
  refine Run.leaves_tree.bind fun t => ?_
  refine (Run.leaves_liftResolve _).bind fun outDir => ?_
  refine Run.leaves_tree.bind fun t => ?_
  refine (Run.leaves_liftFile _).bind fun t => ?_
  refine (Run.leaves_builds_setTree t).bind fun _ => ?_
  refine (Run.leaves_builds_command host _).bind fun output => ?_
  split
  · exact (Run.leaves_throw _).bind fun _ => Run.leaves_lift _
  · exact Run.leaves_lift _

/-- The build of a file that tests need is not interrupted. -/
theorem Case.auxBuild_ne_none (host : Host) (shared : Config) (file : Path) (s : Session) :
    (outcome (Case.auxBuild host shared file).run s).1 ≠ .ok none := by
  intro h
  obtain ⟨args, u, -, hpure⟩ := outcome_bind_ok_iff.1 (Prod.ext h rfl)
  cases hpure

end CompilerTest

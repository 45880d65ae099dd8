import CompilerTest.Session

/-!
# Outcomes of steps

A step of matching and a step of a run have the same shape: they start in a state, leave a state
behind, and give a value or end with a fault. `outcome` runs a step. The lemmas below say how the
outcome of a composed step comes from those of its parts, so that no later proof has to open the
monad.
-/

namespace CompilerTest

variable {σ α β : Type}

/-- How a step ends that starts in state `s`, and the state that it leaves behind. -/
def outcome (x : ExceptT Fault (StateM σ) α) (s : σ) : Except Fault α × σ := x s

/-! ## Composition -/

/-- A composed computation gives a value iff both parts do, one after the other. -/
theorem bind_ok_iff {ε : Type} {x : Except ε α} {f : α → Except ε β} {b : β} :
    x >>= f = .ok b ↔ ∃ a, x = .ok a ∧ f a = .ok b := by
  cases x <;> simp [bind, Except.bind]

/-- A composed computation gives a value iff its first part does, if it does not depend on that
value whether its second part does. -/
theorem exists_bind_ok_iff {ε : Type} {x : Except ε α} {f : α → Except ε β} {Q : Prop}
    (hf : ∀ a, (∃ b, f a = .ok b) ↔ Q) : (∃ b, x >>= f = .ok b) ↔ (∃ a, x = .ok a) ∧ Q := by
  cases x with
  | error e => simp [bind, Except.bind]
  | ok a => simpa [bind, Except.bind] using hf a

/-- A composed computation goes wrong as its first part or, after that, as its second part does. -/
theorem bind_error_iff {ε : Type} {x : Except ε α} {f : α → Except ε β} {e : ε} :
    x >>= f = .error e ↔ x = .error e ∨ ∃ a, x = .ok a ∧ f a = .error e := by
  cases x <;> simp [bind, Except.bind]

theorem eq_ok_of_toOption {ε : Type} {x : Except ε α} {a : α} (h : x.toOption = some a) :
    x = .ok a := by
  cases x with
  | error e => cases h
  | ok b => exact congrArg _ (Option.some.inj h)

theorem exists_ok_of_toOption_isSome {ε : Type} {x : Except ε α} (h : x.toOption.isSome) :
    ∃ a, x = .ok a := by
  obtain ⟨a, h⟩ := Option.isSome_iff_exists.1 h
  exact ⟨a, eq_ok_of_toOption h⟩

theorem outcome_bind (x : ExceptT Fault (StateM σ) α) (f : α → ExceptT Fault (StateM σ) β) (s : σ) :
    outcome (x >>= f) s = match outcome x s with
      | (.ok a, t) => outcome (f a) t
      | (.error e, t) => (.error e, t) := by
  have h : outcome (x >>= f) s = ExceptT.bindCont f (outcome x s).1 (outcome x s).2 := rfl
  rw [h]
  rcases outcome x s with ⟨_ | _, t⟩ <;> rfl

/-- A composed step completes iff both parts complete, one after the other. -/
theorem outcome_bind_ok_iff {x : ExceptT Fault (StateM σ) α} {f : α → ExceptT Fault (StateM σ) β}
    {s t : σ} {b : β} :
    outcome (x >>= f) s = (.ok b, t) ↔
      ∃ a u, outcome x s = (.ok a, u) ∧ outcome (f a) u = (.ok b, t) := by
  rw [outcome_bind]
  rcases outcome x s with ⟨e | a, u⟩
  · simp
  · simp only [Prod.mk.injEq, Except.ok.injEq]
    exact ⟨fun h => ⟨a, u, ⟨rfl, rfl⟩, h⟩, fun ⟨_, _, ⟨rfl, rfl⟩, h⟩ => h⟩

/-- A step whose first part completes goes on with its second part. -/
theorem outcome_bind_of_ok {x : ExceptT Fault (StateM σ) α} {f : α → ExceptT Fault (StateM σ) β}
    {s t : σ} {a : α} (h : outcome x s = (.ok a, t)) : outcome (x >>= f) s = outcome (f a) t := by
  rw [outcome_bind, h]

theorem outcome_forM_cons (f : α → ExceptT Fault (StateM σ) Unit) (a : α) (l : List α) (s : σ) :
    outcome ((a :: l).forM f) s = outcome (f a >>= fun _ => l.forM f) s := rfl

theorem outcome_forM_nil (f : α → ExceptT Fault (StateM σ) Unit) (s : σ) :
    outcome ([].forM f) s = (.ok (), s) := rfl

theorem outcome_forM_append_ok_iff (f : α → ExceptT Fault (StateM σ) Unit) (k l : List α)
    {s t : σ} :
    outcome ((k ++ l).forM f) s = (.ok (), t) ↔
      ∃ u, outcome (k.forM f) s = (.ok (), u) ∧ outcome (l.forM f) u = (.ok (), t) := by
  induction k generalizing s with
  | nil =>
    simp only [List.nil_append, outcome_forM_nil, Prod.mk.injEq, true_and]
    exact ⟨fun h => ⟨s, rfl, h⟩, fun ⟨_, rfl, h⟩ => h⟩
  | cons a k ih =>
    simp only [List.cons_append, outcome_forM_cons, outcome_bind_ok_iff, ih]
    constructor
    · rintro ⟨_, v, hv, u, hu, ht⟩
      exact ⟨u, ⟨(), v, hv, hu⟩, ht⟩
    · rintro ⟨u, ⟨_, v, hv, hu⟩, ht⟩
      exact ⟨(), v, hv, u, hu, ht⟩

/-! ## Basic steps -/

@[simp] theorem outcome_pure (a : α) (s : σ) :
    outcome (pure a : ExceptT Fault (StateM σ) α) s = (.ok a, s) := rfl

@[simp] theorem outcome_throw (e : Fault) (s : σ) :
    outcome (throw e : ExceptT Fault (StateM σ) α) s = (.error e, s) := rfl

@[simp] theorem outcome_get (s : σ) :
    outcome (get : ExceptT Fault (StateM σ) σ) s = (.ok s, s) := rfl

@[simp] theorem outcome_modify (f : σ → σ) (s : σ) :
    outcome (modify f : ExceptT Fault (StateM σ) PUnit) s = (.ok ⟨⟩, f s) := rfl

/-! ## Steps of a run -/

namespace Run

@[simp] theorem outcome_tree (s : Session) : outcome tree s = (.ok s.tree, s) := rfl

@[simp] theorem outcome_setTree (t : FileTree) (s : Session) :
    outcome (setTree t) s = (.ok (), { s with tree := t }) := rfl

@[simp] theorem outcome_log (severity : Severity) (source text : String) (s : Session) :
    outcome (log severity source text) s =
      (.ok (), { s with log := s.log ++ [⟨severity, source, text⟩] }) := rfl

@[simp] theorem outcome_lift_ok (a : α) (s : Session) :
    outcome (lift (.ok a)) s = (.ok a, s) := rfl

@[simp] theorem outcome_liftFile_ok (a : α) (s : Session) :
    outcome (liftFile (.ok a)) s = (.ok a, s) := rfl

@[simp] theorem outcome_liftFailure_ok (a : α) (s : Session) :
    outcome (liftFailure (.ok a)) s = (.ok a, s) := rfl

theorem outcome_attempt (x : Run α) (s : Session) :
    outcome (attempt x) s = (.ok (outcome x s).1, (outcome x s).2) := rfl

theorem outcome_modifyBuilds (f : Builds → Builds) (s : Session) :
    outcome (modifyBuilds f) s = (.ok (), { s with builds := f s.builds }) := rfl

theorem outcome_fault (f : Fault) (s : Session) :
    outcome (fault f : Run α) s = (.error f, s) := rfl

theorem outcome_lift_ok_iff {x : Except Fault α} {a : α} {s t : Session} :
    outcome (lift x) s = (.ok a, t) ↔ x = .ok a ∧ s = t := by
  cases x with
  | error e => simp [lift]
  | ok b => simp

theorem outcome_liftFailure_ok_iff {x : Except Failure α} {a : α} {s t : Session} :
    outcome (liftFailure x) s = (.ok a, t) ↔ x = .ok a ∧ s = t := by
  cases x with
  | error e => simp [liftFailure]
  | ok b => simp

theorem outcome_liftFile_ok_iff {x : Except FileError α} {a : α} {s t : Session} :
    outcome (liftFile x) s = (.ok a, t) ↔ x = .ok a ∧ s = t := by
  cases x with
  | error e => simp [liftFile]
  | ok b => simp

theorem outcome_liftResolve_ok_iff {x : Except ResolveError α} {a : α} {s t : Session} :
    outcome (liftResolve x) s = (.ok a, t) ↔ x = .ok a ∧ s = t := by
  cases x with
  | error e => simp [liftResolve]
  | ok b => simp [liftResolve]

/-- Logging changes nothing but the log. -/
theorem outcome_forM_log (severity : Severity) (source : String) (texts : List String)
    (s : Session) :
    outcome (texts.forM (log severity source)) s =
      (.ok (), { s with log := s.log ++ texts.map (⟨severity, source, ·⟩) }) := by
  induction texts generalizing s with
  | nil => rw [outcome_forM_nil, List.map_nil, List.append_nil]
  | cons text texts ih =>
    rw [outcome_forM_cons, outcome_bind_of_ok (outcome_log severity source text s), ih,
      List.map_cons, List.append_assoc, List.singleton_append]

end Run

end CompilerTest

import CompilerTest.Fault

/-!
# Shared builds

Builds that several tests need are run once and their result is handed to everyone who asks. Who
asks first for a key claims it and gets a promise to settle; who asks later gets the same promise.
A build that is interrupted is forgotten, and its promise is cancelled, so that the next request
starts it anew.

The four operations below each stand for one indivisible step. A run uses them one after the other;
how requests of several threads interleave is a matter of the order of these steps.
-/

namespace CompilerTest

/-- What a build is known by. -/
inductive BuildKey where
  /-- The build of a file, by its path. -/
  | auxiliary (path : String)
  /-- A build with a name of its own. -/
  | named (name : String)
  deriving DecidableEq, Repr, Inhabited

/-- How a build that was not interrupted has ended: with arguments for those who need it, or with a
fault. -/
abbrev BuildOutcome := Except Fault (List String)

/-- What is known of a build that somebody has claimed. -/
inductive Promise where
  /-- It has not ended. -/
  | pending
  /-- It has ended. -/
  | settled (outcome : BuildOutcome)
  /-- It was interrupted. -/
  | cancelled
  deriving Inhabited

/-- The builds of a run. -/
structure Builds where
  /-- The number of the promise that stands for each key. -/
  slots : List (BuildKey × Nat) := []
  /-- All promises, by their numbers. -/
  promises : List Promise := []
  deriving Inhabited

namespace Builds

/-- Claims a key: the number of its promise, and whether the promise is a new one, which the caller
has to settle. -/
def claim (b : Builds) (key : BuildKey) : Nat × Bool × Builds :=
  match b.slots.lookup key with
  | some n => (n, false, b)
  | none =>
    let n := b.promises.length
    (n, true, ⟨b.slots ++ [(key, n)], b.promises ++ [.pending]⟩)

/-- Settles a promise. -/
def settle (b : Builds) (n : Nat) (outcome : BuildOutcome) : Builds :=
  { b with promises := b.promises.set n (.settled outcome) }

/-- Forgets a key. -/
def forget (b : Builds) (key : BuildKey) : Builds :=
  { b with slots := b.slots.filter fun (k, _) => k ≠ key }

/-- Cancels a promise. -/
def cancel (b : Builds) (n : Nat) : Builds :=
  { b with promises := b.promises.set n .cancelled }

/-- What is known of a promise. -/
def promise? (b : Builds) (n : Nat) : Option Promise := b.promises[n]?

/-- The failure that is handed to those who ask again for a build that has failed. -/
def earlierFailure (description : String) : Failure :=
  { command := { program := description }, stderr := Bytes.ofText "previous build failed" }

/-- What those who ask again for a build get: its arguments, a failure of their own if it has
failed, or any other fault that it has ended with. -/
def reused (description : String) : BuildOutcome → BuildOutcome
  | .ok args => .ok args
  | .error (.failed _) => .error (.failed (earlierFailure description))
  | .error fault => .error fault

end Builds

end CompilerTest

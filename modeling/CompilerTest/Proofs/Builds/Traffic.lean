import CompilerTest.Proofs.Builds.Operations
import CompilerTest.Session
import Mathlib.Logic.Function.Basic

/-!
# Requests of several threads

Any number of requests use the same builds, each for a build of its own or of others. A request is
taken apart into the steps that nobody can come between; `Step` is one step of one request, and
`Runs` is any order of such steps from the beginning. What has happened is kept as a list of events,
the last event at the end.

An interrupted owner first forgets the key and then cancels the promise. These are two steps, so a
request in between finds no promise or that of a new owner.
-/

namespace CompilerTest

namespace Sharing

/-- Where a request stands. -/
inductive Phase where
  /-- It looks for the promise of its key. -/
  | asking
  /-- It runs the build and owns a promise. -/
  | building (n : Nat)
  /-- Its build has ended, and the promise is to be settled. -/
  | settling (n : Nat) (outcome : BuildOutcome)
  /-- Its build was interrupted, and the key is to be forgotten. -/
  | forgetting (n : Nat)
  /-- The key is forgotten, and the promise is to be cancelled. -/
  | cancelling (n : Nat)
  /-- It waits for the promise of another request. -/
  | waiting (n : Nat)
  /-- It has ended with an outcome. -/
  | answered (outcome : BuildOutcome)
  /-- It has ended by an interruption. -/
  | interrupted

namespace Phase

/-- The promise that a request still has to settle or to cancel. -/
def owned? : Phase → Option Nat
  | building n => some n
  | settling n _ => some n
  | forgetting n => some n
  | cancelling n => some n
  | _ => none

/-- The promise of a request that stands for its key. -/
def held? : Phase → Option Nat
  | building n => some n
  | settling n _ => some n
  | forgetting n => some n
  | _ => none

/-- Whether the build of a request was interrupted. -/
def Broken : Phase → Prop
  | forgetting _ => True
  | cancelling _ => True
  | interrupted => True
  | _ => False

/-- Whether a request has ended. -/
def Ended : Phase → Prop
  | answered _ => True
  | interrupted => True
  | _ => False

end Phase

/-- What a request does in a step. -/
inductive Action where
  /-- It finds no promise and starts the build. -/
  | start
  /-- It finds a promise. -/
  | join
  /-- Its build ends without being interrupted. -/
  | finish (outcome : BuildOutcome)
  /-- It settles its promise. -/
  | settle
  /-- Its build is interrupted. -/
  | interrupt
  /-- It forgets its key. -/
  | forget
  /-- It cancels its promise. -/
  | cancel
  /-- It gets what a promise was settled with. -/
  | wake
  /-- It finds its promise cancelled and asks again. -/
  | retry

/-- A step of a request. -/
structure Event (ι : Type) where
  /-- The request. -/
  who : ι
  /-- What it does. -/
  action : Action

/-- Builds that are shared by requests. -/
structure Traffic (ι : Type) where
  /-- The builds. -/
  builds : Builds
  /-- Where each request stands. -/
  phase : ι → Phase

variable {ι : Type}

section Step

variable [DecidableEq ι]

/-- What a step of a request leaves behind. -/
def Traffic.next (t : Traffic ι) (b : Builds) (i : ι) (p : Phase) : Traffic ι where
  builds := b
  phase := Function.update t.phase i p

/-- A step of a request. -/
inductive Step (what : ι → Run.Build) (t : Traffic ι) : Event ι → Traffic ι → Prop where
  | start {i : ι} {n : Nat} {b : Builds} (hp : t.phase i = .asking)
      (hb : t.builds.claim (what i).key = (n, true, b)) :
    Step what t ⟨i, .start⟩ (t.next b i (.building n))
  | join {i : ι} {n : Nat} {b : Builds} (hp : t.phase i = .asking)
      (hb : t.builds.claim (what i).key = (n, false, b)) :
    Step what t ⟨i, .join⟩ (t.next b i (.waiting n))
  | finish {i : ι} {n : Nat} (hp : t.phase i = .building n) (outcome : BuildOutcome) :
    Step what t ⟨i, .finish outcome⟩ (t.next t.builds i (.settling n outcome))
  | settle {i : ι} {n : Nat} {outcome : BuildOutcome} (hp : t.phase i = .settling n outcome) :
    Step what t ⟨i, .settle⟩ (t.next (t.builds.settle n outcome) i (.answered outcome))
  | interrupt {i : ι} {n : Nat} (hp : t.phase i = .building n) :
    Step what t ⟨i, .interrupt⟩ (t.next t.builds i (.forgetting n))
  | forget {i : ι} {n : Nat} (hp : t.phase i = .forgetting n) :
    Step what t ⟨i, .forget⟩ (t.next (t.builds.forget (what i).key) i (.cancelling n))
  | cancel {i : ι} {n : Nat} (hp : t.phase i = .cancelling n) :
    Step what t ⟨i, .cancel⟩ (t.next (t.builds.cancel n) i .interrupted)
  | wake {i : ι} {n : Nat} {outcome : BuildOutcome} (hp : t.phase i = .waiting n)
      (hb : t.builds.promise? n = some (.settled outcome)) :
    Step what t ⟨i, .wake⟩
      (t.next t.builds i (.answered (Builds.reused (what i).description outcome)))
  | retry {i : ι} {n : Nat} (hp : t.phase i = .waiting n)
      (hb : t.builds.promise? n = some .cancelled) :
    Step what t ⟨i, .retry⟩ (t.next t.builds i .asking)

/-- Steps of requests in any order, from the beginning. -/
inductive Runs (what : ι → Run.Build) : List (Event ι) → Traffic ι → Prop where
  | nil : Runs what [] ⟨{}, fun _ => .asking⟩
  | snoc {l : List (Event ι)} {t t' : Traffic ι} {e : Event ι} (h : Runs what l t)
      (hs : Step what t e t') : Runs what (l ++ [e]) t'

end Step

/-! ## Events -/

/-- The request that starts a build in a step. -/
def Event.starter? (e : Event ι) : Option ι :=
  match e.action with
  | .start => some e.who
  | _ => none

/-- The requests that have started builds, in order. The request that owns a promise is found in
this list under the number of the promise. -/
def starters (l : List (Event ι)) : List ι := l.filterMap Event.starter?

end Sharing

end CompilerTest

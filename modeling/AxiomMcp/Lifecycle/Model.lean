/-
**The lifecycle of a gateway.**

The `Lifecycle` of `lifecycle.py` with a guard, whose methods are called from any number of threads. A
method is a program over `GuardOp`, the steps of the guard's engine, and `LifeOp`, the blocks that the
lifecycle runs under its condition; each of them is one step.

* `query`, `drain`, `shutdown`: the methods; `waitForQueries` is unrolled `rounds` times;
* `Shared`: the guard, the counters and the stored outcome, with the history of each thread and each query;
* `thread`: what a thread's steps do to the shared state.
-/

import Mathlib.Data.Finset.Card
import AxiomMcp.Lib.Threads
import AxiomMcp.Guard.Invariant

namespace AxiomMcp.Lifecycle

open Lib Program Machine Guard

/-! ### Methods -/

/-- `DEFAULT_DRAIN_TIMEOUT_S` -/
def defaultDrainTimeoutS : ℚ := 5

/-- `MAX_DRAIN_TIMEOUT_S` -/
def maxDrainTimeoutS : ℚ := 60

/-- What a bounded drain observed. -/
structure DrainOutcome where
  drained : Bool
  finished : ℤ
  cancelled : ℤ
  remaining : ℤ
  elapsedS : ℚ
  guardsHeld : List Text
  deriving DecidableEq

/-- The steps of a lifecycle. -/
inductive LifeOp
  /-- Under the condition: refused while draining, else `self._in_flight += 1`. -/
  | admission
  /-- Under the condition: `self._in_flight -= 1` and `self._finished += 1`. -/
  | exit
  /-- The block of the caller, inside `with lifecycle.query()`. -/
  | work
  /-- `self.start_drain()` -/
  | startDrain
  /-- One round of `_wait_for_queries` under the condition: the number of queries in flight, if it is 0 or
  the deadline has passed; else the round waits. -/
  | poll (deadline : ℚ)
  /-- `self._clock()` -/
  | clock
  /-- Under the condition: `self._cancelled += remaining`. -/
  | countCancelled (remaining : ℤ)
  /-- Under the condition: `self._finished`. -/
  | readFinished
  /-- `self._guard.held_names` -/
  | heldNames
  /-- Under the condition: the stored outcome, if there was a shutdown. -/
  | readOutcome
  /-- Under the condition: `self._shutdown = True` and `self._outcome = outcome`. -/
  | remember (outcome : DrainOutcome)
  deriving DecidableEq

abbrev LifeReply : LifeOp → Type
  | .admission => Bool
  | .exit => Unit
  | .work => Except Raised Unit
  | .startDrain => Unit
  | .poll _ => Option ℤ
  | .clock => ℚ
  | .countCancelled _ => Unit
  | .readFinished => ℤ
  | .heldNames => List Text
  | .readOutcome => Option DrainOutcome
  | .remember _ => Unit

/-- A step of a method. -/
abbrev Op := GuardOp ⊕ LifeOp

abbrev Reply : Op → Type := Sum.elim GuardReply LifeReply

/-- A part of a method. -/
abbrev LifeProgram (α : Type) := Program Op Reply Raised α

/-- What a method returns. -/
inductive Answer
  | answered
  | drained (outcome : DrainOutcome)
  | shutDown (outcome : DrainOutcome)

/-- A part of the guard's engine. -/
def inject : GuardProgram Unit → LifeProgram Unit := embed Sum.inl fun _ reply => reply

/-- Ask one step. -/
def life (op : LifeOp) : LifeProgram (LifeReply op) := .call (.inr op) .done

/-- The refusal of a query while draining. -/
def notReady : Raised :=
  .gateway "NOT_READY" "the gateway is draining and is not accepting new queries"

/-- What a lifecycle was made with. -/
structure Settings where
  interpreter : Interpreter
  guard : Guard.Settings
  /-- `drain_timeout_s` -/
  drainTimeoutS : ℚ
  bounded : 0 < drainTimeoutS ∧ drainTimeoutS ≤ maxDrainTimeoutS

variable (settings : Settings) (rounds : ℕ)

/-- The block of the caller. -/
def block : LifeProgram Unit := .call (.inr .work) ofExcept

/-- `with self._guard.reader(): yield self._guard` -/
def guarded : LifeProgram Unit :=
  ordered settings.interpreter settings.guard rounds inject readerSpecs readerEarly 1 block

/-- `with lifecycle.query(): ...` -/
def query : LifeProgram Answer :=
  .call (.inr .admission) fun (admitted : Bool) =>
    if admitted then do
      (guarded settings rounds).ensure (life .exit)
      .done .answered
    else .raise notReady

/-- `self._resolve_budget(timeout_s)` of a number or none. -/
def resolveBudget (timeout : Option ℚ) : Except Raised ℚ :=
  match timeout with
  | none => .ok settings.drainTimeoutS
  | some timeout =>
    if 0 < timeout ∧ timeout ≤ maxDrainTimeoutS then .ok timeout
    else .error (.gateway "LIMIT_EXCEEDED" "drain timeout must be in (0, 60.0]")

/-- The loop of `self._wait_for_queries(budget)`. -/
def waitForQueries (deadline : ℚ) : ℕ → LifeProgram ℤ
  | 0 => .stuck (.inr (.poll deadline))
  | rounds + 1 =>
    .call (.inr (.poll deadline)) fun remaining =>
      match remaining with
      | some remaining => .done remaining
      | none => waitForQueries deadline rounds

/-- What a drain does about the queries that remain. -/
def cutShort (remaining : ℤ) : LifeProgram Unit :=
  if remaining ≠ 0 then do
    life (.countCancelled remaining)
    inject releaseAll
  else .done ()

/-- `self.drain(timeout_s)` -/
def drain (timeout : Option ℚ) : LifeProgram DrainOutcome := do
  life .startDrain
  let budget ← ofExcept (resolveBudget settings timeout)
  let started ← life .clock
  let now ← life .clock
  let remaining ← waitForQueries (now + budget) rounds
  let ended ← life .clock
  cutShort remaining
  let finished ← life .readFinished
  let names ← life .heldNames
  .done ⟨remaining = 0, finished, remaining, remaining, ended - started, names⟩

/-- `self.shutdown(timeout_s)` -/
def shutdown (timeout : Option ℚ) : LifeProgram DrainOutcome :=
  .call (.inr .readOutcome) fun stored =>
    match stored with
    | some outcome => .done outcome
    | none => do
      let outcome ← drain settings rounds timeout
      inject releaseAll
      let names ← life .heldNames
      let outcome := if names ≠ outcome.guardsHeld then { outcome with guardsHeld := names } else outcome
      life (.remember outcome)
      .done outcome

/-- What a thread may call. -/
inductive Begins {ι : Type} (i : ι) : LifeProgram Answer → Prop
  | query (settings : Settings) (rounds : ℕ) : Begins i (query settings rounds)
  | drain (settings : Settings) (rounds : ℕ) (timeout : Option ℚ) :
      Begins i (drain settings rounds timeout >>= fun outcome => .done (.drained outcome))
  | shutdown (settings : Settings) (rounds : ℕ) (timeout : Option ℚ) :
      Begins i (shutdown settings rounds timeout >>= fun outcome => .done (.shutDown outcome))

/-! ### The shared state -/

/-- Where a thread stands: outside of a query, on its way into one, or in its block and after. -/
inductive Phase
  | outside | entering | inside
  deriving DecidableEq

/-- The history of a thread. -/
structure Own where
  phase : Phase
  /-- How many queries of its own have exited. -/
  queries : ℕ
  /-- Handles it was granted a lock on, which are neither stored nor closed yet. -/
  taking : List Handle
  /-- It has called `start_drain`. -/
  drained : Bool
  /-- A wait of its own for queries has ended. -/
  waited : Bool
  /-- The queries its wait found left, until it has counted them. -/
  owed : ℤ
  /-- It has seen that no guard was held, itself or by the stored outcome. -/
  sure : Bool
  deriving DecidableEq

/-- A lifecycle, its guard and its history. -/
structure Shared (ι : Type) where
  guard : SolutionGuard
  /-- Handles that were popped from the guard's table and are not closed yet. -/
  letting : List Handle
  inFlight : ℤ
  finished : ℤ
  cancelled : ℤ
  draining : Bool
  /-- `self._outcome`, once `self._shutdown` is set. -/
  outcome : Option DrainOutcome
  /-- How many queries were admitted and have exited. -/
  admitted : ℕ
  exited : ℕ
  /-- The queries in flight, each by its thread and its number there. -/
  flying : Finset (ι × ℕ)
  /-- The queries that were in flight when some wait for them was given up. -/
  lost : Finset (ι × ℕ)
  own : ι → Own

/-- A thread that has done nothing. -/
def Own.initial : Own := ⟨.outside, 0, [], false, false, 0, false⟩

/-- A lifecycle that was just made. -/
def Shared.initial {ι : Type} : Shared ι :=
  ⟨.initial, [], 0, 0, 0, false, none, 0, 0, ∅, ∅, fun _ => .initial⟩

/-- A step of the guard's engine in the history of the thread that takes it. -/
def Own.guardStep (own : Own) : (op : GuardOp) → GuardReply op → Own
  | .tryLock handle _, .ok _ => { own with taking := handle :: own.taking }
  | .store entry, _ => { own with taking := own.taking.filter (· ≠ entry.handle) }
  | .closeHandle handle, _ => { own with taking := own.taking.filter (· ≠ handle) }
  | _, _ => own

/-- A step of the guard's engine in the list of handles that are let go. -/
def lettingStep (letting : List Handle) : (op : GuardOp) → GuardReply op → List Handle
  | .pop _, some entry => entry.handle :: letting
  | .closeHandle handle, _ => letting.filter (· ≠ handle)
  | _, _ => letting

/-- A step of the lifecycle in the history of the thread that takes it. -/
def Own.lifeStep (own : Own) : (op : LifeOp) → LifeReply op → Own
  | .admission, admitted => if admitted then { own with phase := .entering } else own
  | .exit, _ => { own with phase := .outside, queries := own.queries + 1 }
  | .work, _ => { own with phase := .inside }
  | .startDrain, _ => { own with drained := true }
  | .poll _, some remaining => { own with waited := true, owed := remaining }
  | .countCancelled _, _ => { own with owed := 0 }
  | .heldNames, names => { own with sure := names = [] }
  | .readOutcome, some outcome => { own with sure := outcome.guardsHeld = [] }
  | _, _ => own

variable {ι : Type} [DecidableEq ι]

/-- Replace the history of one thread. -/
def Shared.setOwn (s : Shared ι) (i : ι) (own : Own) : Shared ι :=
  { s with own := Function.update s.own i own }

/-- What a step of the lifecycle changes, the history of its thread aside. -/
def Shared.lifeStep (s : Shared ι) (i : ι) : (op : LifeOp) → LifeReply op → Shared ι
  | .admission, admitted =>
    if admitted then
      { s with inFlight := s.inFlight + 1, admitted := s.admitted + 1,
               flying := insert (i, (s.own i).queries) s.flying }
    else s
  | .exit, _ =>
    { s with inFlight := s.inFlight - 1, finished := s.finished + 1, exited := s.exited + 1,
             flying := s.flying.erase (i, (s.own i).queries) }
  | .startDrain, _ => { s with draining := true }
  | .poll _, some remaining => if remaining ≠ 0 then { s with lost := s.lost ∪ s.flying } else s
  | .countCancelled remaining, _ => { s with cancelled := s.cancelled + remaining }
  | .remember outcome, _ => { s with outcome := some outcome }
  | _, _ => s

/-- How a step of the lifecycle is answered. -/
def Shared.answers (s : Shared ι) : (op : LifeOp) → LifeReply op → Prop
  | .admission, admitted => admitted = !s.draining
  | .poll _, some remaining => remaining = s.inFlight
  | .poll _, none => s.inFlight ≠ 0
  | .readFinished, finished => finished = s.finished
  | .heldNames, names => names = s.guard.held.map HeldLock.name
  | .readOutcome, stored => stored = s.outcome
  | _, _ => True

/-- The steps of one thread. -/
def thread (i : ι) : Machine Op Reply (Shared ι) where
  permits s op := match op with
    | .inl op => machine.permits s.guard op
    | .inr op => s.answers op
  after s op := match op with
    | .inl op => fun reply => Shared.setOwn
        { s with guard := machine.after s.guard op reply, letting := lettingStep s.letting op reply } i
        ((s.own i).guardStep op reply)
    | .inr op => fun reply => (s.lifeStep i op reply).setOwn i ((s.own i).lifeStep op reply)

/-- Threads that call one lifecycle. -/
abbrev Gateway (ι : Type) := Config ι Op Reply Raised Answer (Shared ι)

/-- No thread has called anything. -/
def Gateway.initial : Gateway ι := ⟨.initial, fun _ => .done .answered⟩

/-! ### Surroundings -/

/-- Surroundings in which nothing fails, and every wait for queries is at its deadline. -/
def hasty (s : Shared ι) : (op : Op) → Reply op
  | .inl op => surroundings (fun _ => none) [] s.guard op
  | .inr .admission => !s.draining
  | .inr .exit => ()
  | .inr .work => .ok ()
  | .inr .startDrain => ()
  | .inr (.poll _) => some s.inFlight
  | .inr .clock => (0 : ℚ)
  | .inr (.countCancelled _) => ()
  | .inr .readFinished => s.finished
  | .inr .heldNames => s.guard.held.map HeldLock.name
  | .inr .readOutcome => s.outcome
  | .inr (.remember _) => ()

theorem hasty_permitted (i : ι) (s : Shared ι) (op : Op) : (thread i).permits s op (hasty s op) := by
  cases op with
  | inl op => exact surroundings_legal (fun _ => none) [] s.guard op
  | inr op => cases op <;> first | rfl | exact trivial

/-- A lifecycle with default options. -/
def defaults : Settings := ⟨.ascii, defaultSettings, defaultDrainTimeoutS, by decide⟩

end AxiomMcp.Lifecycle

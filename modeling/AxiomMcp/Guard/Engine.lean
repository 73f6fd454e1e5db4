/-
**The engine of the solution guard.**

A `SolutionGuard` of `guard/engine.py` over the two lock files that `guard/protocol.py` declares. The
engine is a program over `GuardOp`: reads and writes of the guard's own table, and what it asks the
platform backend, the file system, the clock and the caller.

* `acquireOne`: the checks, the verified open, the bounded wait and the entry in the table;
* `release`, `releaseAll`, `close`;
* `enter`, `ordered`: the steps of an acquisition, tried again after a timeout or a cancellation, and what
  is released around the body; `reader` and `publisher` are two lists of steps.

The wait of `acquireOne` ends by the clock only. `rounds` bounds how often its loop is unrolled; what is
proved holds for all.
-/

import Mathlib.Algebra.Order.Floor.Ring
import Mathlib.Data.Rat.Floor
import AxiomMcp.Lib.Program
import AxiomMcp.Exceptions

namespace AxiomMcp.Guard

open Lib

/-! ### The protocol -/

/-- `LOCK_FILE_NAMES` -/
def lockFileNames : List Text := ["admission.lock", "data.lock"]

/-- `ACQUISITION_ORDER` -/
def acquisitionOrder : List Text := lockFileNames

/-- `RELEASE_ORDER` -/
def releaseOrder : List Text := lockFileNames.reverse

/-- `DEFAULT_TIMEOUT_MS` -/
def defaultTimeoutMs : ℕ := 5000

/-- `MAX_TIMEOUT_MS` -/
def maxTimeoutMs : ℕ := 60000

/-- `RETRY_INITIAL_MS` -/
def retryInitialMs : ℕ := 25

/-- `RETRY_MAX_MS` -/
def retryMaxMs : ℕ := 250

/-- `IDENTITY_OPEN_ATTEMPTS` -/
def identityOpenAttempts : ℕ := 3

/-- `IDENTITY_REOPEN_PAUSE_S` -/
def identityReopenPauseS : ℚ := 1 / 100

/-- `ACQUISITION_ORDER.index(name)` -/
def position (name : Text) : ℕ := acquisitionOrder.idxOf name

/-- The two modes the protocol declares. -/
inductive LockMode
  | shared | exclusive
  deriving DecidableEq

/-- `mode.value` -/
def LockMode.value : LockMode → Text
  | .shared => "shared"
  | .exclusive => "exclusive"

/-- An opened guard file, by the number of handles its guard had opened before. -/
abbrev Handle := ℕ

/-- A guard that is held. -/
structure HeldLock where
  name : Text
  mode : LockMode
  handle : Handle
  deriving DecidableEq

/-! ### What the engine asks -/

/-- The operations of the engine. -/
inductive GuardOp
  /-- `self._closed` -/
  | isClosed
  /-- `self._held.get(name)` -/
  | heldGet (name : Text)
  /-- The entries of `self._held`, in order of insertion. -/
  | heldTable
  /-- `self._held[name] = entry` -/
  | store (entry : HeldLock)
  /-- `self._held.pop(name, None)` -/
  | pop (name : Text)
  /-- `self._closed = True` -/
  | markClosed
  /-- `os.makedirs(self._directory, mode=0o700, exist_ok=True)` -/
  | makeDirectory
  /-- `self._backend.open(path)` -/
  | openFile (name : Text)
  /-- `handle.identity()` -/
  | identity (handle : Handle)
  /-- `protocol.file_identity(path)` -/
  | fileIdentity (name : Text)
  /-- `handle.acquire(mode)` -/
  | tryLock (handle : Handle) (mode : LockMode)
  /-- `handle.release()` -/
  | unlock (handle : Handle)
  /-- `handle.close()` -/
  | closeHandle (handle : Handle)
  /-- `self._cancel()` -/
  | cancelled
  /-- `self._clock()` -/
  | clock
  /-- `self._sleep(seconds)` -/
  | sleep (seconds : ℚ)
  deriving DecidableEq

/-- What an operation is answered with. -/
abbrev GuardReply : GuardOp → Type
  | .isClosed => Bool
  | .heldGet _ => Option HeldLock
  | .heldTable => List HeldLock
  | .store _ => Unit
  | .pop _ => Option HeldLock
  | .markClosed => Unit
  | .makeDirectory => Except Raised Unit
  | .openFile _ => Except Raised Handle
  | .identity _ => Except Raised Text
  | .fileIdentity _ => Except OSFault Text
  | .tryLock _ _ => Except Raised Unit
  | .unlock _ => Except Raised Unit
  | .closeHandle _ => Except Raised Unit
  | .cancelled => Except Raised Bool
  | .clock => ℚ
  | .sleep _ => Except Raised Unit

/-- A part of the engine. -/
abbrev GuardProgram (α : Type) := Program GuardOp GuardReply Raised α

open Program

def makeDirectory : GuardProgram Unit := .call .makeDirectory ofExcept

def openFile (name : Text) : GuardProgram Handle := .call (.openFile name) ofExcept

def identity (handle : Handle) : GuardProgram Text := .call (.identity handle) ofExcept

/-- `identity_of_stat(os.stat(path))` -/
def fileIdentity (name : Text) : GuardProgram Text :=
  .call (.fileIdentity name) fun reply => ofExcept (reply.mapError .os)

def unlock (handle : Handle) : GuardProgram Unit := .call (.unlock handle) ofExcept

def closeHandle (handle : Handle) : GuardProgram Unit := .call (.closeHandle handle) ofExcept

def clock : GuardProgram ℚ := .call .clock .done

def sleep (seconds : ℚ) : GuardProgram Unit := .call (.sleep seconds) ofExcept

/-! ### Errors -/

/-- `GuardError(reason, message, lock=name)` -/
def guardError (reason message : Text) (lock : Option Text) : Raised :=
  .guard ⟨.guardError, reason, message, lock, none⟩

/-- `GuardTimeout(name, elapsed_ms=elapsed, timeout_ms=timeout)` -/
def guardTimeout (name : Text) (elapsed : ℤ) (timeoutMs : ℕ) : Raised :=
  .guard ⟨.timeout, "lock_timeout",
    Text.format ["bounded wait of ", Text.ofNat timeoutMs,
      " ms elapsed without acquiring the guard; every acquired guard was released in reverse ",
      "acquisition order"],
    some name, some elapsed⟩

/-- `GuardCancelled(name, elapsed_ms=elapsed)` -/
def guardCancelled (name : Text) (elapsed : ℤ) : Raised :=
  .guard ⟨.cancelled, "cancelled",
    Text.format ["the caller cancelled the bounded wait; every acquired guard was released in ",
      "reverse acquisition order"], some name, some elapsed⟩

/-- `isinstance(exc, GuardBusy)` -/
def isBusy : Raised → Bool
  | .guard error => error.kind = .busy
  | _ => false

/-- `isinstance(exc, (GuardTimeout, GuardCancelled))` -/
def endsWait : Raised → Bool
  | .guard error => error.kind = .timeout || error.kind = .cancelled
  | _ => false

/-! ### The guard -/

/-- What a `SolutionGuard` was made with. -/
structure Settings where
  /-- `str(self._directory)` -/
  directory : Text
  timeoutMs : ℕ
  /-- A `cancel` callback was given. -/
  cancellable : Bool
  /-- `resolve_timeout_ms` accepted the budget. -/
  bounded : 0 < timeoutMs ∧ timeoutMs ≤ maxTimeoutMs

/-- `resolve_timeout_ms(timeout_ms)` of an integer or none. -/
def resolveTimeoutMs : Option ℤ → Except Raised ℕ
  | none => .ok defaultTimeoutMs
  | some timeout =>
    if timeout ≤ 0 then
      .error (guardError "invalid_timeout" (Text.format ["timeout_ms must be positive, got ",
        Text.ofInt timeout, "; unbounded blocking is not permitted"]) none)
    else if maxTimeoutMs < timeout then
      .error (guardError "invalid_timeout" (Text.format ["timeout_ms ", Text.ofInt timeout,
        " exceeds the protocol maximum ", Text.ofNat maxTimeoutMs]) none)
    else .ok timeout.toNat

/-- `str(self._paths[name])` -/
def Settings.path (settings : Settings) (name : Text) : Text :=
  Text.format [settings.directory, "/", name]

/-- `int(round(value))`: the nearest integer, the even one of two. -/
def roundHalfEven (value : ℚ) : ℤ :=
  let below := ⌊value⌋
  let rest := value - below
  if rest < 1 / 2 then below
  else if 1 / 2 < rest then below + 1
  else if below % 2 = 0 then below else below + 1

/-- `self._elapsed_ms(started)` -/
def elapsedMs (started : ℚ) : GuardProgram ℤ := do
  let now ← clock
  .done (roundHalfEven ((now - started) * 1000))

variable (py : Interpreter) (settings : Settings) (rounds : ℕ)

/-- The refusal of a name that is no guard file. -/
def unknownLock (name : Text) : Raised :=
  guardError "unknown_lock" (Text.format [name.pyRepr py.isPrintable,
    " is not one of the declared guard files (", Text.join ", " lockFileNames, ")"]) (some name)

/-- The refusal of a guard that is held already: as an upgrade or as a recursion. -/
def alreadyHeld (held : HeldLock) (name : Text) (mode : LockMode) : Raised :=
  if held.mode ≠ mode then
    guardError "lock_upgrade" (Text.format [name, " is already held ", held.mode.value,
      "; release and retry from the start of the acquisition order instead of upgrading"]) (some name)
  else
    guardError "recursive_acquire" (Text.format [name,
      " is already held by this guard in this execution path"]) (some name)

/-- The refusal of a guard that comes before one that is held. -/
def orderViolation (already : HeldLock) (name : Text) : Raised :=
  guardError "order_violation" (Text.format [already.name, " is held; the acquisition order is ",
    Text.join ", " acquisitionOrder, " on every platform"]) (some name)

/-- `self._open_verified(path, name)` with so many attempts left, after the identities `last`. -/
def openVerifiedFrom (name : Text) : ℕ → Option (Text × Text) → GuardProgram Handle
  | 0, last =>
    let seen : Text := match last with
      | some (opened, current) => Text.format ["(", opened.pyRepr py.isPrintable, ", ",
          current.pyRepr py.isPrintable, ")"]
      | none => "None"
    .raise (guardError "identity_mismatch" (Text.format [settings.path name,
      " changed identity while it was opened (", seen,
      "); refusing to lock a file that is not the named guard file"]) (some name))
  | attempts + 1, _ => do
    let handle ← openFile name
    let identities : GuardProgram (Text × Text) := do
      let opened ← identity handle
      let current ← fileIdentity name
      .done (opened, current)
    identities.resume fun outcome =>
      match outcome with
      -- `except OSError`; what else `identity()` raises passes, and the handle stays open
      | .error (.os fault) => do
        closeHandle handle
        .raise (guardError "identity_unreadable" (Text.format ["cannot verify the identity of ",
          settings.path name, ": ", fault.text]) (some name))
      | .error raised => .raise raised
      | .ok (opened, current) =>
        if opened = current then .done handle
        else do
          closeHandle handle
          sleep identityReopenPauseS
          openVerifiedFrom name attempts (some (opened, current))

/-- `self._open_verified(path, name)` -/
def openVerified (name : Text) : GuardProgram Handle :=
  openVerifiedFrom py settings name identityOpenAttempts none

/-- Raise `GuardCancelled` if the caller cancels. -/
def checkCancelled (name : Text) (started : ℚ) : GuardProgram Unit :=
  if settings.cancellable then do
    let cancelled ← (.call .cancelled ofExcept : GuardProgram Bool)
    if cancelled then do
      let elapsed ← elapsedMs started
      .raise (guardCancelled name elapsed)
    else .done ()
  else .done ()

/-- The bounded wait, with the pause `delay` before its next attempt. -/
def waitFor (name : Text) (mode : LockMode) (handle : Handle) (started deadline : ℚ) :
    ℕ → ℚ → GuardProgram Unit
  | 0, _ => .stuck (.tryLock handle mode)
  | rounds + 1, delay => do
    checkCancelled settings name started
    .call (.tryLock handle mode) fun attempted =>
      match attempted with
      | .ok _ => .done ()
      | .error raised =>
        if isBusy raised then do
          let now ← clock
          let remaining := deadline - now
          if remaining ≤ 0 then do
            let elapsed ← elapsedMs started
            .raise (guardTimeout name elapsed settings.timeoutMs)
          else do
            sleep (min delay remaining)
            waitFor name mode handle started deadline rounds (min (delay * 2) (retryMaxMs / 1000))
        else .raise raised

/-- The wait for an opened guard file, which is closed if the wait fails, and the entry it gets. -/
def lockOpened (name : Text) (mode : LockMode) (handle : Handle) : GuardProgram HeldLock := do
  let started ← clock
  let deadline := started + settings.timeoutMs / 1000
  (waitFor settings name mode handle started deadline rounds (retryInitialMs / 1000)).resume
    fun outcome =>
      match outcome with
      | .error raised => do
        closeHandle handle
        .raise raised
      | .ok _ =>
        .call (.store ⟨name, mode, handle⟩) fun _ => .done ⟨name, mode, handle⟩

/-- `self._acquire_one(name, mode)` -/
def acquireOne (name : Text) (mode : LockMode) : GuardProgram HeldLock :=
  if name ∉ lockFileNames then .raise (unknownLock py name)
  else
    .call .isClosed fun (closed : Bool) =>
      if closed then .raise (guardError "closed" "this guard was closed" (some name))
      else
        .call (.heldGet name) fun held =>
          match held with
          | some held => .raise (alreadyHeld held name mode)
          | none =>
            .call .heldTable fun table =>
              match table.find? fun already => position name < position already.name with
              | some already => .raise (orderViolation already name)
              | none => do
                makeDirectory
                let handle ← openVerified py settings name
                lockOpened settings rounds name mode handle

/-- `self._release_held(held)` -/
def releaseHeld (held : HeldLock) : GuardProgram Unit :=
  (unlock held.handle).ensure (closeHandle held.handle)

/-- `self.release(name)` -/
def release (name : Text) : GuardProgram Unit :=
  .call (.pop name) fun popped =>
    match popped with
    | none => .raise (guardError "not_held" (Text.format [name, " is not held by this guard"])
        (some name))
    | some held => releaseHeld held

/-- `[name for name in names if name in self._held]` -/
def presentNames : List Text → GuardProgram (List Text)
  | [] => .done []
  | name :: rest =>
    .call (.heldGet name) fun held => do
      let later ← presentNames rest
      .done (if held.isSome then name :: later else later)

/-- The names `release_all` releases, in its order. -/
def releaseNames : GuardProgram (List Text) := do
  let order ← presentNames releaseOrder
  .call .heldTable fun table =>
    .done (order ++ (table.map HeldLock.name).reverse.filter fun name => name ∉ order)

/-- One round of the loop of `release_all`: what it adds to the failures. -/
def releaseNamed (name : Text) : GuardProgram (List Text) :=
  .call (.pop name) fun popped =>
    match popped with
    | none => .done []
    | some held =>
      (releaseHeld held).resume fun outcome =>
        match outcome with
        | .ok _ => .done []
        | .error (.os fault) => .done [Text.format [name, ": ", fault.text]]
        | .error raised => .raise raised

/-- The loop of `release_all`, with the failures met so far. -/
def releaseEach : List Text → List Text → GuardProgram Unit
  | [], failures =>
    if failures = [] then .done ()
    else .raise (guardError "release_failed" (Text.join "; " failures) none)
  | name :: rest, failures => do
    let failed ← releaseNamed name
    releaseEach rest (failures ++ failed)

/-- `self.release_all()` -/
def releaseAll : GuardProgram Unit := do
  let names ← releaseNames
  releaseEach names []

/-- `self.close()` -/
def close : GuardProgram Unit := do
  releaseAll
  .call .markClosed fun _ => .done ()

/-! ### Ordered acquisition -/

/-- A step of an acquisition: take a guard, or drop one early. -/
inductive Step
  | take (name : Text) (mode : LockMode)
  | drop (name : Text)
  deriving DecidableEq

/-- The steps of `ordered(specs, release_early=early)`. -/
def stepsOf (specs : List (Text × LockMode)) (early : List Text) : List Step :=
  specs.map (fun spec => .take spec.1 spec.2) ++ early.map .drop

/-- One step. -/
def Step.program : Step → GuardProgram Unit
  | .take name mode => do
    let _ ← acquireOne py settings rounds name mode
    .done ()
  | .drop name => release name

/-- One attempt at all steps. -/
def takeSteps : List Step → GuardProgram Unit
  | [] => .done ()
  | step :: rest => do
    step.program py settings rounds
    takeSteps rest

/-- So many attempts at all steps; `failure` is what ended the last one. -/
def enterFrom (steps : List Step) : ℕ → Raised → GuardProgram Unit
  | 0, failure => .raise failure
  | attempts + 1, _ =>
    (takeSteps py settings rounds steps).rescue fun raised =>
      if endsWait raised then do
        releaseAll
        enterFrom steps attempts raised
      else .raise raised

/-- `ordered(specs, attempts=attempts, release_early=early)` up to its `yield`. -/
def enter (specs : List (Text × LockMode)) (early : List Text) (attempts : ℤ) : GuardProgram Unit :=
  if attempts < 1 then
    .raise (guardError "invalid_attempts" (Text.format ["attempts must be a positive integer, got ",
      Text.ofInt attempts]) none)
  else
    enterFrom py settings rounds (stepsOf specs early) attempts.toNat
      (guardError "attempts_exhausted" "no acquisition attempt was made" none)

/-- `with self.ordered(specs, attempts=attempts, release_early=early): body`, where `inject` makes a part
of the engine a program over what the body asks. -/
def ordered {Op : Type} {Reply : Op → Type} {α : Type}
    (inject : GuardProgram Unit → Program Op Reply Raised Unit) (specs : List (Text × LockMode))
    (early : List Text) (attempts : ℤ) (body : Program Op Reply Raised α) : Program Op Reply Raised α := do
  inject (enter py settings rounds specs early attempts)
  body.ensure (inject releaseAll)

/-- The steps of `reader`. -/
def readerSpecs : List (Text × LockMode) := [("admission.lock", .shared), ("data.lock", .shared)]

/-- What `reader` releases early. -/
def readerEarly : List Text := ["admission.lock"]

/-- The steps of `publisher`. -/
def publisherSpecs : List (Text × LockMode) :=
  [("admission.lock", .exclusive), ("data.lock", .exclusive)]

end AxiomMcp.Guard

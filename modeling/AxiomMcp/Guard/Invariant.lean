/-
**The invariant of a guard over every run.**

A caller performs any operations on one `SolutionGuard`, one after another, each returning or raising
(`perform`). `guard_invariant` says what holds along every such run:

* the table is strictly increasing in the acquisition order at every step, and an entry is stored only if
  it is no recursion, no upgrade, in order and before `close`;
* an acquisition that raises leaves the table as it was;
* a handle is left behind, neither held nor closed, **exactly** if its `identity()` raised something else
  than an `OSError`: `openVerified` closes the handle on an `OSError` only, and the backends turn the
  `OSError` of `os.fstat` into a `GuardError` (`acquire_leaks`).
-/

import AxiomMcp.Guard.Release

namespace AxiomMcp.Guard

open Lib Program Machine

/-! ### Operations -/

/-- What a caller does with its guard. -/
inductive Operation
  | acquire (name : Text) (mode : LockMode)
  | release (name : Text)
  | releaseAll
  | close
  /-- Into `ordered(specs, attempts=attempts, release_early=early)`, as `reader` and `publisher` are. -/
  | enter (specs : List (Text × LockMode)) (early : List Text) (attempts : ℤ)
  /-- Out of the `with` block again. -/
  | leave

section Operations

variable (py : Interpreter) (settings : Settings) (rounds : ℕ)

def Operation.program : Operation → GuardProgram Unit
  | .acquire name mode => do
    let _ ← acquireOne py settings rounds name mode
    .done ()
  | .release name => Guard.release name
  | .releaseAll => Guard.releaseAll
  | .close => Guard.close
  | .enter specs early attempts => Guard.enter py settings rounds specs early attempts
  | .leave => Guard.releaseAll

/-- The operations one after another, whether they return or raise. -/
def perform : List Operation → GuardProgram Unit
  | [] => .done ()
  | operation :: rest => (operation.program py settings rounds).resume fun _ => perform rest

end Operations

/-! ### What holds inside every operation -/

/-- Where a guard may stand when its engine asks something. -/
inductive Within : SolutionGuard → GuardOp → Prop
  | amid {start guard : SolutionGuard} {name : Text} {mode : LockMode} {op : GuardOp} (sound : Sound start)
      (amid : Amid start name mode guard op) : Within guard op
  | letting {inv : SolutionGuard → Prop} {may : SolutionGuard → Text → Prop} {guard : SolutionGuard}
      {op : GuardOp} (letting : Letting inv may guard op) : Within guard op
  | closing {guard : SolutionGuard} (sound : Sound guard) : Within guard .markClosed

/-- A guard that may be stored: before `close`, no recursion or upgrade, and in order. -/
structure Admissible (guard : SolutionGuard) (name : Text) : Prop where
  isOpen : guard.closed = false
  absent : guard.get? name = none
  ordered : ∀ held ∈ guard.held, position held.name < position name

theorem Admits.admissible {start : SolutionGuard} {name : Text} (admits : Admits start name)
    (sound : Sound start) : Admissible start name := by
  refine ⟨admits.isOpen, admits.absent, fun held member => ?_⟩
  refine lt_of_le_of_ne (admits.ordered held member) fun same => ?_
  exact SolutionGuard.get?_eq_none.mp admits.absent held member
    (position_injective (sound.declared held member) same)

theorem Spent.ranked {start guard : SolutionGuard} (spent : Spent start guard) (sound : Sound start) :
    Ranked guard :=
  (sound.spent spent).ranked

theorem Within.ranked {guard : SolutionGuard} {op : GuardOp} (within : Within guard op) :
    Ranked guard := by
  cases within with
  | amid sound amid =>
    cases amid with
    | without spent quiet => exact spent.ranked sound
    | opened admits spent => exact spent.ranked sound
    | locked admits spent => exact spent.ranked sound
  | letting letting =>
    cases letting with
    | quiet sound => exact sound.ranked
    | pop sound => exact sound.ranked
    | unlock sound => exact sound.ranked.filter _
    | close sound => exact sound.ranked.filter _
  | closing sound => exact sound.ranked

theorem Within.admissible {guard : SolutionGuard} {entry : HeldLock}
    (within : Within guard (.store entry)) : Admissible guard entry.name := by
  cases within with
  | amid sound amid =>
    cases amid with
    | without spent quiet => exact quiet.elim
    | opened admits spent file lock isOpen wanted step =>
      rcases step with quiet | same
      · exact quiet.elim
      · cases same
    | locked admits spent =>
      have admissible := admits.admissible sound
      refine ⟨?_, ?_, ?_⟩
      · exact spent.closed.trans admissible.isOpen
      · exact (spent.get? _).trans admissible.absent
      · intro held member
        exact admissible.ordered held (spent.held ▸ member)
  | letting letting =>
    cases letting with
    | quiet sound holds quiet => exact quiet.elim

/-- No invariant but `Sound` is asked of a guard between releases. -/
def NoMore (_ : SolutionGuard) : Prop := True

theorem keptBelow_noMore : KeptBelow NoMore := fun _ _ _ _ _ _ _ => trivial

section Operations

variable {py : Interpreter} {settings : Settings} {rounds : ℕ} {guard : SolutionGuard}

theorem Acquired.sound {name : Text} {mode : LockMode} {outcome : Except Raised HeldLock}
    {start : SolutionGuard} (acquired : Acquired start name mode outcome guard) (sound : Sound start) :
    Sound guard := by
  cases outcome with
  | ok entry => exact sound.acquired acquired
  | error raised => exact sound.spent acquired

/-- An acquisition keeps the invariant. -/
theorem acquire_within (sound : Sound guard) (name : Text) (mode : LockMode) :
    machine.Along Within (fun _ guard => Sound guard)
      (do let _ ← acquireOne py settings rounds name mode; .done ()) guard := by
  refine ((acquireOne_along guard name mode).mono (fun _ _ => .amid sound) fun outcome after acquired =>
    acquired.sound sound).bind (fun _ _ sound => sound) fun _ _ sound => sound

theorem releaseOne_along (sound : Sound guard) (name : Text) :
    machine.Along (Letting NoMore fun _ _ => True) (ReleasedOne guard name) (release name) guard :=
  release_along sound trivial trivial

theorem release_within (sound : Sound guard) (name : Text) :
    machine.Along Within (fun _ guard => Sound guard) (release name) guard := by
  refine (releaseOne_along sound name).mono (fun _ _ => .letting) fun outcome after released => ?_
  rcases released with ⟨rfl, _⟩ | ⟨entry, member, _, rfl⟩
  · exact sound
  · exact sound.dropped member

theorem releaseAll_within (sound : Sound guard) :
    machine.Along Within (fun _ guard => Sound guard) releaseAll guard :=
  (releaseAll_along keptBelow_noMore sound trivial).mono (fun _ _ => .letting) fun _ _ released =>
    released.1.sound

theorem takeStep_within (sound : Sound guard) (step : Step) :
    machine.Along Within (fun _ guard => Sound guard) (step.program py settings rounds) guard := by
  cases step with
  | take name mode => exact acquire_within sound name mode
  | drop name => exact release_within sound name

theorem takeSteps_within (sound : Sound guard) (steps : List Step) :
    machine.Along Within (fun _ guard => Sound guard) (takeSteps py settings rounds steps) guard := by
  induction steps generalizing guard with
  | nil => exact sound
  | cons step rest ih =>
    exact (takeStep_within sound step).bind (fun _ _ sound => ih sound) fun _ _ sound => sound

theorem enterFrom_within (sound : Sound guard) (steps : List Step) (attempts : ℕ) (failure : Raised) :
    machine.Along Within (fun _ guard => Sound guard) (enterFrom py settings rounds steps attempts failure)
      guard := by
  induction attempts generalizing guard failure with
  | zero => exact sound
  | succ attempts ih =>
    refine (takeSteps_within sound steps).rescue (fun _ _ sound => sound) fun raised after sound => ?_
    split
    · exact (releaseAll_within sound).bind (fun _ _ sound => ih sound raised) fun _ _ sound => sound
    · exact sound

theorem operation_within (sound : Sound guard) (operation : Operation) :
    machine.Along Within (fun _ guard => Sound guard) (operation.program py settings rounds) guard := by
  cases operation with
  | acquire name mode => exact acquire_within sound name mode
  | release name => exact release_within sound name
  | releaseAll => exact releaseAll_within sound
  | close =>
    refine (releaseAll_within sound).bind (fun _ after sound => ?_) fun _ _ sound => sound
    exact along_call (.closing sound) fun _ _ =>
      ⟨sound.ranked, sound.declared, sound.backed, sound.others⟩
  | enter specs early attempts =>
    show machine.Along _ _ (enter py settings rounds specs early attempts) _
    unfold enter
    split
    · exact sound
    · exact enterFrom_within sound _ _ _
  | leave => exact releaseAll_within sound

theorem perform_within (sound : Sound guard) (operations : List Operation) :
    machine.Along Within (fun _ guard => Sound guard) (perform py settings rounds operations) guard := by
  induction operations generalizing guard with
  | nil => exact sound
  | cons operation rest ih =>
    exact (operation_within sound operation).resume fun _ _ sound => ih sound

end Operations

/-! ### Handles -/

/-- Every handle that was opened is held or closed. -/
def Accounted (guard : SolutionGuard) : Prop :=
  ∀ handle state, guard.handles[handle]? = some state →
    (∃ held ∈ guard.held, held.handle = handle) ∨ state.isOpen = false

/-- No `identity()` of a handle has raised anything but an `OSError`. -/
def Whole (handles : List HandleState) : Prop := ∀ state ∈ handles, state.lapsed = false

/-- Handles are left behind exactly by an `identity()` that raised something else than an `OSError`. -/
theorem Sound.accounted_iff {guard : SolutionGuard} (sound : Sound guard) :
    Accounted guard ↔ Whole guard.handles := by
  constructor
  · intro accounted state member
    obtain ⟨handle, found⟩ := List.mem_iff_getElem?.mp member
    rcases sound.others handle state found with ⟨held, there, rfl⟩ | settled
    · rw [sound.backed held there] at found
      exact congrArg HandleState.lapsed (Option.some.inj found).symm
    · rcases accounted handle state found with ⟨held, there, rfl⟩ | closed
      · rw [sound.backed held there] at found
        exact congrArg HandleState.lapsed (Option.some.inj found).symm
      · rw [← settled.isOpen, closed]
  · intro whole handle state found
    refine (sound.others handle state found).imp_right fun settled => ?_
    rw [settled.isOpen, whole state (List.mem_of_getElem? found)]

/-- The handles a guard has opened since it was `start`. -/
def SolutionGuard.since (guard start : SolutionGuard) : List HandleState :=
  guard.handles.drop start.handles.length

theorem Spent.closed_iff {start guard : SolutionGuard} (spent : Spent start guard) :
    (∀ state ∈ guard.since start, state.isOpen = false) ↔ Whole (guard.since start) := by
  obtain ⟨done, handles, settled⟩ := spent.handles
  have since : guard.since start = done := by
    rw [SolutionGuard.since, handles, List.drop_left]
  rw [since]
  exact forall₂_congr fun state member => by rw [(settled state member).isOpen]

/-- What one acquisition did: a success is admissible and adds its entry, a failure leaves the table, and
its own handles closed unless one lapsed. -/
def AllOrNothing (start : SolutionGuard) (outcome : Except Raised HeldLock) (guard : SolutionGuard) : Prop :=
  match outcome with
  | .ok entry => Admissible start entry.name ∧ guard.held = start.held ++ [entry]
  | .error _ => guard.held = start.held ∧
      ((∀ state ∈ guard.since start, state.isOpen = false) ↔ Whole (guard.since start))

/-- **The invariant of a guard over every run.** -/
theorem guard_invariant (py : Interpreter) (settings : Settings) (rounds : ℕ)
    (operations : List Operation) :
    machine.Along
      (fun guard op => Ranked guard ∧ ∀ entry, op = .store entry → Admissible guard entry.name)
      (fun _ guard => Ranked guard ∧ (Accounted guard ↔ Whole guard.handles) ∧
        ∀ name mode, machine.Along (fun _ _ => True) (AllOrNothing guard)
          (acquireOne py settings rounds name mode) guard)
      (perform py settings rounds operations) .initial := by
  refine (perform_within sound_initial operations).mono (fun guard op within => ?_)
    fun outcome guard sound => ?_
  · refine ⟨within.ranked, ?_⟩
    rintro entry rfl
    exact within.admissible
  · refine ⟨sound.ranked, sound.accounted_iff, fun name mode => ?_⟩
    refine (acquireOne_along guard name mode).mono (fun _ _ _ => trivial) fun outcome after acquired => ?_
    cases outcome with
    | ok entry =>
      obtain ⟨admits, mid, spent, rfl, rfl⟩ := acquired
      exact ⟨admits.admissible sound, rfl⟩
    | error raised => exact ⟨Spent.held acquired, Spent.closed_iff acquired⟩

/-! ### The handle that is left behind -/

/-- The settings of a guard that was made with defaults. -/
def defaultSettings : Settings := ⟨"/home/axiom/solution.guard", defaultTimeoutMs, false, by decide⟩

/-- What the backends raise for a handle whose `os.fstat` fails. -/
def identityUnreadable : Raised :=
  guardError "identity_unreadable" "cannot read the identity of admission.lock: I/O error"
    (some "admission.lock")

/-- Surroundings in which the identity of a handle cannot be read. -/
def unreadable : Surroundings := surroundings fun op =>
  match op with
  | .identity _ => some identityUnreadable
  | _ => none

/-- The identity of the handle that an acquisition has opened cannot be read: the acquisition raises, and
the handle stays open without being held. -/
theorem acquire_leaks : ∃ answer : Surroundings, Legal answer ∧ ∃ outcome calls guard,
    machine.run answer (perform .ascii defaultSettings 1 [.acquire "admission.lock" .shared]) [] .initial =
      some (outcome, calls, guard) ∧ ¬ Accounted guard := by
  refine ⟨unreadable, surroundings_legal _, ?_⟩
  have left : (machine.run unreadable (perform .ascii defaultSettings 1
      [.acquire "admission.lock" .shared]) [] .initial).map (fun ended => ended.2.2) =
        some ⟨[], false, [⟨"admission.lock", none, true, true, none⟩]⟩ := by decide +kernel
  obtain ⟨⟨outcome, calls, guard⟩, ran, rfl⟩ := Option.map_eq_some_iff.mp left
  refine ⟨outcome, calls, _, ran, fun accounted => ?_⟩
  rcases accounted 0 _ rfl with ⟨held, none, _⟩ | closed
  · cases none
  · cases closed

end AxiomMcp.Guard

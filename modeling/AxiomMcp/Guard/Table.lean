/-
**The state of a solution guard.**

A `SolutionGuard` is its table of held guards, whether it was closed, and the handles it has opened, each
with the lock the operating system has given it. `machine` says what the operations of the engine do to it
and how they may be answered: reads of the table as it stands, everything else in any way.

Two fields of a handle are history: that its `identity()` raised anything but an `OSError` (`lapsed`), and
the mode its last lock attempt lost the race for (`wanted`).
-/

import AxiomMcp.Guard.Engine

namespace AxiomMcp.Guard

open Lib

/-- A handle of a guard file. -/
structure HandleState where
  file : Text
  /-- The lock the operating system has granted it. -/
  lock : Option LockMode
  isOpen : Bool
  lapsed : Bool
  wanted : Option LockMode
  deriving DecidableEq

/-- A handle that was just opened. -/
def HandleState.fresh (name : Text) : HandleState := ⟨name, none, true, false, none⟩

/-- A guard: its table in order of acquisition, and all handles it has opened. -/
structure SolutionGuard where
  held : List HeldLock
  closed : Bool
  handles : List HandleState
  deriving DecidableEq

/-- A guard that was just made. -/
def SolutionGuard.initial : SolutionGuard := ⟨[], false, []⟩

namespace SolutionGuard

/-- `self._held.get(name)` -/
def get? (guard : SolutionGuard) (name : Text) : Option HeldLock :=
  guard.held.find? fun held => held.name = name

/-- `self._held[entry.name] = entry`, which keeps the place of a name that is there. -/
def store (guard : SolutionGuard) (entry : HeldLock) : SolutionGuard :=
  if entry.name ∈ guard.held.map HeldLock.name then
    { guard with held := guard.held.map fun held => if held.name = entry.name then entry else held }
  else { guard with held := guard.held ++ [entry] }

/-- `self._held.pop(name, None)` -/
def pop (guard : SolutionGuard) (name : Text) : SolutionGuard :=
  { guard with held := guard.held.filter fun held => held.name ≠ name }

/-- Change what is known of one handle. -/
def update (guard : SolutionGuard) (handle : Handle) (change : HandleState → HandleState) :
    SolutionGuard :=
  { guard with handles := guard.handles.modify handle change }

/-- One more handle. -/
def opened (guard : SolutionGuard) (state : HandleState) : SolutionGuard :=
  { guard with handles := guard.handles ++ [state] }

end SolutionGuard

/-- What a lock attempt does to its handle. -/
def HandleState.tried (mode : LockMode) (reply : Except Raised Unit) (state : HandleState) : HandleState :=
  match reply with
  | .ok _ => { state with lock := some mode, wanted := none }
  | .error raised => { state with wanted := if isBusy raised then some mode else none }

/-- What reading its identity does to the history of a handle. -/
def HandleState.read (reply : Except Raised Text) (state : HandleState) : HandleState :=
  match reply with
  | .ok _ => state
  | .error (.os _) => state
  | .error _ => { state with lapsed := true }

/-- What `release` does to a handle. -/
def HandleState.released (reply : Except Raised Unit) (state : HandleState) : HandleState :=
  match reply with
  | .ok _ => { state with lock := none }
  | .error _ => state

/-- What `close` does to a handle: the descriptor is gone and its lock with it, whatever it reports. -/
def HandleState.shut (state : HandleState) : HandleState :=
  { state with lock := none, isOpen := false, wanted := none }

/-- What an operation is answered with. -/
def permits (guard : SolutionGuard) : (op : GuardOp) → GuardReply op → Prop
  | .isClosed, reply => reply = guard.closed
  | .heldGet name, reply => reply = guard.get? name
  | .heldTable, reply => reply = guard.held
  | .pop name, reply => reply = guard.get? name
  | .openFile _, reply => ∀ handle, reply = .ok handle → handle = guard.handles.length
  | _, _ => True

/-- What an operation changes. -/
def after (guard : SolutionGuard) : (op : GuardOp) → GuardReply op → SolutionGuard
  | .store entry, _ => guard.store entry
  | .pop name, _ => guard.pop name
  | .markClosed, _ => { guard with closed := true }
  | .openFile name, reply => match reply with
    | .ok _ => guard.opened (.fresh name)
    | .error _ => guard
  | .identity handle, reply => guard.update handle (.read reply)
  | .tryLock handle mode, reply => guard.update handle (.tried mode reply)
  | .unlock handle, reply => guard.update handle (.released reply)
  | .closeHandle handle, _ => guard.update handle .shut
  | _, _ => guard

/-- One guard, with surroundings that may answer anything. -/
def machine : Machine GuardOp GuardReply SolutionGuard := ⟨permits, after⟩

/-- Surroundings, which answer by all they were asked before. -/
abbrev Surroundings := List (Call GuardOp GuardReply) → SolutionGuard → (op : GuardOp) → GuardReply op

/-- Surroundings that answer as the machine permits. -/
def Legal (answer : Surroundings) : Prop :=
  ∀ calls guard op, machine.permits guard op (answer calls guard op)

/-- Device and file index of a guard file. -/
def plainIdentity (name : Text) : Text := if name = ("admission.lock" : Text) then "1:1" else "1:2"

/-- Surroundings in which nothing fails but what `broken` raises, and time stands still. -/
def surroundings (broken : GuardOp → Option Raised) : Surroundings := fun _ guard op =>
  let raising {α : Type} (a : α) : Except Raised α := match broken op with
    | some raised => .error raised
    | none => .ok a
  match op with
  | .isClosed => guard.closed
  | .heldGet name => guard.get? name
  | .heldTable => guard.held
  | .store _ => ()
  | .pop name => guard.get? name
  | .markClosed => ()
  | .makeDirectory => raising ()
  | .openFile _ => raising guard.handles.length
  | .identity handle => raising (plainIdentity ((guard.handles[handle]?.map HandleState.file).getD []))
  | .fileIdentity name => .ok (plainIdentity name)
  | .tryLock _ _ => raising ()
  | .unlock _ => raising ()
  | .closeHandle _ => raising ()
  | .cancelled => raising false
  | .clock => 0
  | .sleep _ => raising ()

theorem surroundings_legal (broken : GuardOp → Option Raised) : Legal (surroundings broken) := by
  intro calls guard op
  cases op with
  | openFile name =>
    intro handle opened
    change (match broken (.openFile name) with
      | some raised => Except.error raised
      | none => Except.ok guard.handles.length) = Except.ok handle at opened
    split at opened
    · cases opened
    · exact (Except.ok.inj opened).symm
  | _ => first | rfl | exact trivial

/-! ### The table -/

namespace SolutionGuard

variable {guard : SolutionGuard}

theorem get?_eq_none {name : Text} : guard.get? name = none ↔ ∀ held ∈ guard.held, held.name ≠ name := by
  unfold get?
  rw [List.find?_eq_none]
  simp

theorem get?_eq_some {name : Text} {entry : HeldLock} (found : guard.get? name = some entry) :
    entry ∈ guard.held ∧ entry.name = name := by
  refine ⟨List.mem_of_find?_eq_some found, ?_⟩
  simpa using List.find?_some found

/-- A new name goes to the end. -/
theorem store_new {entry : HeldLock} (absent : guard.get? entry.name = none) :
    guard.store entry = { guard with held := guard.held ++ [entry] } := by
  rw [store, if_neg]
  rintro present
  obtain ⟨held, member, same⟩ := List.mem_map.mp present
  exact get?_eq_none.mp absent held member same

theorem update_last (state : HandleState) (change : HandleState → HandleState) :
    (guard.opened state).update guard.handles.length change = guard.opened (change state) := by
  show SolutionGuard.mk _ _ _ = SolutionGuard.mk _ _ _
  congr 1
  refine List.ext_getElem? fun i => ?_
  rcases lt_trichotomy i guard.handles.length with below | rfl | above
  · rw [List.getElem?_modify_ne _ _ below.ne', opened, List.getElem?_append_left below,
      List.getElem?_append_left below]
  · rw [List.getElem?_modify_eq, opened, List.getElem?_concat_length, List.getElem?_concat_length]
    rfl
  · rw [List.getElem?_modify_ne _ _ above.ne, List.getElem?_eq_none (by simp [opened]; omega),
      List.getElem?_eq_none (by simp; omega)]

end SolutionGuard

end AxiomMcp.Guard

/-
**Readers and publishers side by side.**

Any number of processes, each with its own guard, run the two protocols over and over; their operations
interleave one by one. Of the operating system it is assumed that a whole-file lock is granted to a handle
only if no other handle has an incompatible one on that file (`Grantable`).

* `exclusion`: two handles on one file both have shared locks;
* `protocol_safety`: exclusive data goes with exclusive admission and shuts everyone else out; while
  someone has exclusive admission no other process gets the data; nobody waits in a circle.
-/

import AxiomMcp.Lib.Threads
import AxiomMcp.Guard.Discipline

namespace AxiomMcp.Guard

open Lib Program Machine

variable {ι : Type} [DecidableEq ι]

/-- No other handle has a lock on the file that excludes the one that is asked for. -/
def Grantable (guards : ι → SolutionGuard) (i : ι) (handle : Handle) (mode : LockMode) : Prop :=
  ∀ target, (guards i).handles[handle]? = some target →
    ∀ (j : ι) (other : Handle) (state : HandleState) (held : LockMode), (guards j).handles[other]? =
      some state → (j, other) ≠ (i, handle) →
      state.file = target.file → state.lock = some held → mode = .shared ∧ held = .shared

/-- What the operating system grants. -/
def Granted (guards : ι → SolutionGuard) (i : ι) : (op : GuardOp) → GuardReply op → Prop
  | .tryLock handle mode, .ok _ => Grantable guards i handle mode
  | _, _ => True

/-- One process among others. -/
def process (i : ι) : Machine GuardOp GuardReply (ι → SolutionGuard) where
  permits guards op reply := machine.permits (guards i) op reply ∧ Granted guards i op reply
  after guards op reply := Function.update guards i (machine.after (guards i) op reply)

/-- A process begins a run of a protocol. -/
def Begins (_ : ι) (p : GuardProgram Unit) : Prop :=
  ∃ py settings rounds attempts outcome, ∃ protocol : Protocol,
    p = protocol.program py settings rounds attempts outcome

/-- Processes, their guards and what each has left to do. -/
abbrev Processes (ι : Type) := Config ι GuardOp GuardReply Raised Unit (ι → SolutionGuard)

/-- No process has done anything. -/
def Processes.initial : Processes ι := ⟨fun _ => .initial, fun _ => .done ()⟩

/-- What the processes can come to. -/
def Processes.Reached (c : Processes ι) : Prop :=
  Config.Reachable process Begins Processes.initial c

/-! ### Each process on its own -/

theorem process_parted :
    Config.Parted (process (ι := ι)) (fun _ => machine) fun i guards => guards i where
  permits _ _ _ _ permitted := permitted.1
  own _ _ _ _ := Function.update_self _ _ _
  others _ _ _ _ _ different := Function.update_of_ne different _ _

variable {c c' : Processes ι}

/-- Every process keeps to the discipline. -/
theorem Processes.Reached.along (reached : c.Reached) (i : ι) :
    machine.Along Discipline (fun _ guard => Resting guard) (c.threads i) (c.shared i) := by
  have again : ∀ (i : ι) (p : GuardProgram Unit) (guard : SolutionGuard) (_ : Except Raised Unit),
      Begins i p → Resting guard → machine.Along Discipline (fun _ guard => Resting guard) p guard := by
    rintro _ _ guard _ ⟨py, settings, rounds, attempts, outcome, protocol, rfl⟩ resting
    exact protocol_discipline resting protocol attempts outcome
  exact Config.Reachable.along process_parted again reached
    (fun _ => ⟨sound_initial, fun _ none => nomatch none⟩) i

theorem Processes.Reached.disciplined (reached : c.Reached) (i : ι) : Disciplined (c.shared i) :=
  (reached.along i).state (fun _ discipline => discipline.state) fun _ resting => resting.disciplined

/-! ### Exclusion -/

/-- An operation by which a handle gets a lock. -/
def Takes : (op : GuardOp) → GuardReply op → Handle → LockMode → Prop
  | .tryLock target wants, .ok _, handle, mode => target = handle ∧ wants = mode
  | _, _, _, _ => False

theorem update_source {guard : SolutionGuard} {target handle : Handle} {change : HandleState → HandleState}
    {state : HandleState} (found : (guard.update target change).handles[handle]? = some state) :
    ∃ old, guard.handles[handle]? = some old ∧
      (state = old ∨ (target = handle ∧ state = change old)) := by
  change (guard.handles.modify target change)[handle]? = some state at found
  by_cases same : target = handle
  · rw [same, List.getElem?_modify_eq] at found
    obtain ⟨old, there, rfl⟩ := Option.map_eq_some_iff.mp found
    exact ⟨old, there, Or.inr ⟨same, rfl⟩⟩
  · rw [List.getElem?_modify_ne _ _ same] at found
    exact ⟨state, found, Or.inl rfl⟩

/-- A lock a handle has after an operation was there before, or has just been granted. -/
theorem lock_source {guard : SolutionGuard} {op : GuardOp} {reply : GuardReply op} {handle : Handle}
    {state : HandleState} {mode : LockMode}
    (found : (machine.after guard op reply).handles[handle]? = some state)
    (locked : state.lock = some mode) :
    ∃ old, guard.handles[handle]? = some old ∧ old.file = state.file ∧
      (old.lock = some mode ∨ Takes op reply handle mode) := by
  have unchanged : guard.handles[handle]? = some state →
      ∃ old, guard.handles[handle]? = some old ∧ old.file = state.file ∧
        (old.lock = some mode ∨ Takes op reply handle mode) :=
    fun same => ⟨state, same, rfl, Or.inl locked⟩
  cases op with
  | store entry =>
    refine unchanged ?_
    change (guard.store entry).handles[handle]? = _ at found
    unfold SolutionGuard.store at found
    split at found
    · exact found
    · exact found
  | openFile name =>
    cases reply with
    | error raised => exact unchanged found
    | ok _ =>
      change (guard.handles ++ [HandleState.fresh name])[handle]? = _ at found
      by_cases old : handle < guard.handles.length
      · rw [List.getElem?_append_left old] at found
        exact unchanged found
      · rw [List.getElem?_append_right (not_lt.mp old)] at found
        rw [List.mem_singleton.mp (List.mem_of_getElem? found)] at locked
        cases locked
  | identity target =>
    obtain ⟨old, there, rfl | ⟨same, rfl⟩⟩ := update_source found
    · exact ⟨state, there, rfl, Or.inl locked⟩
    · refine ⟨old, there, ?_⟩
      cases reply with
      | ok _ => exact ⟨rfl, Or.inl locked⟩
      | error raised => cases raised <;> exact ⟨rfl, Or.inl locked⟩
  | tryLock target wants =>
    obtain ⟨old, there, rfl | ⟨same, rfl⟩⟩ := update_source found
    · exact ⟨state, there, rfl, Or.inl locked⟩
    · refine ⟨old, there, ?_⟩
      cases reply with
      | ok _ => exact ⟨rfl, Or.inr ⟨same, Option.some.inj locked⟩⟩
      | error raised => exact ⟨rfl, Or.inl locked⟩
  | unlock target =>
    obtain ⟨old, there, rfl | ⟨same, rfl⟩⟩ := update_source found
    · exact ⟨state, there, rfl, Or.inl locked⟩
    · cases reply with
      | ok _ => cases locked
      | error raised => exact ⟨old, there, rfl, Or.inl locked⟩
  | closeHandle target =>
    obtain ⟨old, there, rfl | ⟨same, rfl⟩⟩ := update_source found
    · exact ⟨state, there, rfl, Or.inl locked⟩
    · cases locked
  | _ => exact unchanged found

/-- Two handles with locks on one file share it. -/
def Exclusion (guards : ι → SolutionGuard) : Prop :=
  ∀ (i j : ι) (handle other : Handle) (state state' : HandleState) (held held' : LockMode),
    (guards i).handles[handle]? = some state → (guards j).handles[other]? = some state' →
      (i, handle) ≠ (j, other) → state.file = state'.file → state.lock = some held →
        state'.lock = some held' → held = .shared ∧ held' = .shared

/-- What a process has after one operation of some process: it had it, or this was its own attempt. -/
theorem step_source {guards : ι → SolutionGuard} {i j : ι} {op : GuardOp} {reply : GuardReply op}
    {handle : Handle} {state : HandleState} {held : LockMode}
    (found : (((process j).after guards op reply) i).handles[handle]? = some state)
    (locked : state.lock = some held) :
    ∃ old, (guards i).handles[handle]? = some old ∧ old.file = state.file ∧
      (old.lock = some held ∨ (i = j ∧ Takes op reply handle held)) := by
  change (Function.update guards j _ i).handles[handle]? = _ at found
  by_cases same : i = j
  · subst same
    rw [Function.update_self] at found
    obtain ⟨old, there, file, source⟩ := lock_source found locked
    exact ⟨old, there, file, source.imp_right fun takes => ⟨rfl, takes⟩⟩
  · rw [Function.update_of_ne same] at found
    exact ⟨state, found, rfl, Or.inl locked⟩

/-- A lock that is taken was granted. -/
theorem granted_takes {guards : ι → SolutionGuard} {i : ι} {op : GuardOp} {reply : GuardReply op}
    {handle : Handle} {held : LockMode} (permitted : (process i).permits guards op reply)
    (takes : Takes op reply handle held) : Grantable guards i handle held := by
  obtain ⟨_, granted⟩ := permitted
  cases op with
  | tryLock target wants =>
    cases reply with
    | ok _ =>
      obtain ⟨rfl, rfl⟩ := takes
      exact granted
    | error raised => exact takes.elim
  | _ => exact takes.elim

/-- Two handles do not take a lock by one operation. -/
theorem takes_unique {op : GuardOp} {reply : GuardReply op} {handle other : Handle}
    {held held' : LockMode} (takes : Takes op reply handle held) (takes' : Takes op reply other held') :
    handle = other := by
  cases op with
  | tryLock target wants =>
    cases reply with
    | ok _ => exact takes.1.symm.trans takes'.1
    | error raised => exact takes.elim
  | _ => exact takes.elim

theorem exclusion_step {guards : ι → SolutionGuard} {k : ι} {op : GuardOp} {reply : GuardReply op}
    (before : Exclusion guards) (permitted : (process k).permits guards op reply) :
    Exclusion ((process k).after guards op reply) := by
  intro i j handle other state state' held held' found found' apart same locked locked'
  obtain ⟨old, there, file, source⟩ := step_source found locked
  obtain ⟨old', there', file', source'⟩ := step_source found' locked'
  have one : old.file = old'.file := file.trans (same.trans file'.symm)
  rcases source with kept | ⟨rfl, takes⟩
  · rcases source' with kept' | ⟨rfl, takes'⟩
    · exact before i j handle other old old' held held' there there' apart one kept kept'
    · exact (granted_takes permitted takes' old' there' i handle old held there apart one kept).symm
  · rcases source' with kept' | ⟨rfl, takes'⟩
    · exact granted_takes permitted takes old there j other old' held' there' apart.symm one.symm kept'
    · exact absurd (congrArg (Prod.mk _) (takes_unique takes takes')) apart

theorem Processes.Reached.exclusion (reached : c.Reached) : Exclusion c.shared := by
  have first : Exclusion (Processes.initial : Processes ι).shared :=
    fun i j handle other state state' held held' found => nomatch found
  refine Relation.ReflTransGen.head_induction_on (motive := fun a _ => Exclusion a.shared →
    Exclusion c.shared) reached id (fun {a b} step _ ih before => ?_) first
  refine ih ?_
  cases step with
  | act k pending reply permitted => exact exclusion_step before permitted
  | start k ended starts => exact before

/-! ### The claims of the protocol -/

/-- A process waits for a lock: an attempt at it is pending, or the last one lost the race. -/
def Awaits (c : Processes ι) (p : ι) (file : Text) (mode : LockMode) : Prop :=
  Refused (c.shared p) file mode ∨
    ∃ handle target, (c.threads p).pending = some (.tryLock handle mode) ∧
      (c.shared p).handles[handle]? = some target ∧ target.file = file

/-- A process waits for a lock that another one's lock excludes. -/
def WaitsFor (c : Processes ι) (p q : ι) : Prop :=
  ∃ file mode held, Awaits c p file mode ∧ Locks (c.shared q) file held ∧
    ¬ (mode = .shared ∧ held = .shared)

/-- What a process waits for comes after all that it has. -/
theorem Processes.Reached.awaits (reached : c.Reached) {p : ι} {file : Text} {mode : LockMode}
    (awaits : Awaits c p file mode) :
    ∀ other held, Locks (c.shared p) other held → position other < position file := by
  rcases awaits with refused | ⟨handle, target, stands, found, rfl⟩
  · exact (reached.disciplined p).refused file mode refused
  · exact ((reached.along p).pending stands).ranked handle mode target rfl found

/-- Along a chain of waiting processes the locks that are waited for come later and later. -/
theorem Processes.Reached.chain (reached : c.Reached) {p q : ι}
    (chain : Relation.TransGen (WaitsFor c) p q) :
    ∃ file mode last held, Awaits c p file mode ∧ Locks (c.shared q) last held ∧
      position file ≤ position last := by
  induction chain with
  | single waits =>
    obtain ⟨file, mode, held, awaits, locks, _⟩ := waits
    exact ⟨file, mode, file, held, awaits, locks, le_rfl⟩
  | tail _ waits ih =>
    obtain ⟨file, mode, last, held, awaits, locks, below⟩ := ih
    obtain ⟨next, mode', held', awaits', locks', _⟩ := waits
    exact ⟨file, mode, next, held', awaits, locks',
      below.trans (reached.awaits awaits' last held locks).le⟩

/-- Two processes with locks on one file share it. -/
theorem Processes.Reached.share (reached : c.Reached) {p q : ι} (apart : p ≠ q) {file : Text}
    {held held' : LockMode} (one : Locks (c.shared p) file held) (other : Locks (c.shared q) file held') :
    held = .shared ∧ held' = .shared := by
  obtain ⟨state, member, named, locked⟩ := one
  obtain ⟨state', member', named', locked'⟩ := other
  obtain ⟨handle, found⟩ := List.mem_iff_getElem?.mp member
  obtain ⟨handle', found'⟩ := List.mem_iff_getElem?.mp member'
  exact reached.exclusion p q handle handle' state state' held held' found found'
    (fun same => apart (congrArg Prod.fst same)) (named.trans named'.symm) locked locked'

/-- Who gets the data had admission. -/
theorem Processes.Reached.admitted (reached : c.Reached) (step : Config.Step process Begins c c') {q : ι}
    {mode : LockMode} (locks : Locks (c'.shared q) dataLock mode) :
    Locks (c.shared q) dataLock mode ∨ ∃ held, Locks (c.shared q) admissionLock held := by
  cases step with
  | start k ended starts => exact Or.inl locks
  | @act k op next pending reply permitted =>
    obtain ⟨state, member, named, locked⟩ := locks
    obtain ⟨handle, found⟩ := List.mem_iff_getElem?.mp member
    obtain ⟨old, there, file, kept | ⟨rfl, takes⟩⟩ := step_source found locked
    · exact Or.inl ⟨old, List.mem_of_getElem? there, file.trans named, kept⟩
    · right
      have asked : op = .tryLock handle mode := by
        cases op with
        | tryLock target wants =>
          cases reply with
          | ok _ => rw [takes.1, takes.2]
          | error raised => exact takes.elim
        | _ => exact takes.elim
      have stands : (c.threads q).pending = some op := by rw [pending]; rfl
      obtain ⟨held, admission, _⟩ := ((reached.along q).pending stands).attempt handle mode old asked there
        (file.trans named)
      exact ⟨held, admission⟩

/-- **Safety of the protocols.** -/
theorem protocol_safety (c : Processes ι) (reached : c.Reached) :
    (∀ p, Locks (c.shared p) dataLock .exclusive →
      Locks (c.shared p) admissionLock .exclusive ∧
        ∀ q, q ≠ p → ∀ mode, ¬ Locks (c.shared q) admissionLock mode ∧ ¬ Locks (c.shared q) dataLock mode) ∧
    (∀ c' p q, Config.Step process Begins c c' → Locks (c.shared p) admissionLock .exclusive → q ≠ p →
      ∀ mode, Locks (c'.shared q) dataLock mode → Locks (c.shared q) dataLock mode) ∧
    ∀ p, ¬ Relation.TransGen (WaitsFor c) p p := by
  refine ⟨fun p locks => ?_, fun c' p q step locks apart mode gets => ?_, fun p circle => ?_⟩
  · have escort := (reached.disciplined p).escorted locks
    refine ⟨escort, fun q apart mode => ⟨fun other => ?_, fun other => ?_⟩⟩
    · exact nomatch (reached.share apart other escort).2
    · exact nomatch (reached.share apart other locks).2
  · rcases reached.admitted step gets with kept | ⟨held, admission⟩
    · exact kept
    · exact nomatch (reached.share apart admission locks).2
  · obtain ⟨file, mode, last, held, awaits, locks, below⟩ := reached.chain circle
    exact absurd (reached.awaits awaits last held locks) (not_lt.mpr below)

/-- The statement at one process that has just begun to publish. -/
theorem protocol_safety_begun :
    let c : Processes Bool := ⟨fun _ => .initial, Function.update (fun _ => .done ()) true
      (Protocol.publisher.program .ascii defaultSettings 1 1 (.ok ()))⟩
    c.Reached ∧
      ((∀ p, Locks (c.shared p) dataLock .exclusive →
        Locks (c.shared p) admissionLock .exclusive ∧ ∀ q, q ≠ p → ∀ mode,
          ¬ Locks (c.shared q) admissionLock mode ∧ ¬ Locks (c.shared q) dataLock mode) ∧
      (∀ c' p q, Config.Step process Begins c c' → Locks (c.shared p) admissionLock .exclusive → q ≠ p →
        ∀ mode, Locks (c'.shared q) dataLock mode → Locks (c.shared q) dataLock mode) ∧
      ∀ p, ¬ Relation.TransGen (WaitsFor c) p p) := by
  intro c
  have reached : c.Reached := Relation.ReflTransGen.single
    (.start true trivial ⟨_, _, _, _, _, .publisher, rfl⟩)
  exact ⟨reached, protocol_safety c reached⟩

end AxiomMcp.Guard

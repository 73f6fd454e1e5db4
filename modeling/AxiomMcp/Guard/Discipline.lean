/-
**The discipline of readers and publishers.**

What the two protocols do to the locks of their own guard, step by step (`Discipline`):

* whoever has `data.lock` exclusively has `admission.lock` exclusively, and `data.lock` is asked for only
  by who has `admission.lock`;
* a lock is asked for, and waited for, only by who has no lock that comes after it in the order.

`protocol_discipline`: this holds at every step of a reader and of a publisher, whatever is answered.
-/

import AxiomMcp.Guard.Invariant

namespace AxiomMcp.Guard

open Lib Program Machine

/-- The lock file whose lock admits to the data. -/
abbrev admissionLock : Text := "admission.lock"

/-- The lock file of the data. -/
abbrev dataLock : Text := "data.lock"

/-! ### Locks -/

/-- The operating system has granted a handle of the guard a lock. -/
def Locks (guard : SolutionGuard) (file : Text) (mode : LockMode) : Prop :=
  ∃ state ∈ guard.handles, state.file = file ∧ state.lock = some mode

/-- The last lock attempt on a handle of the guard lost the race. -/
def Refused (guard : SolutionGuard) (file : Text) (mode : LockMode) : Prop :=
  ∃ state ∈ guard.handles, state.file = file ∧ state.wanted = some mode

/-- Exclusive data is escorted by exclusive admission, and what was refused comes after all that is
locked. -/
structure Disciplined (guard : SolutionGuard) : Prop where
  escorted : Locks guard dataLock .exclusive → Locks guard admissionLock .exclusive
  refused : ∀ file mode, Refused guard file mode →
    ∀ other held, Locks guard other held → position other < position file

/-- The discipline at an operation: an attempt comes after all that is locked, and one at the data is
escorted. -/
structure Discipline (guard : SolutionGuard) (op : GuardOp) : Prop where
  state : Disciplined guard
  ranked : ∀ handle mode target, op = .tryLock handle mode → guard.handles[handle]? = some target →
    ∀ other held, Locks guard other held → position other < position target.file
  attempt : ∀ handle mode target, op = .tryLock handle mode → guard.handles[handle]? = some target →
    target.file = dataLock →
      ∃ held, Locks guard admissionLock held ∧ (mode = .exclusive → held = .exclusive)

section Points

variable {start mid guard : SolutionGuard} {name : Text} {mode : LockMode} {op : GuardOp}

/-- The locks of a guard between two calls are those of its table. -/
theorem Sound.locks_iff (sound : Sound guard) {file : Text} {mode : LockMode} :
    Locks guard file mode ↔ ∃ held ∈ guard.held, held.name = file ∧ held.mode = mode := by
  constructor
  · rintro ⟨state, member, rfl, locked⟩
    obtain ⟨handle, found⟩ := List.mem_iff_getElem?.mp member
    rcases sound.others handle state found with ⟨held, there, rfl⟩ | settled
    · rw [sound.backed held there] at found
      obtain rfl := Option.some.inj found
      exact ⟨held, there, rfl, Option.some.inj locked⟩
    · rw [settled.lock] at locked
      cases locked
  · rintro ⟨held, there, rfl, rfl⟩
    exact ⟨held.state, List.mem_of_getElem? (sound.backed held there), rfl, rfl⟩

/-- Between two calls nothing is waited for. -/
theorem Sound.not_refused (sound : Sound guard) {file : Text} {mode : LockMode} :
    ¬ Refused guard file mode := by
  rintro ⟨state, member, _, wanted⟩
  obtain ⟨handle, found⟩ := List.mem_iff_getElem?.mp member
  rcases sound.others handle state found with ⟨held, there, rfl⟩ | settled
  · rw [sound.backed held there] at found
    obtain rfl := Option.some.inj found
    cases wanted
  · rw [settled.wanted] at wanted
    cases wanted

/-- An entry for exclusive data is escorted by one for exclusive admission. -/
def Escorted (guard : SolutionGuard) : Prop :=
  ∀ held ∈ guard.held, held.name = dataLock → held.mode = .exclusive →
    ∃ other ∈ guard.held, other.name = admissionLock ∧ other.mode = .exclusive

/-- A process between two steps of a protocol. -/
structure Resting (guard : SolutionGuard) : Prop where
  sound : Sound guard
  escorted : Escorted guard

theorem Resting.disciplined (resting : Resting guard) : Disciplined guard := by
  refine ⟨fun locks => ?_, fun file mode refused => absurd refused resting.sound.not_refused⟩
  obtain ⟨held, member, name, mode⟩ := resting.sound.locks_iff.mp locks
  exact resting.sound.locks_iff.mpr (resting.escorted held member name mode)

/-- An operation that is no lock attempt asks no more than the state. -/
theorem Disciplined.at_other (disciplined : Disciplined guard)
    (other : ∀ handle mode, op ≠ .tryLock handle mode) : Discipline guard op :=
  ⟨disciplined, fun handle mode _ same => absurd same (other handle mode),
    fun handle mode _ same => absurd same (other handle mode)⟩

theorem GuardOp.Quiet.no_attempt (quiet : op.Quiet) (handle : Handle) (mode : LockMode) :
    op ≠ .tryLock handle mode := by
  rintro rfl
  exact quiet

theorem Spent.resting (spent : Spent start guard) (resting : Resting start) : Resting guard := by
  refine ⟨resting.sound.spent spent, ?_⟩
  rw [Escorted, spent.held]
  exact resting.escorted

/-- A handle more adds its own lock. -/
theorem locks_opened {state : HandleState} {file : Text} {held : LockMode} :
    Locks (mid.opened state) file held ↔
      Locks mid file held ∨ (state.file = file ∧ state.lock = some held) := by
  constructor
  · rintro ⟨other, member, holds⟩
    rcases List.mem_append.mp member with old | new
    · exact Or.inl ⟨other, old, holds⟩
    · rw [List.mem_singleton.mp new] at holds
      exact Or.inr holds
  · rintro (⟨other, member, holds⟩ | holds)
    · exact ⟨other, List.mem_append_left _ member, holds⟩
    · exact ⟨state, List.mem_append_right _ List.mem_cons_self, holds⟩

theorem refused_opened {state : HandleState} {file : Text} {wants : LockMode} (sound : Sound mid)
    (refused : Refused (mid.opened state) file wants) : state.file = file := by
  obtain ⟨other, member, holds⟩ := refused
  rcases List.mem_append.mp member with old | new
  · exact absurd ⟨other, old, holds⟩ sound.not_refused
  · rw [List.mem_singleton.mp new] at holds
    exact holds.1

/-- What an acquisition asks of the table it starts from: data is escorted. -/
def Escorts (start : SolutionGuard) (name : Text) (mode : LockMode) : Prop :=
  name = dataLock → ∃ other ∈ start.held, other.name = admissionLock ∧
    (mode = .exclusive → other.mode = .exclusive)

/-- All that is locked comes before a guard that is admitted. -/
theorem Admits.above (admits : Admits start name) (resting : Resting start) (spent : Spent start mid) :
    ∀ other held, Locks mid other held → position other < position name := by
  intro other held locks
  obtain ⟨entry, member, rfl, _⟩ := (resting.sound.spent spent).locks_iff.mp locks
  exact (admits.admissible resting.sound).ordered entry (spent.held ▸ member)

theorem Amid.discipline (amid : Amid start name mode guard op) (resting : Resting start)
    (escorts : Escorts start name mode) : Discipline guard op := by
  cases amid with
  | without spent quiet => exact (spent.resting resting).disciplined.at_other quiet.no_attempt
  | @opened mid state op admits spent file lock isOpen wanted step =>
    have before := spent.resting resting
    have locks : ∀ other held, Locks (mid.opened state) other held ↔ Locks mid other held := by
      intro other held
      rw [locks_opened, lock]
      exact or_iff_left fun none => nomatch none.2
    have above := admits.above resting spent
    have disciplined : Disciplined (mid.opened state) := by
      refine ⟨fun locked => ?_, fun target wants refused other held locked => ?_⟩
      · exact (locks _ _).mpr (before.disciplined.escorted ((locks _ _).mp locked))
      · rw [← refused_opened before.sound refused, file]
        exact above _ _ ((locks _ _).mp locked)
    rcases step with quiet | rfl
    · exact disciplined.at_other quiet.no_attempt
    · have target : ∀ handle wants (found : HandleState),
          GuardOp.tryLock mid.handles.length mode = .tryLock handle wants →
            (mid.opened state).handles[handle]? = some found → wants = mode ∧ found.file = name := by
        rintro handle wants found ⟨⟩ last
        rw [show (mid.opened state).handles[mid.handles.length]? = some state from
          List.getElem?_concat_length] at last
        obtain rfl := Option.some.inj last
        exact ⟨rfl, file⟩
      refine ⟨disciplined, fun handle wants found same last => ?_, fun handle wants found same last data => ?_⟩
      · rw [(target handle wants found same last).2]
        exact fun other held locked => above _ _ ((locks _ _).mp locked)
      · obtain ⟨rfl, named⟩ := target handle wants found same last
        obtain ⟨other, member, named, mode⟩ := escorts (named.symm.trans data)
        refine ⟨other.mode, (locks _ _).mpr ?_, mode⟩
        exact before.sound.locks_iff.mpr ⟨other, spent.held.symm ▸ member, named, rfl⟩
  | @locked mid admits spent =>
    have before := spent.resting resting
    have disciplined : Disciplined (mid.opened ⟨name, some mode, true, false, none⟩) := by
      refine ⟨fun locked => locks_opened.mpr (Or.inl ?_), fun target wants refused => ?_⟩
      · rcases locks_opened.mp locked with old | ⟨named, exclusive⟩
        · exact before.disciplined.escorted old
        · obtain ⟨other, member, admission, mode⟩ := escorts named
          exact before.sound.locks_iff.mpr
            ⟨other, spent.held.symm ▸ member, admission, mode (Option.some.inj exclusive)⟩
      · obtain ⟨other, member, _, wanted⟩ := refused
        rcases List.mem_append.mp member with old | new
        · exact absurd ⟨other, old, rfl, wanted⟩ before.sound.not_refused
        · rw [List.mem_singleton.mp new] at wanted
          cases wanted
    exact disciplined.at_other fun _ _ same => nomatch same

/-! ### Releases -/

/-- Admission is let go only by who has not the data exclusively. -/
def LetsGo (guard : SolutionGuard) (name : Text) : Prop :=
  name = admissionLock → ∀ held ∈ guard.held, held.name = dataLock → held.mode ≠ .exclusive

theorem Topmost.letsGo (top : Topmost guard name) : LetsGo guard name := by
  rintro rfl held member data
  have below := top held member
  rw [data] at below
  exact absurd below (by decide)

/-- The guard on its way of losing an entry keeps to the discipline. -/
theorem Letting.discipline {may : SolutionGuard → Text → Prop} (letting : Letting Escorted may guard op)
    (lets : ∀ guard name, may guard name → LetsGo guard name) : Discipline guard op := by
  cases letting with
  | quiet sound escorted quiet =>
    exact (Resting.mk sound escorted).disciplined.at_other quiet.no_attempt
  | pop sound escorted =>
    exact (Resting.mk sound escorted).disciplined.at_other fun _ _ same => nomatch same
  | unlock sound escorted =>
    have before := (Resting.mk sound escorted).disciplined
    exact Disciplined.at_other ⟨before.escorted, before.refused⟩ fun _ _ same => nomatch same
  | @close before entry sound escorted member may reply =>
    have resting := Resting.mk sound escorted
    refine Disciplined.at_other ⟨fun locked => ?_, fun file wants refused => ?_⟩ fun _ _ same =>
      nomatch same
    · -- the lock of another handle is what it was
      have changed : ∀ handle : ℕ, ((before.pop entry.name).update entry.handle
          (HandleState.released reply)).handles[handle]? =
            (before.handles.modify entry.handle (HandleState.released reply))[handle]? := fun _ => rfl
      have data : ∃ held ∈ before.held, held.name = dataLock ∧ held.mode = .exclusive := by
        obtain ⟨state, there, file, lock⟩ := locked
        obtain ⟨handle, found⟩ := List.mem_iff_getElem?.mp there
        rw [changed] at found
        refine sound.locks_iff.mp ?_
        by_cases same : entry.handle = handle
        · rw [← same, List.getElem?_modify_eq, sound.backed entry member] at found
          obtain rfl := Option.some.inj found
          refine ⟨entry.state, List.mem_of_getElem? (sound.backed entry member), ?_, ?_⟩
          · cases reply <;> exact file
          · cases reply with
            | ok _ => cases lock
            | error raised => exact lock
        · rw [List.getElem?_modify_ne _ _ same] at found
          exact ⟨state, List.mem_of_getElem? found, file, lock⟩
      obtain ⟨held, there, name, exclusive⟩ := data
      obtain ⟨other, present, admission, mode⟩ := escorted held there name exclusive
      have apart : entry.handle ≠ other.handle := by
        intro same
        obtain rfl := sound.unique_handle member present same
        exact lets _ _ may admission held there name exclusive
      refine ⟨other.state, List.mem_of_getElem? ((changed other.handle).trans ?_), admission,
        congrArg some mode⟩
      rw [List.getElem?_modify_ne _ _ apart]
      exact sound.backed other present
    · obtain ⟨state, there, file, wanted⟩ := refused
      obtain ⟨handle, found⟩ := List.mem_iff_getElem?.mp there
      change (before.handles.modify _ _)[handle]? = _ at found
      by_cases same : entry.handle = handle
      · rw [← same, List.getElem?_modify_eq, sound.backed entry member] at found
        obtain rfl := Option.some.inj found
        cases reply <;> cases wanted
      · rw [List.getElem?_modify_ne _ _ same] at found
        exact absurd ⟨state, List.mem_of_getElem? found, file, wanted⟩ sound.not_refused

/-- What is left after a release is escorted. -/
theorem escorted_left (escorted : Escorted start) (lets : LetsGo start name)
    (left : ∀ held, held ∈ guard.held ↔ held ∈ start.held ∧ held.name ≠ name) : Escorted guard := by
  intro held member data exclusive
  obtain ⟨there, different⟩ := (left held).mp member
  obtain ⟨other, present, admission, mode⟩ := escorted held there data exclusive
  refine ⟨other, (left other).mpr ⟨present, fun same => ?_⟩, admission, mode⟩
  exact lets (same.symm.trans admission) held there data exclusive

theorem keptBelow_escorted : KeptBelow Escorted := fun _ _ _ _ escorted top released =>
  escorted_left escorted top.letsGo released.left

end Points

/-! ### The protocols -/

section Protocols

variable {py : Interpreter} {settings : Settings} {rounds : ℕ} {guard : SolutionGuard}

theorem releaseAll_discipline (resting : Resting guard) :
    machine.Along Discipline (fun _ after => Resting after) releaseAll guard :=
  (releaseAll_along keptBelow_escorted resting.sound resting.escorted).mono
    (fun _ _ letting => letting.discipline fun _ _ => Topmost.letsGo)
    fun _ _ released => ⟨released.1.sound, released.2⟩

/-- The guard after one step of a protocol: the entry was added, or the table is as it was. -/
def Taken (start : SolutionGuard) (name : Text) (mode : LockMode) (outcome : Except Raised Unit)
    (guard : SolutionGuard) : Prop :=
  Resting guard ∧
    (outcome = .ok () → ∃ handle, guard.held = start.held ++ [⟨name, mode, handle⟩])

theorem take_discipline (resting : Resting guard) {name : Text} {mode : LockMode}
    (escorts : Escorts guard name mode) :
    machine.Along Discipline (Taken guard name mode)
      ((Step.take name mode).program py settings rounds) guard := by
  refine ((acquireOne_along guard name mode).mono (fun _ _ amid => amid.discipline resting escorts)
    fun _ _ acquired => acquired).bind (fun entry after acquired => ?_) fun raised after spent => ?_
  · have sound := resting.sound.acquired acquired
    obtain ⟨admits, mid, spent, rfl, rfl⟩ := acquired
    refine ⟨⟨sound, fun held member data exclusive => ?_⟩, fun _ => ⟨_, rfl⟩⟩
    rcases List.mem_append.mp member with old | new
    · obtain ⟨other, present, holds⟩ := resting.escorted held old data exclusive
      exact ⟨other, List.mem_append_left _ present, holds⟩
    · rw [List.mem_singleton.mp new] at data exclusive
      obtain ⟨other, present, admission, escort⟩ := escorts data
      exact ⟨other, List.mem_append_left _ present, admission, escort exclusive⟩
  · exact ⟨Spent.resting spent resting, fun returned => nomatch returned⟩

/-- The early release of a reader. -/
theorem drop_discipline (resting : Resting guard) {name : Text} (lets : LetsGo guard name) :
    machine.Along Discipline (fun _ after => Resting after)
      ((Step.drop name).program py settings rounds) guard := by
  refine (release_along resting.sound resting.escorted lets).mono
    (fun _ _ letting => letting.discipline fun _ _ lets => lets) fun outcome after released => ?_
  rcases released with ⟨rfl, _⟩ | ⟨entry, member, rfl, rfl⟩
  · exact resting
  · exact ⟨resting.sound.dropped member, escorted_left resting.escorted lets fun _ =>
      SolutionGuard.mem_pop⟩

/-- Admission and then data, in one mode. -/
theorem takeBoth_discipline (resting : Resting guard) (mode : LockMode) {rest : List Step}
    (next : ∀ after admission data, Resting after →
      after.held = guard.held ++ [⟨admissionLock, mode, admission⟩] ++ [⟨dataLock, mode, data⟩] →
        machine.Along Discipline (fun _ after => Resting after) (takeSteps py settings rounds rest) after) :
    machine.Along Discipline (fun _ after => Resting after)
      (takeSteps py settings rounds (.take admissionLock mode :: .take dataLock mode :: rest)) guard := by
  have first : Escorts guard admissionLock mode := fun same => absurd same (by decide)
  refine (take_discipline resting first).bind (fun _ middle taken => ?_) fun _ _ taken => taken.1
  obtain ⟨admission, table⟩ := taken.2 rfl
  have second : Escorts middle dataLock mode := fun _ =>
    ⟨⟨admissionLock, mode, admission⟩, table ▸ List.mem_append_right _ List.mem_cons_self, rfl,
      fun exclusive => exclusive⟩
  refine (take_discipline taken.1 second).bind (fun _ after taken' => ?_) fun _ _ taken' => taken'.1
  obtain ⟨data, table'⟩ := taken'.2 rfl
  exact next after admission data taken'.1 (table'.trans (by rw [table]))

theorem readerSteps_discipline (resting : Resting guard) :
    machine.Along Discipline (fun _ after => Resting after)
      (takeSteps py settings rounds (stepsOf readerSpecs readerEarly)) guard := by
  refine takeBoth_discipline resting .shared fun after admission data resting' table => ?_
  have lets : LetsGo after admissionLock := by
    intro _ held member named exclusive
    have entry : (⟨dataLock, .shared, data⟩ : HeldLock) ∈ after.held :=
      table ▸ List.mem_append_right _ List.mem_cons_self
    rw [resting'.sound.unique member entry named] at exclusive
    cases exclusive
  exact (drop_discipline resting' lets).bind (fun _ _ resting => resting) fun _ _ resting => resting

theorem publisherSteps_discipline (resting : Resting guard) :
    machine.Along Discipline (fun _ after => Resting after)
      (takeSteps py settings rounds (stepsOf publisherSpecs [])) guard :=
  takeBoth_discipline resting .exclusive fun _ _ _ resting' _ => resting'

/-- The two protocols. -/
inductive Protocol
  | reader | publisher

/-- The arguments of `ordered`. -/
def Protocol.specs : Protocol → List (Text × LockMode)
  | .reader => readerSpecs
  | .publisher => publisherSpecs

def Protocol.early : Protocol → List Text
  | .reader => readerEarly
  | .publisher => []

theorem steps_discipline (resting : Resting guard) (protocol : Protocol) :
    machine.Along Discipline (fun _ after => Resting after)
      (takeSteps py settings rounds (stepsOf protocol.specs protocol.early)) guard := by
  cases protocol with
  | reader => exact readerSteps_discipline resting
  | publisher => exact publisherSteps_discipline resting

theorem enterFrom_discipline (resting : Resting guard) (protocol : Protocol) (attempts : ℕ)
    (failure : Raised) :
    machine.Along Discipline (fun _ after => Resting after)
      (enterFrom py settings rounds (stepsOf protocol.specs protocol.early) attempts failure) guard := by
  induction attempts generalizing guard failure with
  | zero => exact resting
  | succ attempts ih =>
    refine (steps_discipline resting protocol).rescue (fun _ _ resting => resting) fun raised _ resting =>
      ?_
    split
    · exact (releaseAll_discipline resting).bind (fun _ _ resting => ih resting raised) fun _ _ resting =>
        resting
    · exact resting

/-- One run of a protocol, around a block that returns or raises. -/
def Protocol.program (py : Interpreter) (settings : Settings) (rounds : ℕ) (protocol : Protocol)
    (attempts : ℤ) (outcome : Except Raised Unit) : GuardProgram Unit :=
  ordered py settings rounds id protocol.specs protocol.early attempts (ofExcept outcome)

/-- **The discipline of readers and publishers.** -/
theorem protocol_discipline (resting : Resting guard) (protocol : Protocol) (attempts : ℤ)
    (outcome : Except Raised Unit) :
    machine.Along Discipline (fun _ after => Resting after)
      (protocol.program py settings rounds attempts outcome) guard := by
  have entered : machine.Along Discipline (fun _ after => Resting after)
      (enter py settings rounds protocol.specs protocol.early attempts) guard := by
    unfold enter
    split
    · exact resting
    · exact enterFrom_discipline resting protocol _ _
  refine entered.bind (fun _ after resting => ?_) fun _ _ resting => resting
  have body : machine.Along Discipline (fun _ after => Resting after)
      (ofExcept outcome : GuardProgram Unit) after := along_ofExcept resting
  refine body.ensure fun _ _ resting => ?_
  refine (releaseAll_discipline resting).post fun closing _ resting => ?_
  cases closing with
  | ok _ => exact resting
  | error _ => exact resting

end Protocols

end AxiomMcp.Guard

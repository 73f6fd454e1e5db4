/-
**The processes of the gateways.**

Any number of processes run one command each over the same home. They share the instances, each with its lock
file, the process that holds its lock and its two records. Every operation of every process interleaves with
every other one, and a process may be killed wherever it stands.

* `Instance`, `World`: what the processes share;
* `machine`: what the kernel and the file system permit, and what they do. A lock is granted if no handle holds
  it and refused as busy only if one does; a nonce is never issued twice; a child runs once it is launched;
* `killed`: the kernel gives back what a process held;
* `Beginning`, `Reached`: where the processes begin, and what they can come to.
-/

import AxiomMcp.Lib.Processes
import AxiomMcp.Gateway.Commands

namespace AxiomMcp.Gateway

open Lib Program Machine

variable {ι : Type} [DecidableEq ι]

/-- A record file: what `json.loads` makes of its text. -/
structure Stored where
  link : Bool
  size : ℕ
  content : Except Fault Json

/-- The directory of an instance. -/
structure Instance (ι : Type) where
  /-- `gateway.lock` is there. -/
  lockFile : Bool
  /-- Who holds the lock. -/
  holder : Option ι
  record : RecordKind → Option Stored

/-- What processes share, and what each has of its own. -/
structure World (ι : Type) where
  instances : Text → Instance ι
  /-- The nonces that there are. -/
  issued : List Text
  started : ι → Bool
  /-- The exit code of a process that is over. -/
  exited : ι → Option ℤ
  /-- `args.notice_emitted` -/
  notices : ι → Bool

/-- What the processes run. -/
structure Setup (ι : Type) where
  args : ι → Args
  around : ι → Surroundings
  /-- How often a monitor may wake up. -/
  rounds : ι → ℕ

namespace World

variable (world : World ι)

/-- The record file that is there. -/
def stored (path : RecordPath) : Option Stored := (world.instances path.name).record path.kind

/-- One instance is changed. -/
def change (name : Text) (step : Instance ι → Instance ι) : World ι :=
  { world with instances := Function.update world.instances name (step (world.instances name)) }

/-- The lock file is there from now on. -/
def withLockFile (name : Text) : World ι := world.change name fun inst => { inst with lockFile := true }

/-- A process holds the lock. -/
def lock (name : Text) (i : ι) : World ι := world.change name fun inst => { inst with holder := some i }

/-- What a process holds of an instance is given back. -/
def unlock (name : Text) (i : ι) : World ι :=
  world.change name fun inst => { inst with holder := inst.holder.filter (· ≠ i) }

/-- A process is over, and holds nothing. -/
def ended (i : ι) (code : ℤ) : World ι :=
  { world with
    instances := fun name => { world.instances name with holder := (world.instances name).holder.filter (· ≠ i) }
    exited := Function.update world.exited i (some code) }

/-- A record is replaced. -/
def store (path : RecordPath) (value : JsonObject) (size : ℕ) : World ι :=
  world.change path.name fun inst =>
    { inst with record := Function.update inst.record path.kind (some ⟨false, size, .ok (.obj value)⟩) }

end World

/-- What the kernel and the file system may answer to a process. -/
def Permitted (setup : Setup ι) (i : ι) (world : World ι) : (op : GatewayOp ι) → GatewayReply op → Prop
  | .lockExists name, .ok there => there = (world.instances name).lockFile
  | .acquire name, .ok _ => (world.instances name).holder = none
  | .acquire name, .error .busy => (world.instances name).holder ≠ none
  | .isLink path, .ok linked => linked = (world.stored path).any Stored.link
  | .recordExists path, .ok true => world.stored path ≠ none
  | .recordExists path, .ok false => (world.stored path).all Stored.link
  | .stat path, .ok size => (world.stored path).map Stored.size = some size
  | .load path, .ok value => (world.stored path).map Stored.content = some (.ok value)
  | .stat path, .error .missing => (world.stored path).all Stored.link
  | .load path, .error .missing => (world.stored path).all Stored.link
  | .nonce, nonce => nonce ∉ world.issued ∧ isNonce nonce
  | .spawn args, .ok child => world.started child = false ∧ setup.args child = args
  | .poll child, code => code = world.exited child
  | .noticeEmitted, emitted => emitted = world.notices i
  | _, _ => True

/-- What an operation leaves. -/
def after (i : ι) (world : World ι) : (op : GatewayOp ι) → GatewayReply op → World ι
  | .openLock name, .ok _ => world.withLockFile name
  | .acquire name, .ok _ => world.lock name i
  | .release name, .ok _ => world.unlock name i
  | .closeLock name, _ => world.unlock name i
  | .replace path value, .ok size => world.store path value size
  | .nonce, nonce => { world with issued := nonce :: world.issued }
  | .spawn _, .ok child => { world with started := Function.update world.started child true }
  | .emitNotice, _ => { world with notices := Function.update world.notices i true }
  | .exit code, _ => world.ended i (code.getD 1)
  | _, _ => world

/-- One process among others. It asks nothing before it is started. -/
def machine (setup : Setup ι) (i : ι) : Machine (GatewayOp ι) GatewayReply (World ι) where
  permits world op reply := world.started i = true ∧ Permitted setup i world op reply
  after := after i

/-- A process was killed. -/
def killed (i : ι) (world : World ι) : World ι := world.ended i (-9)

/-- What a killed process ends with. -/
def sigkill : GatewayError := .fault (.other "SIGKILL" "")

/-- The program of a process. -/
def program (setup : Setup ι) (i : ι) : GatewayProgram ι Unit :=
  process (setup.around i) (setup.args i) (setup.rounds i)

/-- Something that a process asked, and what it was answered. -/
abbrev GatewayMoment (ι : Type) := Moment ι (GatewayOp ι) GatewayReply (World ι)

/-- Processes of gateways, and their history. -/
abbrev Gateways (ι : Type) := Processes ι (GatewayOp ι) GatewayReply GatewayError Unit (World ι)

/-- What the processes can come to. -/
def Gateways.Reached (setup : Setup ι) (start : World ι) (c : Gateways ι) : Prop :=
  Processes.Reached (machine setup) killed (program setup) sigkill start c

/-- The nonce of a record. -/
def nonceOf (stored : Stored) : Option Json :=
  match stored.content with
  | .ok (.obj entries) => Json.get? entries "nonce"
  | _ => none

/-- Nobody holds a lock yet, and no nonce that is in a record will be issued again. -/
structure Beginning (start : World ι) : Prop where
  free : ∀ name, (start.instances name).holder = none
  issued : ∀ path stored nonce, start.stored path = some stored → nonceOf stored = some (.str nonce) →
    nonce ∈ start.issued

/-- A gateway process owns an instance. -/
def Owns (setup : Setup ι) (world : World ι) (name : Text) (i : ι) : Prop :=
  (world.instances name).holder = some i ∧ (setup.args i).action = .serve

/-! ### Who holds a lock -/

section Holder

variable {setup : Setup ι} {world : World ι} {name other : Text} {i j : ι}

omit [DecidableEq ι] in
theorem instances_change (step : Instance ι → Instance ι) :
    (world.change name step).instances other =
      if other = name then step (world.instances name) else world.instances other := by
  unfold World.change
  dsimp only
  by_cases same : other = name
  · rw [if_pos same, same, Function.update_self]
  · rw [if_neg same, Function.update_of_ne same]

omit [DecidableEq ι] in
/-- What a change leaves of an instance. -/
theorem field_change {β : Type} (field : Instance ι → β) {step : Instance ι → Instance ι}
    (kept : ∀ inst, field (step inst) = field inst) :
    field ((world.change name step).instances other) = field (world.instances other) := by
  rw [instances_change]
  split
  · next same => rw [kept, same]
  · rfl

theorem record_unlock : ((world.unlock name i).instances other).record = (world.instances other).record :=
  field_change Instance.record fun _ => rfl

theorem lockFile_unlock : ((world.unlock name i).instances other).lockFile = (world.instances other).lockFile :=
  field_change Instance.lockFile fun _ => rfl

omit [DecidableEq ι] in
theorem record_lock : ((world.lock name i).instances other).record = (world.instances other).record :=
  field_change Instance.record fun _ => rfl

omit [DecidableEq ι] in
theorem lockFile_lock : ((world.lock name i).instances other).lockFile = (world.instances other).lockFile :=
  field_change Instance.lockFile fun _ => rfl

omit [DecidableEq ι] in
theorem record_withLockFile : ((world.withLockFile name).instances other).record = (world.instances other).record :=
  field_change Instance.record fun _ => rfl

omit [DecidableEq ι] in
theorem holder_withLockFile : ((world.withLockFile name).instances other).holder = (world.instances other).holder :=
  field_change Instance.holder fun _ => rfl

omit [DecidableEq ι] in
theorem lockFile_withLockFile (there : other = name ∨ (world.instances other).lockFile = true) :
    ((world.withLockFile name).instances other).lockFile = true := by
  unfold World.withLockFile
  rw [instances_change]
  split
  · rfl
  · next differs => exact there.resolve_left differs

omit [DecidableEq ι] in
theorem holder_store {path : RecordPath} {value : JsonObject} {size : ℕ} :
    ((world.store path value size).instances other).holder = (world.instances other).holder :=
  field_change Instance.holder fun _ => rfl

omit [DecidableEq ι] in
theorem lockFile_store {path : RecordPath} {value : JsonObject} {size : ℕ} :
    ((world.store path value size).instances other).lockFile = (world.instances other).lockFile :=
  field_change Instance.lockFile fun _ => rfl

omit [DecidableEq ι] in
theorem stored_store {path target : RecordPath} {value : JsonObject} {size : ℕ} :
    (world.store target value size).stored path =
      if path = target then some ⟨false, size, .ok (.obj value)⟩ else world.stored path := by
  obtain ⟨one, kind⟩ := path
  obtain ⟨two, kind'⟩ := target
  unfold World.stored World.store
  rw [instances_change]
  dsimp only
  by_cases named : one = two
  · subst named
    rw [if_pos rfl]
    dsimp only
    by_cases kinds : kind = kind'
    · rw [kinds, if_pos rfl, Function.update_self]
    · rw [if_neg fun same => kinds (RecordPath.mk.inj same).2, Function.update_of_ne kinds]
  · rw [if_neg named, if_neg fun same => named (RecordPath.mk.inj same).1]

omit [DecidableEq ι] in
theorem holder_lock (holds : ((world.lock name i).instances other).holder = some j) :
    (other = name ∧ j = i) ∨ (world.instances other).holder = some j := by
  unfold World.lock at holds
  rw [instances_change] at holds
  split at holds
  · next same => exact Or.inl ⟨same, (Option.some.inj holds).symm⟩
  · exact Or.inr holds

theorem holder_unlock (holds : ((world.unlock name i).instances other).holder = some j) :
    (world.instances other).holder = some j ∧ (other = name → j ≠ i) := by
  unfold World.unlock at holds
  rw [instances_change] at holds
  split at holds
  · next same =>
    obtain ⟨was, different⟩ := Option.filter_eq_some_iff.mp holds
    exact ⟨same ▸ was, fun _ => of_decide_eq_true different⟩
  · next differs => exact ⟨holds, fun same => absurd same differs⟩

theorem holder_ended {code : ℤ} (holds : ((world.ended i code).instances other).holder = some j) :
    (world.instances other).holder = some j ∧ j ≠ i := by
  obtain ⟨was, different⟩ := Option.filter_eq_some_iff.mp holds
  exact ⟨was, of_decide_eq_true different⟩

/-- An operation that may change who holds a lock. -/
def Locks : GatewayOp ι → Prop
  | .acquire _ | .release _ | .closeLock _ | .exit _ => True
  | _ => False

/-- Every other operation leaves the holders. -/
theorem holder_after {op : GatewayOp ι} {reply : GatewayReply op} (other : ¬ Locks op) :
    ((after i world op reply).instances name).holder = (world.instances name).holder := by
  cases op with
  | openLock target =>
    cases reply with
    | ok _ => exact holder_withLockFile
    | error raised => rfl
  | replace path value =>
    cases reply with
    | ok size => exact holder_store
    | error raised => rfl
  | spawn args => cases reply <;> rfl
  | acquire target => exact absurd trivial other
  | release target => exact absurd trivial other
  | closeLock target => exact absurd trivial other
  | exit code => exact absurd trivial other
  | _ => rfl

end Holder

/-! ### Undisturbed surroundings -/

/-- The replies of surroundings in which nothing fails, to a process that is started. -/
def quietReply (setup : Setup ι) (children : List ι) (nonces : List Text) (i : ι) (world : World ι) :
    (op : GatewayOp ι) → Option (GatewayReply op)
  | .linked _ | .lockIsLink _ => some (.ok false)
  | .lockExists name => some (.ok (world.instances name).lockFile)
  | .acquire name => some (if (world.instances name).holder = none then .ok () else .error .busy)
  | .mkdir _ | .openLock _ | .release _ | .closeLock _ | .writeTemporary _ _ | .removeTemporary _ | .settings _ _
  | .configure | .closeRuntime | .print _ | .drain => some (.ok ())
  | .isLink path => some (.ok ((world.stored path).any Stored.link))
  | .recordExists path => some (.ok (world.stored path).isSome)
  | .stat path => some (((world.stored path).map fun stored => .ok stored.size).getD (.error .missing))
  | .load path =>
    match world.stored path with
    | none => some (.error .missing)
    | some ⟨_, _, .ok value⟩ => some (.ok value)
    | some ⟨_, _, .error raised⟩ => some (.error (.fault raised))
  | .replace _ _ => some (.ok 512)
  | .baseExists | .isInstance _ | .ownerAlive => some (.ok true)
  | .listing => some (.ok [])
  | .launchId => some "launch"
  | .nonce => nonces.find? fun nonce => nonce ∉ world.issued ∧ isNonce nonce
  | .spawn args => (children.find? fun child => world.started child = false ∧ setup.args child = args).map .ok
  | .poll child => some (world.exited child)
  | .bind => some (.ok 8765)
  | .pid => some 1
  | .await => some (.running true false)
  | .expired => some false
  | .noticeEmitted => some (world.notices i)
  | .close _ | .emitNotice | .entered _ | .returned _ _ | .exit _ => some ()

omit [DecidableEq ι] in
theorem quietReply_permitted {setup : Setup ι} {children : List ι} {nonces : List Text} {i : ι} {world : World ι}
    {op : GatewayOp ι} {reply : GatewayReply op}
    (answered : quietReply setup children nonces i world op = some reply) :
    Permitted setup i world op reply := by
  cases op with
  | lockExists name =>
    obtain rfl := Option.some.inj answered
    exact rfl
  | acquire name =>
    obtain rfl := Option.some.inj answered
    by_cases free : (world.instances name).holder = none
    · rw [if_pos free]
      exact free
    · rw [if_neg free]
      exact free
  | isLink path =>
    obtain rfl := Option.some.inj answered
    exact rfl
  | recordExists path =>
    obtain rfl := Option.some.inj answered
    cases found : world.stored path with
    | none => exact (congrArg (Option.all Stored.link) found).trans rfl
    | some stored => exact fun wrong => nomatch found.symm.trans wrong
  | stat path =>
    obtain rfl := Option.some.inj answered
    cases found : world.stored path with
    | none => exact (congrArg (Option.all Stored.link) found).trans rfl
    | some stored => exact (congrArg (Option.map Stored.size) found).trans rfl
  | load path =>
    rw [quietReply] at answered
    cases found : world.stored path with
    | none =>
      rw [found] at answered
      obtain rfl := Option.some.inj answered
      exact (congrArg (Option.all Stored.link) found).trans rfl
    | some stored =>
      obtain ⟨link, size, content⟩ := stored
      rw [found] at answered
      cases content with
      | ok value =>
        obtain rfl := Option.some.inj answered
        exact (congrArg (Option.map Stored.content) found).trans rfl
      | error raised =>
        obtain rfl := Option.some.inj answered
        exact trivial
  | nonce =>
    have fresh := @List.find?_some _
      (fun nonce => decide (nonce ∉ world.issued ∧ isNonce nonce = true)) _ _ answered
    have unused : reply ∉ world.issued ∧ isNonce reply = true := of_decide_eq_true fresh
    exact unused
  | spawn args =>
    obtain ⟨child, found, rfl⟩ := Option.map_eq_some_iff.mp answered
    have waiting :=
      @List.find?_some _ (fun child => decide (world.started child = false ∧ setup.args child = args)) _ _ found
    have unstarted : world.started child = false ∧ setup.args child = args := of_decide_eq_true waiting
    exact unstarted
  | poll child => exact (Option.some.inj answered).symm
  | noticeEmitted => exact (Option.some.inj answered).symm
  | _ => exact trivial

/-- A process that is not started gets no answer. -/
def answers (setup : Setup ι) (children : List ι) (nonces : List Text) (i : ι) (world : World ι)
    (op : GatewayOp ι) :
    Option (GatewayReply op) :=
  if world.started i = true then quietReply setup children nonces i world op else none

/-- The processes take a step each in the order of a schedule, in surroundings in which nothing fails. -/
def played (setup : Setup ι) (children : List ι) (nonces : List Text) (start : World ι) (schedule : List ι) :
    Gateways ι :=
  Config.play (recorded (machine setup) killed) (fun i s op => (answers setup children nonces i s.1 op).map some)
    schedule (Processes.initial (program setup) sigkill start)

theorem played_reached {setup : Setup ι} {children : List ι} {nonces : List Text} {start : World ι}
    {schedule : List ι} : Gateways.Reached setup start (played setup children nonces start schedule) := by
  refine Config.play_reachable (fun i s op reply answered => ?_) schedule _
  obtain ⟨reply, given, rfl⟩ := Option.map_eq_some_iff.mp answered
  obtain ⟨started, given⟩ := Option.ite_none_right_eq_some.mp given
  exact ⟨started, quietReply_permitted given⟩

end AxiomMcp.Gateway

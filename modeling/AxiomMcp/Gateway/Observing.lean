/-
**Observing a gateway.**

`inspect` finds out whether an instance is owned by taking its lock for a moment. Nobody can tell such an
observer from an owner: another observer then reports that the instance is running, and a server that tries the
lock just then is refused as already running (`observing_interferes`).

* `note`: what a process has seen and done with locks;
* `process_keeps`: a process tries a lock only while it holds none, reports an instance as running only after
  its own attempt found the lock held, and refuses to serve only if its attempt did;
* `Undisturbed`: the condition on a step, that no lock attempt finds the lock held by an observer;
* `observing_undisturbed`: in the runs without that, only a gateway is ever reported and only a gateway ever
  refuses another.
-/

import AxiomMcp.Gateway.Notes
import AxiomMcp.Gateway.World

namespace AxiomMcp.Gateway

open Lib Program Machine

variable {ι : Type}

/-! ### What a process has seen of locks -/

/-- What a process has seen and done. -/
structure Seen where
  /-- The instance whose `inspect` goes on, and whether its lock was found held since. -/
  call : Option (Text × Bool)
  /-- The lock that its last attempt found held. -/
  refused : Option Text
  /-- The lock it holds. -/
  holding : Option Text

/-- Nothing yet. -/
def Seen.initial : Seen := ⟨none, none, none⟩

/-- A lock is given back. -/
def Seen.dropped (seen : Seen) (name : Text) : Seen :=
  { seen with holding := seen.holding.filter (· ≠ name) }

/-- A lock was found held. -/
def Seen.found (seen : Seen) (name : Text) : Seen :=
  { seen with
    call := seen.call.map fun call => (call.1, call.2 || call.1 = name)
    refused := some name }

/-- One more operation. -/
def note (seen : Seen) : (op : GatewayOp ι) → GatewayReply op → Seen
  | .entered name, _ => { seen with call := some (name, false) }
  | .returned _ _, _ => { seen with call := none }
  | .acquire name, .ok _ => { seen with refused := none, holding := some name }
  | .acquire name, .error .busy => seen.found name
  | .acquire _, .error (.fault _) => { seen with refused := none }
  | .release name, .ok _ => seen.dropped name
  | .closeLock name, _ => seen.dropped name
  | .exit _, _ => { seen with holding := none }
  | _, _ => seen

/-- What a process keeps to. -/
def Keeps (args : Args) (seen : Seen) : GatewayOp ι → Prop
  | .returned name record => isTrue record "running" = true → seen.call = some (name, true)
  | .print (.failure .busy _ _ _) => args.action = .serve → seen.refused = some args.name
  | .acquire _ => seen.holding = none
  | _ => True

/-- Operations that are not noted. -/
def Quiet : GatewayOp ι → Prop
  | .entered _ | .returned _ _ | .acquire _ | .release _ | .closeLock _ | .exit _
  | .print (.failure _ _ _ _) => False
  | _ => True

theorem note_quiet {seen : Seen} (op : GatewayOp ι) (reply : GatewayReply op) (quiet : Quiet op) :
    note seen op reply = seen := by
  cases op with
  | entered name => exact quiet.elim
  | returned name record => exact quiet.elim
  | acquire name => exact quiet.elim
  | release name => exact quiet.elim
  | closeLock name => exact quiet.elim
  | exit code => exact quiet.elim
  | _ => rfl

theorem keeps_quiet {args : Args} {seen : Seen} (op : GatewayOp ι) (quiet : Quiet op) : Keeps args seen op := by
  cases op with
  | returned name record => exact quiet.elim
  | acquire name => exact quiet.elim
  | print output =>
    cases output with
    | failure raised code message json => exact quiet.elim
    | _ => exact trivial
  | _ => exact trivial

theorem quiet_reading {path : RecordPath} (op : GatewayOp ι) (reads : OfReading path op) : Quiet op := by
  cases op with
  | isLink other => exact trivial
  | stat other => exact trivial
  | load other => exact trivial
  | _ => exact reads.elim

theorem quiet_writing {path : RecordPath} {value : JsonObject} (op : GatewayOp ι)
    (writes : OfWriting path value op) : Quiet op := by
  cases op with
  | isLink _ | stat _ | load _ | recordExists _ | removeTemporary _ | writeTemporary _ _
  | replace _ _ => exact trivial
  | _ => exact writes.elim

theorem quiet_directory {name : Text} (op : GatewayOp ι) (asks : OfDirectory name op) : Quiet op := by
  cases op with
  | linked other => exact trivial
  | mkdir other => exact trivial
  | _ => exact asks.elim

theorem quiet_launch {args : Args} (op : GatewayOp ι) (asks : OfLaunch args op) : Quiet op := by
  cases op with
  | linked other => exact trivial
  | mkdir other => exact trivial
  | settings host port => exact trivial
  | _ => exact asks.elim

theorem quiet_server (op : GatewayOp ι) (asks : OfServer op) : Quiet op := by
  cases op with
  | print output =>
    cases output with
    | notice value json => exact trivial
    | _ => exact asks.elim
  | configure | bind | nonce | pid | await | drain | ownerAlive | expired | close _ | closeRuntime | emitNotice
  | isLink _ | stat _ | load _ | recordExists _ | removeTemporary _ | writeTemporary _ _
  | replace _ _ => exact trivial
  | _ => exact asks.elim

/-- What a process keeps to about locks. -/
def observing (args : Args) : Discipline ι Seen where
  note := note
  keeps := Keeps args
  Quiet := Quiet
  still _ op reply quiet := note_quiet op reply quiet
  kept _ op quiet := keeps_quiet op quiet

/-! ### Along the commands -/

section Along

variable {α : Type} {args : Args} {seen : Seen}

/-- The process holds no lock. -/
def Free (seen : Seen) : Prop := seen.holding = none

/-! ### Locks -/

/-- What a lock attempt leaves. -/
def Attempted (name : Text) (before : Seen) : Except GatewayError Unit → Seen → Prop
  | .ok _, seen => seen = { before with refused := none, holding := some name }
  | .error .busy, seen => seen = before.found name
  | .error _, seen => seen.holding = none

theorem dropped_free (seen : Seen) (free : seen.holding = none) (name : Text) : seen.dropped name = seen := by
  obtain ⟨call, refused, holding⟩ := seen
  obtain rfl : holding = none := free
  rfl

theorem seeing_ownership (name : Text) (free : seen.holding = none) :
    Seeing (ι := ι) (observing args) (Attempted name seen) (ownership name) seen := by
  have passes : ∀ raised, NotBusy raised → Attempted name seen (.error raised) seen := by
    intro raised other
    cases raised with
    | busy => exact absurd rfl other
    | _ => exact free
  refine seeing_attempt trivial (fun linked => seeing_refuse ?_ free) passes
  refine seeing_attempt trivial (fun _ => ?_) passes
  refine along_call free fun locked _ => ?_
  rcases locked with (_ | raised) | done
  · have still : (seen.found name).dropped name = seen.found name :=
      dropped_free (seen.found name) free name
    refine along_call trivial fun closed _ => ?_
    show Seeing (observing args) _ _ ((seen.found name).dropped name)
    rw [still]
    cases closed with
    | ok _ => exact rfl
    | error raised => exact free
  · refine along_call trivial fun closed _ => ?_
    have gone : (Seen.dropped { seen with refused := none } name).holding = none :=
      (congrArg Seen.holding (dropped_free { seen with refused := none } free name)).trans free
    cases closed with
    | ok _ => exact gone
    | error raised => exact gone
  · exact rfl

/-- Whatever the kernel says of it, a lock that is closed is given back. -/
theorem seeing_giveUp {name : Text} (holds : seen.holding = some name) :
    Seeing (ι := ι) (observing args) (fun outcome seen' => seen' = { seen with holding := none } ∧
      ∀ raised, outcome = .error raised → NotBusy raised) (giveUp name) seen := by
  have dropped : seen.dropped name = { seen with holding := none } := by
    unfold Seen.dropped
    rw [holds]
    simp
  have released : Seeing (ι := ι) (observing args)
    (fun outcome before => (before = seen ∨ before = { seen with holding := none }) ∧
      ∀ raised, outcome = .error raised → NotBusy raised) (.call (.release name) attempt) seen := by
    refine along_call trivial fun released _ => ?_
    cases released with
    | ok _ => exact ⟨Or.inr dropped, fun raised wrong => nomatch wrong⟩
    | error raised => exact ⟨Or.inl rfl, fun other same => Except.error.inj same ▸ fun wrong => nomatch wrong⟩
  refine Along.ensure released fun outcome before both => ?_
  have after : before.dropped name = { seen with holding := none } := by
    rcases both.1 with rfl | rfl
    · exact dropped
    · exact dropped_free _ rfl name
  refine along_call trivial fun closed _ => ?_
  show (watcher note).Along (Keeps args) _ _ (before.dropped name)
  rw [after]
  cases closed with
  | ok _ => exact ⟨rfl, both.2⟩
  | error raised => exact ⟨rfl, fun other same => Except.error.inj same ▸ fun wrong => nomatch wrong⟩

/-! ### Observers -/

/-- What an inspection reports. -/
def Reports (name : Text) (outcome : Except GatewayError JsonObject) (seen : Seen) : Prop :=
  seen.holding = none ∧ ∀ record, outcome = .ok record → isTrue record "running" = true →
    seen.call = some (name, true)

theorem reports_error {name : Text} {raised : GatewayError} (free : seen.holding = none) :
    Reports name (.error raised) seen := ⟨free, fun _ wrong => nomatch wrong⟩

theorem reports_stopped {name other : Text} (free : seen.holding = none) :
    Reports name (.ok (stopped other)) seen := by
  refine ⟨free, fun record same wrong => ?_⟩
  obtain rfl := Except.ok.inj same
  exact absurd wrong (by simp [stopped, isTrue, Json.get?])

theorem seeing_inspection (name : Text) (free : seen.holding = none) (inside : seen.call = some (name, false)) :
    Seeing (ι := ι) (observing args) (Reports name) (inspection name) seen := by
  refine seeing_bind (directory_asks name false) quiet_directory (fun _ => ?_) fun raised _ => reports_error free
  refine seeing_attempt trivial (fun there => ?_) fun raised _ => reports_error free
  split
  · refine (seeing_ownership name free).resume fun outcome seen' attempted => ?_
    rcases outcome with (_ | _ | _ | _) | done
    · obtain rfl : seen' = seen.found name := attempted
      have found : (seen.found name).call = some (name, true) := by
        show seen.call.map _ = _
        rw [inside]
        simp
      refine seeing_bind (readRecord_asks _) quiet_reading (fun record => seeing_refuse ?_ (reports_error free))
        fun raised _ => reports_error free
      exact ⟨free, fun _ _ _ => found⟩
    · exact reports_error attempted
    · exact reports_error attempted
    · exact reports_error attempted
    · obtain rfl : seen' = { seen with refused := none, holding := some name } := attempted
      refine (seeing_giveUp rfl).bind (fun _ seen' same => ?_) fun raised seen' same => ?_
      · obtain rfl := same.1
        exact reports_stopped rfl
      · obtain rfl := same.1
        exact reports_error rfl
  · exact reports_stopped free

theorem seeing_inspect (name : Text) (free : seen.holding = none) :
    Seeing (ι := ι) (observing args) (Stays Free) (inspect name) seen := by
  refine along_call trivial fun _ _ => ?_
  have inspects : Seeing (ι := ι) (observing args) (Reports name) (inspection name)
      { seen with call := some (name, false) } := seeing_inspection name free rfl
  refine inspects.bind
    (fun record seen' reports => ?_) fun raised seen' reports => reports.1
  exact along_call (fun shown => reports.2 record rfl shown) fun _ _ => reports.1

/-! ### Commands -/

theorem seeing_instanceRow (name : Text) (free : seen.holding = none) :
    Seeing (ι := ι) (observing args) (Stays Free) (instanceRow name) seen := by
  have inside : Seeing (ι := ι) (observing args) (Stays Free) (do
      let record ← readRecord ⟨name, .state⟩
      if foreignRecord record then .done none
      else do
        let now ← inspect name
        .done (some (merged record now))) seen := by
    refine stays_bind (stays_asks (readRecord_asks _) quiet_reading free) fun record seen' free => ?_
    split
    · exact free
    · exact stays_bind (seeing_inspect name free) fun _ _ free => free
  refine inside.rescue (fun _ _ free => free) fun raised seen' free => ?_
  split
  · exact free
  · exact free

theorem seeing_candidate (name : Text) (free : seen.holding = none) :
    Seeing (ι := ι) (observing args) (Stays Free) (candidate name) seen := by
  unfold candidate
  split
  · refine stays_attempt free trivial fun fits => ?_
    split
    · refine stays_attempt free trivial fun hasState => ?_
      split
      · exact seeing_instanceRow name free
      refine stays_attempt free trivial fun hasLock => ?_
      split
      · exact seeing_instanceRow name free
      · exact free
    · exact free
  · exact free

theorem seeing_candidates (names : List Text) (free : seen.holding = none) :
    Seeing (ι := ι) (observing args) (Stays Free) (candidates names) seen := by
  induction names generalizing seen with
  | nil => exact free
  | cons name rest ih =>
    refine stays_bind (seeing_candidate name free) fun row seen' free => ?_
    exact stays_bind (ih free) fun _ _ free => free

theorem seeing_instances (free : seen.holding = none) :
    Seeing (ι := ι) (observing args) (Stays Free) instances seen := by
  refine stays_bind (stays_asks (directory_asks _ _) quiet_directory free) fun _ seen' free => ?_
  refine stays_attempt free trivial fun there => ?_
  split
  · refine stays_attempt free trivial fun names => ?_
    exact seeing_candidates names free
  · exact free

theorem seeing_inventory (command : Args) (free : seen.holding = none) :
    Seeing (ι := ι) (observing args) (Stays Free) (inventory command) seen := by
  refine stays_refuse free (stays_bind (seeing_instances free) fun records seen' free => ?_)
  exact stays_bind (stays_print free trivial) fun _ _ free => free

theorem seeing_selectRunning (command : Args) (free : seen.holding = none) :
    Seeing (ι := ι) (observing args) (Stays Free) (selectRunning command) seen := by
  refine stays_bind (seeing_instances free) fun observed seen' free => stays_refuse free ?_
  have plain : Quiet (ι := ι) (.print (noneRunningOutput command)) := by
    unfold noneRunningOutput
    split <;> exact trivial
  split
  · refine seeing_call plain fun printed => ?_
    cases printed with
    | ok _ => exact free
    | error raised => exact free
  · exact free

theorem seeing_awaitGone (name : Text) (nonce : Json) (rounds : ℕ) (free : seen.holding = none) :
    Seeing (ι := ι) (observing args) (Stays Free) (awaitGone name nonce rounds) seen := by
  induction rounds generalizing seen with
  | zero => exact free
  | succ rounds ih =>
    refine stays_bind (seeing_inspect name free) fun current seen' free => ?_
    split
    · exact free
    · exact ih free

theorem seeing_requestStop (name : Text) (result : JsonObject) (free : seen.holding = none) :
    Seeing (ι := ι) (observing args) (Stays Free) (requestStop name result) seen := by
  refine stays_refuse free
    (stays_bind (stays_asks (directory_asks _ _) quiet_directory free) fun _ seen' free => ?_)
  refine stays_bind (stays_asks (writeRecord_asks _ _) quiet_writing free) fun _ seen' free => ?_
  refine stays_bind (seeing_awaitGone _ _ _ free) fun _ seen' free => ?_
  exact stays_bind (seeing_inspect name free) fun after seen' free => stays_refuse free free

theorem seeing_printRecord (record : JsonObject) (free : seen.holding = none) :
    Seeing (ι := ι) (observing args) (Stays Free) (printRecord record) seen :=
  stays_print free trivial

theorem seeing_statusOrStop (command : Args) (selected : Option JsonObject) (free : seen.holding = none) :
    Seeing (ι := ι) (observing args) (Stays Free) (statusOrStop command selected) seen := by
  refine stays_bind (seeing_inspect _ free) fun result seen' free => stays_refuse free ?_
  refine stays_bind ?_ fun reported seen' free => ?_
  · unfold stopIf
    split
    · exact seeing_requestStop _ result free
    · exact free
  refine stays_bind (seeing_printRecord reported free) fun _ seen' free => ?_
  refine stays_bind ?_ fun _ _ free => free
  unfold onlyIf
  split
  · exact stays_print free trivial
  · exact free

theorem seeing_stop (command : Args) (free : seen.holding = none) :
    Seeing (ι := ι) (observing args) (Stays Free) (stop command) seen := by
  unfold stop
  split
  · exact seeing_statusOrStop _ _ free
  · refine stays_bind (seeing_selectRunning command free) fun row seen' free => ?_
    cases row with
    | none => exact free
    | some row => exact seeing_statusOrStop _ _ free

theorem seeing_awaitListening (name launchId : Text) (child : ι) (rounds : ℕ) (free : seen.holding = none) :
    Seeing (observing args) (Stays Free) (awaitListening name launchId child rounds) seen := by
  induction rounds generalizing seen with
  | zero => exact free
  | succ rounds ih =>
    refine seeing_call trivial fun code => stays_refuse free ?_
    refine stays_bind (seeing_inspect name free) fun active seen' free => ?_
    split
    · exact seeing_printRecord active free
    · exact ih free

theorem seeing_start (around : Surroundings) (command : Args) (free : seen.holding = none) :
    Seeing (ι := ι) (observing args) (Stays Free) (start around command) seen := by
  refine stays_bind (stays_asks (checkLaunch_asks _) quiet_launch free) fun _ seen' free => ?_
  refine stays_bind (seeing_inspect _ free) fun active seen' free => ?_
  split
  · refine stays_refuse free ?_
    exact stays_bind (seeing_printRecord active free) fun _ _ free => free
  · refine seeing_call trivial fun launchId => seeing_call trivial fun child => ?_
    refine stays_bind (p := attempt child) ?_ fun child seen' free => ?_
    · cases child with
      | ok _ => exact free
      | error raised => exact free
    · exact stays_bind (seeing_awaitListening _ _ _ _ free) fun _ _ free => free

/-- How a command ends: without a lock, and refused as busy only if its own attempt was. -/
def Ends (args : Args) (outcome : Except GatewayError α) (seen : Seen) : Prop :=
  seen.holding = none ∧
    (outcome = .error .busy → args.action = .serve → seen.refused = some args.name)

theorem ends_other {raised : GatewayError} (free : seen.holding = none) (other : NotBusy raised) :
    Ends (α := α) args (.error raised) seen :=
  ⟨free, fun same => absurd (Except.error.inj same) other⟩

theorem ends_ok {a : α} (free : seen.holding = none) : Ends args (.ok a) seen := ⟨free, fun wrong => nomatch wrong⟩

theorem seeing_serve (around : Surroundings) (rounds : ℕ) (free : seen.holding = none) :
    Seeing (ι := ι) (observing args) (Ends args) (serve around args rounds) seen := by
  refine seeing_bind (checkLaunch_asks _) quiet_launch (fun _ => ?_) fun raised other => ends_other free other
  refine (seeing_ownership args.name free).bind (fun _ seen' attempted => ?_) fun raised seen' attempted => ?_
  · obtain rfl : seen' = { seen with refused := none, holding := some args.name } := attempted
    have served : Seeing (ι := ι) (observing args) (fun outcome seen' => seen'.holding = none ∧
        ∀ raised, outcome = .error raised → NotBusy raised)
        ((runServer around args rounds).ensure (giveUp args.name))
        { seen with refused := none, holding := some args.name } := by
      refine Along.ensure (seeing_asks (runServer_asks _ _ _) quiet_server) fun outcome before same => ?_
      obtain rfl := same.1
      refine (seeing_giveUp rfl).post fun closing seen' closed => ?_
      obtain rfl := closed.1
      cases closing with
      | ok _ => exact ⟨rfl, same.2⟩
      | error raised => exact ⟨rfl, fun other equal => Except.error.inj equal ▸ closed.2 raised rfl⟩
    refine served.bind (fun _ seen' ended => ends_ok ended.1) fun raised seen' ended => ?_
    exact ends_other ended.1 (ended.2 raised rfl)
  · cases raised with
    | busy =>
      obtain rfl : seen' = seen.found args.name := attempted
      exact ⟨free, fun _ _ => rfl⟩
    | _ => exact ends_other attempted fun wrong => nomatch wrong

theorem seeing_command (around : Surroundings) (rounds : ℕ) (free : seen.holding = none) :
    Seeing (ι := ι) (observing args) (Ends args) (command around args rounds) seen := by
  have other : args.action ≠ .serve →
      ∀ {p : GatewayProgram ι ℤ}, Seeing (observing args) (Stays Free) p seen →
        Seeing (observing args) (Ends args) p seen :=
    fun different _ along =>
      along.post fun outcome seen' free => ⟨free, fun _ serves => absurd serves different⟩
  unfold command
  cases action : args.action with
  | list => exact other (by rw [action]; decide) (seeing_inventory args free)
  | status =>
    refine other (by rw [action]; decide) ?_
    dsimp only
    split
    · exact seeing_statusOrStop _ _ free
    · exact seeing_inventory args free
  | stop => exact other (by rw [action]; decide) (seeing_stop args free)
  | start => exact other (by rw [action]; decide) (seeing_start around args free)
  | serve => exact seeing_serve around rounds free

theorem seeing_failure {raised : GatewayError} (code : ℤ) (message : Text) (free : seen.holding = none)
    (fits : raised = .busy → args.action = .serve → seen.refused = some args.name) :
    Seeing (ι := ι) (observing args) (Stays Free) (failure args raised code message) seen := by
  refine seeing_call trivial fun emitted => ?_
  refine stays_bind (p := .call (.print _) attempt) ?_ fun _ _ free => free
  have keeps : ∀ json, Keeps (ι := ι) args seen (.print (.failure raised code message json)) := by
    intro json
    cases raised with
    | busy => exact fits rfl
    | _ => exact trivial
  refine along_call (keeps _) fun printed _ => ?_
  cases printed with
  | ok _ => exact free
  | error raised => exact free

theorem seeing_handled {raised : GatewayError} (free : seen.holding = none)
    (fits : raised = .busy → args.action = .serve → seen.refused = some args.name) :
    Seeing (ι := ι) (observing args) (Stays Free) (handled args raised) seen := by
  unfold handled
  split
  all_goals first
    | exact seeing_failure _ _ free fits
    | exact free

/-- **What every process keeps to.** -/
theorem process_keeps (around : Surroundings) (rounds : ℕ) (free : seen.holding = none) :
    Seeing (ι := ι) (observing args) (fun _ _ => True) (process around args rounds) seen := by
  have ran : Seeing (ι := ι) (observing args) (Stays Free) (main around args rounds) seen :=
    (seeing_command around rounds free).rescue (fun _ _ ended => ended.1) fun raised seen' ended =>
      seeing_handled ended.1 fun same => ended.2 (congrArg Except.error same)
  refine ran.resume fun outcome seen' _ => ?_
  exact along_call trivial fun _ _ => trivial

end Along

/-! ### Histories -/

section Histories

variable [DecidableEq ι] {setup : Setup ι} {start : World ι} {history : List (GatewayMoment ι)}
  {i : ι} {name : Text}

/-- What a process has seen so far. -/
def seenBy (i : ι) (history : List (GatewayMoment ι)) : Seen := watched note Seen.initial i history

/-- Who holds a lock has noted so. -/
def Held (world : World ι) (history : List (GatewayMoment ι)) : Prop :=
  ∀ i name, (world.instances name).holder = some i → (seenBy i history).holding = some name

omit [DecidableEq ι] in
/-- What other operations do is not noted as a lock. -/
theorem note_holding {seen : Seen} {op : GatewayOp ι} {reply : GatewayReply op} (other : ¬ Locks op) :
    (note seen op reply).holding = seen.holding := by
  cases op with
  | acquire target => exact absurd trivial other
  | release target => exact absurd trivial other
  | closeLock target => exact absurd trivial other
  | exit code => exact absurd trivial other
  | _ => rfl

theorem dropped_other {seen : Seen} {target : Text} (holds : seen.holding = some name) (other : name ≠ target) :
    (seen.dropped target).holding = some name := by
  show seen.holding.filter _ = _
  rw [holds]
  exact Option.filter_some_pos (decide_eq_true other)

theorem held_kept {s : World ι} {op : GatewayOp ι} {reply : GatewayReply op} (held : Held s history)
    (keeps : Keeps (setup.args i) (seenBy i history) op) :
    Held (after i s op reply) (history ++ [⟨s, i, ⟨op, some reply⟩⟩]) := by
  intro j name holds
  show (watched note Seen.initial j _).holding = _
  rw [watched_snoc]
  by_cases self : i = j
  · subst self
    rw [noted_self]
    show (note (seenBy i history) op reply).holding = _
    by_cases locks : Locks op
    · cases op with
      | acquire target =>
        rcases reply with (_ | raised) | done
        · exact held i name holds
        · exact held i name holds
        · rcases holder_lock holds with ⟨rfl, _⟩ | before
          · rfl
          · have nothing : (seenBy i history).holding = none := keeps
            rw [held i name before] at nothing
            cases nothing
      | release target =>
        cases reply with
        | ok _ =>
          obtain ⟨before, mine⟩ := holder_unlock holds
          exact dropped_other (held i name before) fun same => mine same rfl
        | error raised => exact held i name holds
      | closeLock target =>
        obtain ⟨before, mine⟩ := holder_unlock holds
        exact dropped_other (held i name before) fun same => mine same rfl
      | exit code => exact absurd rfl (holder_ended holds).2
      | _ => exact locks.elim
    · rw [note_holding locks]
      rw [holder_after locks] at holds
      exact held i name holds
  · rw [noted_other self]
    refine held j name ?_
    by_cases locks : Locks op
    · cases op with
      | acquire target =>
        rcases reply with (_ | raised) | done
        · exact holds
        · exact holds
        · rcases holder_lock holds with ⟨_, same⟩ | before
          · exact absurd same.symm self
          · exact before
      | release target =>
        cases reply with
        | ok _ => exact (holder_unlock holds).1
        | error raised => exact holds
      | closeLock target => exact (holder_unlock holds).1
      | exit code => exact (holder_ended holds).1
      | _ => exact locks.elim
    · rwa [holder_after locks] at holds

theorem held_killed {s : World ι} {op : GatewayOp ι} (held : Held s history) :
    Held (killed i s) (history ++ [⟨s, i, ⟨op, none⟩⟩]) := by
  intro j name holds
  show (watched note Seen.initial j _).holding = _
  rw [watched_snoc, noted_killed]
  exact held j name (holder_ended holds).1

/-- **At every moment of every run**, who holds a lock has noted so, and every process keeps to its rules. -/
theorem observing_lawful (beginning : Beginning start) {c : Gateways ι} (reached : Gateways.Reached setup start c) :
    Lawful (machine setup) note Seen.initial (fun i => Keeps (setup.args i)) Held c.shared := by
  have along : ∀ i, (watcher note).Along (Keeps (setup.args i)) (fun _ _ => True) (program setup i) Seen.initial :=
    fun i => process_keeps (setup.around i) (setup.rounds i) rfl
  refine Processes.Reached.lawful along (fun _ _ _ _ => trivial) ?_
    (fun i s history op reply held keeps _ => held_kept held keeps)
    (fun i s history op held _ => held_killed held) reached
  intro i name holds
  rw [beginning.free] at holds
  cases holds

omit [DecidableEq ι] in
/-- One more operation while an `inspect` goes on. -/
theorem note_call {seen : Seen} {op : GatewayOp ι} {reply : GatewayReply op} {found : Bool}
    (inside : (note seen op reply).call = some (name, found)) :
    (op = .entered name ∧ found = false) ∨
      ∃ before, seen.call = some (name, before) ∧ (∀ other, op ≠ .entered other) ∧
        (found = true → before = true ∨
          (⟨op, some reply⟩ : Call (GatewayOp ι) fun op => Option (GatewayReply op)) =
            ⟨.acquire name, some (.error .busy)⟩) := by
  have same (other : ∀ other, op ≠ .entered other) (stays : seen.call = some (name, found)) :
      (op = .entered name ∧ found = false) ∨
        ∃ before, seen.call = some (name, before) ∧ (∀ other, op ≠ .entered other) ∧
          (found = true → before = true ∨
            (⟨op, some reply⟩ : Call (GatewayOp ι) fun op => Option (GatewayReply op)) =
              ⟨.acquire name, some (.error .busy)⟩) :=
    Or.inr ⟨found, stays, other, fun yes => Or.inl yes⟩
  cases op with
  | entered other =>
    obtain ⟨rfl, rfl⟩ := Prod.mk.inj (Option.some.inj inside)
    exact Or.inl ⟨rfl, rfl⟩
  | returned other record => cases inside
  | acquire target =>
    rcases reply with (_ | raised) | done
    · obtain ⟨⟨called, before⟩, was, now⟩ := Option.map_eq_some_iff.mp inside
      obtain ⟨rfl, rfl⟩ := Prod.mk.inj now
      refine Or.inr ⟨before, was, fun other => nofun, fun yes => ?_⟩
      rcases Bool.or_eq_true_iff.mp yes with already | here
      · exact Or.inl already
      · obtain rfl : called = target := of_decide_eq_true here
        exact Or.inr rfl
    · exact same (fun other => nofun) inside
    · exact same (fun other => nofun) inside
  | release target => cases reply <;> exact same (fun other => nofun) inside
  | _ => exact same (fun other => nofun) inside

/-- The part of a history since a process last called `inspect(name)`. -/
structure During (i : ι) (name : Text) (history : List (GatewayMoment ι))
    (during : List (GatewayMoment ι)) : Prop where
  called : ∃ before enter, history = before ++ enter :: during ∧ enter.who = i ∧
    enter.call = ⟨.entered name, some ()⟩
  only : ∀ moment ∈ during, moment.who = i → ∀ other, moment.call ≠ ⟨.entered other, some ()⟩

/-- While an `inspect` goes on, its call can be found, and the attempt by which its lock was found held. -/
theorem call_since {found : Bool} (inside : (seenBy i history).call = some (name, found)) :
    ∃ during, During i name history during ∧ (found = true → ∃ moment ∈ during, moment.who = i ∧
      moment.call = ⟨.acquire name, some (.error .busy)⟩) := by
  induction history using List.reverseRec generalizing found with
  | nil => cases inside
  | append_singleton history last ih =>
    have longer : ∀ {before : Bool}, (seenBy i history).call = some (name, before) →
        (last.who = i → ∀ other, last.call ≠ ⟨.entered other, some ()⟩) →
        (found = true → before = true ∨ (last.who = i ∧ last.call = ⟨.acquire name, some (.error .busy)⟩)) →
        ∃ during, During i name (history ++ [last]) during ∧ (found = true → ∃ moment ∈ during, moment.who = i ∧
          moment.call = ⟨.acquire name, some (.error .busy)⟩) := by
      intro before was other attempts
      obtain ⟨during, ⟨⟨first, enter, rfl, who, entered⟩, only⟩, attempted⟩ := ih was
      refine ⟨during ++ [last], ⟨⟨first, enter, ?_, who, entered⟩, fun moment member => ?_⟩, fun yes => ?_⟩
      · rw [List.append_assoc, List.cons_append]
      · rcases List.mem_append.mp member with old | new
        · exact only moment old
        · exact List.mem_singleton.mp new ▸ other
      · rcases attempts yes with already | here
        · obtain ⟨moment, member, attempt⟩ := attempted already
          exact ⟨moment, List.mem_append_left _ member, attempt⟩
        · exact ⟨last, List.mem_append_right _ (List.mem_singleton_self _), here⟩
    have now : (noted note i (seenBy i history) last).call = some (name, found) := by
      rw [← inside]
      exact congrArg Seen.call watched_snoc.symm
    by_cases self : last.who = i
    · obtain ⟨s, who, op, reply⟩ := last
      obtain rfl : who = i := self
      cases reply with
      | none =>
        rw [noted_killed] at now
        exact longer now (fun _ other => nofun) fun yes => Or.inl yes
      | some reply =>
        rw [noted_self] at now
        rcases note_call now with ⟨rfl, rfl⟩ | ⟨before, was, other, attempts⟩
        · exact ⟨[], ⟨⟨history, _, rfl, rfl, rfl⟩, fun _ wrong => nomatch wrong⟩, fun wrong => nomatch wrong⟩
        · refine longer was (fun _ target same => other target ?_) fun yes =>
            (attempts yes).imp id fun here => ⟨rfl, here⟩
          exact congrArg Call.op same
    · rw [noted_other self] at now
      exact longer now (fun wrong => absurd wrong self) fun yes => Or.inl yes

/-- A lock that a process has found held was found so by one of its attempts. -/
theorem refused_since (refused : (seenBy i history).refused = some name) :
    ∃ moment ∈ history, moment.who = i ∧ moment.call = ⟨.acquire name, some (.error .busy)⟩ := by
  obtain ⟨before, moment, rest, rfl, mine, off, since⟩ :=
    @watched_since ι _ _ (World ι) Seen _ note .initial i history (fun seen => seen.refused = some name)
      (fun wrong => nomatch wrong) refused
  refine ⟨moment, List.mem_append_right _ List.mem_cons_self, mine, ?_⟩
  have on := since [] (List.nil_prefix)
  rw [watched_snoc] at on
  obtain ⟨s, who, op, reply⟩ := moment
  obtain rfl : who = i := mine
  cases reply with
  | none =>
    rw [noted_killed] at on
    exact absurd on off
  | some reply =>
    rw [noted_self] at on
    cases op with
    | acquire target =>
      rcases reply with (_ | raised) | done
      · obtain rfl : target = name := Option.some.inj on
        rfl
      · cases on
      · cases on
    | release target => cases reply <;> exact absurd on off
    | _ => exact absurd on off

end Histories

/-! ### What observers and servers are told -/

section Claims

variable [DecidableEq ι] {setup : Setup ι} {start : World ι} {history : List (GatewayMoment ι)}

/-- `inspect` reports an instance as running only if a gateway owns it at some moment of the call. -/
def ReportsOwned (setup : Setup ι) (history : List (GatewayMoment ι)) : Prop :=
  ∀ before moment after name record reply, history = before ++ moment :: after →
    moment.call = ⟨.returned name record, reply⟩ → isTrue record "running" = true →
      ∃ during, During moment.who name before during ∧ ∃ moment' ∈ during, ∃ j, Owns setup moment'.before name j

/-- A server is refused as already running only if another gateway owned the instance when it tried the lock. -/
def RefusedByOwner (setup : Setup ι) (history : List (GatewayMoment ι)) : Prop :=
  ∀ before moment after code message json, history = before ++ moment :: after →
    (setup.args moment.who).action = .serve → moment.call.op = .print (.failure .busy code message json) →
      ∃ moment' ∈ before, moment'.who = moment.who ∧
        moment'.call = ⟨.acquire (setup.args moment.who).name, some (.error .busy)⟩ ∧
          ∃ j, j ≠ moment.who ∧ Owns setup moment'.before (setup.args moment.who).name j

/-- No lock is tried while an observer holds it. -/
def Undisturbed (setup : Setup ι) (moment : GatewayMoment ι) : Prop :=
  ∀ name j, moment.call.op = .acquire name → (moment.before.instances name).holder = some j →
    (setup.args j).action = .serve

/-- A lock that is found held is held by another process. -/
theorem busy_held {s : World ι × List (GatewayMoment ι)}
    (lawful : Lawful (machine setup) note Seen.initial (fun i => Keeps (setup.args i)) Held s)
    {moment : GatewayMoment ι} {name : Text} (member : moment ∈ s.2)
    (attempt : moment.call = ⟨.acquire name, some (.error .busy)⟩) :
    ∃ j, (moment.before.instances name).holder = some j ∧ j ≠ moment.who := by
  obtain ⟨before, rest, split⟩ := List.mem_iff_append.mp member
  obtain ⟨held, keeps, permitted⟩ := lawful.ever before moment rest split
  obtain ⟨s, who, call⟩ := moment
  obtain rfl : call = ⟨.acquire name, some (.error .busy)⟩ := attempt
  have busy : (s.instances name).holder ≠ none := (permitted _ rfl).2
  obtain ⟨j, holder⟩ := Option.ne_none_iff_exists'.mp busy
  refine ⟨j, holder, ?_⟩
  rintro rfl
  have nothing : (seenBy j before).holding = none := keeps
  rw [held j name holder] at nothing
  cases nothing

/-- **In a run in which no lock is tried while an observer holds it**, an instance is reported as running only if
a gateway owned it during the call, and a server is refused only if another gateway owned its instance. -/
theorem observing_undisturbed (setup : Setup ι) (start : World ι) (beginning : Beginning start) (c : Gateways ι)
    (reached : Gateways.Reached setup start c) (undisturbed : ∀ moment ∈ c.shared.2, Undisturbed setup moment) :
    ReportsOwned setup c.shared.2 ∧ RefusedByOwner setup c.shared.2 := by
  have lawful := observing_lawful beginning reached
  have owned : ∀ (moment : GatewayMoment ι) name, moment ∈ c.shared.2 →
      moment.call = ⟨.acquire name, some (.error .busy)⟩ →
        ∃ j, j ≠ moment.who ∧ Owns setup moment.before name j := by
    intro moment name member attempt
    obtain ⟨j, holder, other⟩ := busy_held lawful member attempt
    exact ⟨j, other, holder, undisturbed moment member name j (congrArg Call.op attempt) holder⟩
  constructor
  · intro before moment rest name record reply split returned runs
    obtain ⟨_, keeps, _⟩ := lawful.ever before moment rest split
    rw [returned] at keeps
    obtain ⟨during, inside, attempted⟩ := call_since (keeps runs)
    obtain ⟨earlier, member, _, attempt⟩ := attempted rfl
    obtain ⟨first, enter, parts, _, _⟩ := inside.called
    have earlierMember : earlier ∈ c.shared.2 := by
      rw [split, parts]
      exact List.mem_append_left _ (List.mem_append_right _ (List.mem_cons_of_mem _ member))
    obtain ⟨j, _, owns⟩ := owned earlier name earlierMember attempt
    exact ⟨during, inside, earlier, member, j, owns⟩
  · intro before moment rest code message json split serves printed
    obtain ⟨_, keeps, _⟩ := lawful.ever before moment rest split
    rw [printed] at keeps
    obtain ⟨earlier, member, who, attempt⟩ := refused_since (keeps serves)
    have earlierMember : earlier ∈ c.shared.2 := by
      rw [split]
      exact List.mem_append_left _ member
    obtain ⟨j, other, owns⟩ := owned earlier _ earlierMember attempt
    exact ⟨earlier, member, who, attempt, j, who ▸ other, owns⟩

end Claims

/-! ### A start that refuses its own child -/

/-- The command line of a launch. -/
def shopArgs (action : Action) : Args where
  action := action
  selected := some "shop"
  host := "127.0.0.1"
  port := 8765
  allowHost := ["127.0.0.1"]
  allowOrigin := ["http://127.0.0.1"]
  idleTimeoutMinutes := ⟨0⟩
  ownerPid := none
  cacheMib := 64
  cacheEntries := 32
  maxInflight := 8
  json := false
  launchId := "launch"

/-- What a launch finds around it. -/
def shopSurroundings : Surroundings := ⟨"python", "0.1.11", "", "", "", fun _ => "signature"⟩

/-- Two processes, of which the second one is a server. -/
def shopSetup (first : Action) : Setup Bool where
  args serves := if serves then shopArgs .serve else shopArgs first
  around _ := shopSurroundings
  rounds _ := 3

/-- An instance that nobody has used, and the processes that are started by hand. -/
def shopStart (lockFile : Bool) (started : Bool → Bool) : World Bool where
  instances _ := ⟨lockFile, none, fun _ => none⟩
  issued := []
  started := started
  exited _ := none
  notices _ := false

theorem shopStart_beginning (lockFile : Bool) (started : Bool → Bool) : Beginning (shopStart lockFile started) where
  free _ := rfl
  issued _ _ _ found := nomatch found

/-- The refusal of a server. -/
def isRefusal : GatewayOp Bool → Bool
  | .print (.failure .busy _ _ _) => true
  | _ => false

/-- `start` launches its child and looks for it; the child tries the lock just then. -/
def refusedChild : Gateways Bool :=
  played (shopSetup .start) [true] [] (shopStart false fun i => !i)
    (List.replicate 12 false ++ List.replicate 5 true ++ List.replicate 4 false ++ List.replicate 4 true)

/-- The child is refused as already running, although there is no other server. -/
theorem refusedChild_run :
    (refusedChild.shared.2.any fun moment => moment.who && isRefusal moment.call.op) = true := by
  decide +kernel

/-- Observers do interfere. -/
theorem observing_interferes : ¬ ∀ (setup : Setup Bool) (start : World Bool) (c : Gateways Bool), Beginning start →
    Gateways.Reached setup start c → ReportsOwned setup c.shared.2 ∧ RefusedByOwner setup c.shared.2 := by
  intro all
  have both := all (shopSetup .start) _ refusedChild (shopStart_beginning false fun i => !i) played_reached
  obtain ⟨⟨s, who, op, reply⟩, member, same⟩ := List.any_eq_true.mp refusedChild_run
  obtain ⟨rfl, refusal⟩ := Bool.and_eq_true_iff.mp same
  obtain ⟨before, rest, split⟩ := List.mem_iff_append.mp member
  have owned : ∀ code message json, op = .print (.failure .busy code message json) → False := by
    rintro code message json rfl
    obtain ⟨_, _, _, _, j, other, _, serves⟩ := both.2 before _ rest code message json split rfl rfl
    cases j with
    | true => exact other rfl
    | false => cases serves
  cases op with
  | print output =>
    cases output with
    | failure raised code message json =>
      cases raised with
      | busy => exact owned code message json rfl
      | _ => cases refusal
    | _ => cases refusal
  | _ => cases refusal

/-- A lock attempt of these processes does not find the first one. -/
def calm (moment : GatewayMoment Bool) : Bool :=
  match moment.call.op with
  | .acquire name => (moment.before.instances name).holder ≠ some false
  | _ => true

theorem calm_undisturbed {first : Action} {moment : GatewayMoment Bool} (quiet : calm moment = true) :
    Undisturbed (shopSetup first) moment := by
  intro name j acquires holder
  unfold calm at quiet
  rw [acquires] at quiet
  cases j with
  | true => rfl
  | false => exact absurd holder (of_decide_eq_true quiet)

/-- A server takes the lock, and then `status` asks for it. -/
def seenServer : Gateways Bool :=
  played (shopSetup .status) [] [] (shopStart false fun _ => true)
    (List.replicate 6 true ++ List.replicate 10 false)

/-- The return of an `inspect` that reports a running instance. -/
def isReport : GatewayOp Bool → Bool
  | .returned _ record => isTrue record "running"
  | _ => false

/-- What `status` reports of the server, by the theorem. -/
theorem observing_seenServer : ∃ moment ∈ seenServer.shared.2, isReport moment.call.op = true ∧
    (ReportsOwned (shopSetup .status) seenServer.shared.2 ∧
      RefusedByOwner (shopSetup .status) seenServer.shared.2) := by
  have run : (seenServer.shared.2.any fun moment => isReport moment.call.op) = true ∧
      seenServer.shared.2.all calm = true := by
    decide +kernel
  obtain ⟨moment, member, reports⟩ := List.any_eq_true.mp run.1
  refine ⟨moment, member, reports, ?_⟩
  exact observing_undisturbed (shopSetup .status) _ (shopStart_beginning false fun _ => true)
    seenServer played_reached
    fun moment member => calm_undisturbed (List.all_eq_true.mp run.2 moment member)

end AxiomMcp.Gateway

/-
**What the parts of a command ask and raise.**

* `OfDirectory`, `OfReading`, `OfWriting`, `OfServer`: the operations of the parts;
* `readRecord_asks`, `writeRecord_asks`, `serving_asks`, `checkLaunch_asks`: each part asks its own operations
  and never raises `GuardBusy`, which only a lock attempt does.
-/

import AxiomMcp.Gateway.Commands
import AxiomMcp.Lib.Traces

namespace AxiomMcp.Gateway

open Lib Program

variable {ι α β : Type}

/-- Anything but `GuardBusy`. -/
def NotBusy (raised : GatewayError) : Prop := raised ≠ .busy

/-- A part of a command that asks operations of a kind and never raises `GuardBusy`. -/
structure Asks (asks : GatewayOp ι → Prop) (p : GatewayProgram ι α) : Prop where
  only : p.Only asks
  throws : p.Throws NotBusy

section Asks

variable {asks more : GatewayOp ι → Prop}

theorem Asks.mono {p : GatewayProgram ι α} (kept : Asks asks p) (weaker : ∀ op, asks op → more op) : Asks more p :=
  ⟨kept.only.mono weaker, kept.throws⟩

theorem Asks.bind {p : GatewayProgram ι α} {f : α → GatewayProgram ι β} (first : Asks asks p)
    (next : ∀ a, Asks asks (f a)) : Asks asks (p >>= f) :=
  ⟨first.only.bind fun a => (next a).only, first.throws.bind fun a => (next a).throws⟩

theorem Asks.ensure {p : GatewayProgram ι α} {last : GatewayProgram ι Unit} (first : Asks asks p)
    (ends : Asks asks last) : Asks asks (p.ensure last) :=
  ⟨first.only.ensure ends.only, first.throws.ensure ends.throws⟩

theorem Asks.rescue {p : GatewayProgram ι α} {handler : GatewayError → GatewayProgram ι α} (first : Asks asks p)
    (only : ∀ raised, (handler raised).Only asks)
    (throws : ∀ raised, NotBusy raised → (handler raised).Throws NotBusy) :
    Asks asks (p.rescue handler) :=
  ⟨first.only.rescue only, first.throws.rescue throws⟩

theorem asks_done (a : α) : Asks asks (.done a) := ⟨trivial, trivial⟩

theorem asks_raise {raised : GatewayError} (other : NotBusy raised) : Asks (α := α) asks (.raise raised) :=
  ⟨trivial, other⟩

theorem asks_call {op : GatewayOp ι} {next : GatewayReply op → GatewayProgram ι α} (allowed : asks op)
    (each : ∀ reply, Asks asks (next reply)) : Asks asks (.call op next) :=
  ⟨⟨allowed, fun reply => (each reply).only⟩, fun reply => (each reply).throws⟩

theorem asks_attempt (reply : Except Fault α) : Asks asks (attempt reply) := by
  cases reply with
  | ok a => exact asks_done a
  | error raised => exact asks_raise fun wrong => nomatch wrong

theorem asks_refuse {wrong : Bool} {raised : GatewayError} (other : NotBusy raised) :
    Asks asks (refuse wrong raised) := by
  cases wrong with
  | true => exact asks_raise other
  | false => exact asks_done ()

theorem asks_onlyIf {condition : Bool} {step : GatewayProgram ι Unit} (kept : Asks asks step) :
    Asks asks (onlyIf condition step) := by
  cases condition with
  | true => exact kept
  | false => exact asks_done ()

end Asks

/-! ### Directories and records -/

/-- What `directory` asks. -/
def OfDirectory (name : Text) : GatewayOp ι → Prop
  | .linked other | .mkdir other => other = name
  | _ => False

/-- What `read_record` asks. -/
def OfReading (path : RecordPath) : GatewayOp ι → Prop
  | .isLink other | .stat other | .load other => other = path
  | _ => False

/-- What `write_record` asks. -/
def OfWriting (path : RecordPath) (value : JsonObject) : GatewayOp ι → Prop
  | .isLink other | .stat other | .load other | .recordExists other | .removeTemporary other => other = path
  | .writeTemporary other content | .replace other content => other = path ∧ content = value
  | _ => False

theorem directory_asks (name : Text) (create : Bool) :
    Asks (ι := ι) (OfDirectory name) (directory name create) := by
  unfold directory
  refine Asks.bind (asks_refuse fun wrong => nomatch wrong) fun _ => ?_
  refine Asks.bind (asks_call rfl fun _ => asks_attempt _) fun linked => ?_
  refine Asks.bind (asks_refuse fun wrong => nomatch wrong) fun _ => ?_
  exact asks_onlyIf (asks_call rfl fun _ => asks_attempt _)

theorem recordOf_asks (asks : GatewayOp ι → Prop) (value : Json) : Asks asks (recordOf value) := by
  cases value with
  | obj entries => exact asks_done entries
  | _ => exact asks_raise fun wrong => nomatch wrong

theorem readRecord_asks (path : RecordPath) : Asks (ι := ι) (OfReading path) (readRecord path) := by
  unfold readRecord
  refine Asks.bind (asks_call rfl fun _ => asks_attempt _) fun linked => ?_
  refine Asks.bind (asks_refuse fun wrong => nomatch wrong) fun _ => ?_
  refine asks_call rfl fun size => ?_
  rcases size with (_ | raised) | size
  · exact asks_done _
  · exact asks_raise fun wrong => nomatch wrong
  refine Asks.bind (asks_refuse fun wrong => nomatch wrong) fun _ => ?_
  refine asks_call rfl fun value => ?_
  rcases value with (_ | raised) | value
  · exact asks_done _
  · exact asks_raise fun wrong => nomatch wrong
  · exact recordOf_asks _ value

theorem checkPrevious_asks (asks : GatewayOp ι → Prop) (kind : RecordKind) (previous : JsonObject) :
    Asks asks (checkPrevious kind previous) := by
  cases kind with
  | state => exact asks_refuse fun wrong => nomatch wrong
  | stop => exact asks_refuse fun wrong => nomatch wrong

theorem reading_writing {path : RecordPath} {value : JsonObject} (op : GatewayOp ι) (reads : OfReading path op) :
    OfWriting path value op := by
  cases op with
  | isLink other => exact reads
  | stat other => exact reads
  | load other => exact reads
  | _ => exact reads.elim

theorem writeRecord_asks (path : RecordPath) (value : JsonObject) :
    Asks (ι := ι) (OfWriting path value) (writeRecord path value) := by
  unfold writeRecord
  refine Asks.bind (asks_call rfl fun _ => asks_attempt _) fun there => ?_
  refine (asks_onlyIf ?_).bind fun _ => ?_
  · exact ((readRecord_asks path).mono reading_writing).bind fun previous => checkPrevious_asks _ _ _
  · refine Asks.ensure ?_ (asks_call rfl fun _ => asks_attempt _)
    refine asks_call ⟨rfl, rfl⟩ fun written => (asks_attempt written).bind fun _ => ?_
    exact asks_call ⟨rfl, rfl⟩ fun size => asks_attempt _

/-! ### The server -/

/-- What `run_server` asks. -/
def OfServer : GatewayOp ι → Prop
  | .configure | .bind | .nonce | .pid | .await | .drain | .ownerAlive | .expired | .close _ | .closeRuntime
  | .print (.notice _ _) | .emitNotice => True
  | .isLink _ | .stat _ | .load _ | .recordExists _ | .removeTemporary _ | .writeTemporary _ _
  | .replace _ _ => True
  | _ => False

theorem writing_server {path : RecordPath} {value : JsonObject} (op : GatewayOp ι)
    (writes : OfWriting path value op) : OfServer op := by
  cases op with
  | isLink _ | stat _ | load _ | recordExists _ | removeTemporary _ | writeTemporary _ _
  | replace _ _ => exact trivial
  | _ => exact writes.elim

theorem reading_server {path : RecordPath} (op : GatewayOp ι) (reads : OfReading path op) : OfServer op := by
  cases op with
  | isLink _ | stat _ | load _ => exact trivial
  | _ => exact reads.elim

theorem readStop_asks (name : Text) : Asks (ι := ι) OfServer (readStop name) := by
  refine ((readRecord_asks _).mono reading_server).rescue (fun raised => ?_) fun raised other => ?_
  · split <;> exact trivial
  · split
    · exact trivial
    · exact other

theorem ownerAlive_asks (args : Args) : Asks (ι := ι) OfServer (ownerAlive args) := by
  unfold ownerAlive
  split
  · exact asks_call trivial fun _ => asks_attempt _
  · exact asks_done _

theorem wake_asks {args : Args} {nonce : Text} {next : GatewayProgram ι Monitored} (goesOn : Asks OfServer next) :
    Asks OfServer (wake args nonce next) := by
  unfold wake
  refine (readStop_asks _).bind fun stop => ?_
  split
  · exact asks_call trivial fun _ => asks_done _
  refine (ownerAlive_asks args).bind fun alive => ?_
  split
  · refine asks_call trivial fun expired => ?_
    split
    · exact asks_call trivial fun _ => asks_done _
    · exact goesOn
  · exact asks_call trivial fun _ => asks_done _

theorem monitorRounds_asks (args : Args) (nonce : Text) (rounds : ℕ) (shouldExit : Bool) :
    Asks (ι := ι) OfServer (monitorRounds args nonce rounds shouldExit) := by
  induction rounds generalizing shouldExit with
  | zero => exact ⟨trivial, trivial⟩
  | succ rounds ih =>
    unfold monitorRounds
    split
    · exact asks_done _
    refine asks_call trivial fun stands => ?_
    cases stands with
    | ended outcome => exact asks_done _
    | running started shouldExit => exact wake_asks (ih shouldExit)

theorem emitListening_asks (args : Args) (port : ℤ) : Asks (ι := ι) OfServer (emitListening args port) :=
  Asks.bind (asks_call trivial fun _ => asks_attempt _) fun _ =>
    asks_onlyIf (asks_call trivial fun _ => asks_done _)

theorem monitorStart_asks (args : Args) (record : JsonObject) (port : ℤ) (nonce : Text) (rounds waits : ℕ) :
    Asks (ι := ι) OfServer (monitorStart args record port nonce rounds waits) := by
  induction waits with
  | zero => exact ⟨trivial, trivial⟩
  | succ waits ih =>
    refine asks_call trivial fun stands => ?_
    rcases stands with ⟨started, shouldExit⟩ | outcome
    · cases started with
      | true =>
        refine ((writeRecord_asks _ _).mono writing_server).bind fun _ => ?_
        exact (emitListening_asks args port).bind fun _ => monitorRounds_asks args nonce rounds shouldExit
      | false =>
        cases shouldExit with
        | true => exact asks_done _
        | false => exact ih
    · exact asks_done _

theorem monitor_asks (args : Args) (record : JsonObject) (port : ℤ) (nonce : Text) (rounds : ℕ) :
    Asks (ι := ι) OfServer (monitor args record port nonce rounds) := by
  have handled : ∀ outcome, Asks (ι := ι) OfServer (monitorEnd outcome) := by
    intro outcome
    cases outcome with
    | ok ended => exact asks_done _
    | error raised =>
      unfold monitorEnd
      dsimp only
      split
      · exact asks_call trivial fun _ => asks_done _
      · exact asks_done _
  exact ⟨(monitorStart_asks args record port nonce rounds rounds).only.resume fun outcome => (handled outcome).only,
    throws_resume _ fun outcome => (handled outcome).throws⟩

theorem serveWorker_asks (args : Args) (record : JsonObject) (port : ℤ) (nonce : Text) (rounds : ℕ) :
    Asks (ι := ι) OfServer (serveWorker args record port nonce rounds) := by
  refine (monitor_asks args record port nonce rounds).bind fun ended => ?_
  refine Asks.bind ?_ fun _ => asks_refuse fun wrong => nomatch wrong
  cases ended.2 with
  | none => exact asks_call trivial fun _ => asks_attempt _
  | some outcome => exact asks_attempt outcome

theorem runServer_asks (around : Surroundings) (args : Args) (rounds : ℕ) :
    Asks (ι := ι) OfServer (runServer around args rounds) := by
  refine Asks.bind (asks_call trivial fun _ => asks_attempt _) fun _ => ?_
  refine Asks.ensure ?_ (asks_call trivial fun _ => asks_attempt _)
  refine asks_call trivial fun port => (asks_attempt port).bind fun port => ?_
  refine asks_call trivial fun nonce => asks_call trivial fun pid => ?_
  exact ((writeRecord_asks _ _).mono writing_server).bind fun _ => serveWorker_asks _ _ _ _ _

/-! ### Before a launch -/

/-- What `start` and `serve` ask first. -/
def OfLaunch (args : Args) : GatewayOp ι → Prop
  | .linked other | .mkdir other => other = args.name
  | .settings host port => host = args.host ∧ port = args.port
  | _ => False

theorem checkLaunch_asks (args : Args) : Asks (ι := ι) (OfLaunch args) (checkLaunch args) := by
  have checked : Asks (ι := ι) (OfLaunch args) (directory args.name true) :=
    (directory_asks _ _).mono fun op asks => by
      cases op with
      | linked other => exact asks
      | mkdir other => exact asks
      | _ => exact asks.elim
  refine checked.bind fun _ => Asks.bind (asks_refuse fun wrong => nomatch wrong) fun _ => ?_
  refine Asks.bind (asks_call ⟨rfl, rfl⟩ fun _ => asks_attempt _) fun _ => ?_
  exact asks_refuse fun wrong => nomatch wrong

end AxiomMcp.Gateway

/-
**The commands of a gateway (`gateway.py`).**

Each function of the source as a program over `GatewayOp`.

* `readRecord`, `writeRecord`: the records, read and replaced;
* `ownership`, `giveUp`: `Ownership(path)` and its `close`;
* `inspect`, `instances`: what is observed of one instance, or of all;
* `runServer`: a server with its monitor, which may look at the records `rounds` times;
* `stop`, `start`, `serve`, `main`: the commands. Where a command sleeps and then goes on, it only goes on.
-/

import AxiomMcp.Gateway.Model

namespace AxiomMcp.Gateway

open Lib Program

variable {ι α : Type}

/-- What an operation raises is raised. -/
def attempt (reply : Except Fault α) : GatewayProgram ι α :=
  match reply with
  | .ok value => .done value
  | .error raised => .raise (.fault raised)

/-- A failed condition is raised. -/
def refuse (wrong : Bool) (raised : GatewayError) : GatewayProgram ι Unit :=
  if wrong then .raise raised else .done ()

/-- A step that is taken under a condition. -/
def onlyIf (condition : Bool) (step : GatewayProgram ι Unit) : GatewayProgram ι Unit :=
  if condition then step else .done ()

/-! ### Records -/

/-- `directory(name, create=create)` -/
def directory (name : Text) (create : Bool) : GatewayProgram ι Unit := do
  refuse (!portableName name) (.value "instance must be a portable lowercase name")
  let linked ← .call (.linked name) attempt
  refuse linked (.value "gateway ownership paths cannot be links")
  onlyIf create (.call (.mkdir name) attempt)

/-- What `json.loads` made of a record. -/
def recordOf : Json → GatewayProgram ι JsonObject
  | .obj entries => .done entries
  | _ => .raise (.value "gateway record must be an object")

/-- `read_record(path)` -/
def readRecord (path : RecordPath) : GatewayProgram ι JsonObject := do
  let linked ← .call (.isLink path) attempt
  refuse linked (.value "gateway record cannot be a link")
  .call (.stat path) fun size =>
    match size with
    | .error .missing => .done []
    | .error (.fault raised) => .raise (.fault raised)
    | .ok size => do
      refuse (64 * 1024 < size) (.value "gateway metadata exceeds budget")
      .call (.load path) fun value =>
        match value with
        | .error .missing => .done []
        | .error (.fault raised) => .raise (.fault raised)
        | .ok value => recordOf value

/-- What is there already has to be owned. -/
def checkPrevious (kind : RecordKind) (previous : JsonObject) : GatewayProgram ι Unit :=
  match kind with
  | .state =>
    refuse (!hasText previous "document_kind" documentKind) (.conflict "unowned instance metadata was preserved")
  | .stop => refuse (!ownStop previous) (.conflict "unowned stop metadata was preserved")

/-- The temporary file takes the place of the record. -/
def replaceRecord (path : RecordPath) (value : JsonObject) : GatewayProgram ι Unit :=
  .call (.writeTemporary path value) fun written => do
    attempt written
    .call (.replace path value) fun size => attempt (size.map fun _ => ())

/-- The record that is there is read and checked. -/
def readPrevious (path : RecordPath) : GatewayProgram ι Unit := do
  let previous ← readRecord path
  checkPrevious path.kind previous

/-- `write_record(path, value)` -/
def writeRecord (path : RecordPath) (value : JsonObject) : GatewayProgram ι Unit := do
  let there ← .call (.recordExists path) attempt
  onlyIf there (readPrevious path)
  (replaceRecord path value).ensure (.call (.removeTemporary path) attempt)

/-! ### Ownership -/

/-- The lock is tried once; the handle is closed if it cannot be had. -/
def acquireLock (name : Text) : GatewayProgram ι Unit :=
  .call (.acquire name) fun locked =>
    match locked with
    | .ok _ => .done ()
    | .error .busy => do
      .call (.closeLock name) attempt
      .raise .busy
    | .error (.fault raised) => do
      .call (.closeLock name) attempt
      .raise (.fault raised)

/-- `Ownership(root / "gateway.lock")` -/
def ownership (name : Text) : GatewayProgram ι Unit := do
  let linked ← .call (.lockIsLink name) attempt
  refuse linked (.value "gateway lock cannot be a link")
  .call (.openLock name) attempt
  acquireLock name

/-- `lock.close()` -/
def giveUp (name : Text) : GatewayProgram ι Unit :=
  (.call (.release name) attempt : GatewayProgram ι Unit).ensure (.call (.closeLock name) attempt)

/-! ### Observation -/

/-- What is reported of an instance whose lock was free. -/
def stopped (name : Text) : JsonObject := [("running", .bool false), ("instance", .str name)]

/-- `{**record, "running": True, "instance": name}` -/
def running (name : Text) (record : JsonObject) : JsonObject :=
  updated (updated record "running" (.bool true)) "instance" (.str name)

/-- A record that another program wrote. -/
def foreignRecord (record : JsonObject) : Bool :=
  !record.isEmpty && !hasText record "document_kind" documentKind

/-- What `inspect` does once it has tried the lock. -/
def observed (name : Text) : Except GatewayError Unit → GatewayProgram ι JsonObject
  | .ok _ => do
    giveUp name
    .done (stopped name)
  | .error .busy => do
    let record ← readRecord ⟨name, .state⟩
    refuse (foreignRecord record) (.conflict "unowned instance metadata was preserved")
    .done (running name record)
  | .error raised => .raise raised

/-- The body of `inspect(name)`. -/
def inspection (name : Text) : GatewayProgram ι JsonObject := do
  directory name false
  let there ← .call (.lockExists name) attempt
  if there then (ownership name).resume (observed name)
  else .done (stopped name)

/-- `inspect(name)` -/
def inspect (name : Text) : GatewayProgram ι JsonObject :=
  .call (.entered name) fun _ => do
    let record ← inspection name
    .call (.returned name record) fun _ => .done record

/-- The row of an instance of which nothing can be said. -/
def unknownRow (name : Text) : JsonObject :=
  [("instance", .str name), ("running", .null), ("error", .str "ownership_metadata_unavailable")]

/-- The row of one candidate, if it gets one. -/
def instanceRow (name : Text) : GatewayProgram ι (Option JsonObject) :=
  (do
    let record ← readRecord ⟨name, .state⟩
    if foreignRecord record then .done none
    else do
      let now ← inspect name
      .done (some (merged record now)) : GatewayProgram ι (Option JsonObject)).rescue fun raised =>
    if raised.OfInventory then .done (some (unknownRow name)) else .raise raised

/-- One candidate of the directory. -/
def candidate (name : Text) : GatewayProgram ι (Option JsonObject) :=
  if portableName name then do
    let fits ← .call (.isInstance name) attempt
    if fits then do
      let hasState ← .call (.recordExists ⟨name, .state⟩) attempt
      if hasState then instanceRow name
      else do
        let hasLock ← .call (.lockExists name) attempt
        if hasLock then instanceRow name else .done none
    else .done none
  else .done none

/-- The loop over the candidates. -/
def candidates : List Text → GatewayProgram ι (List JsonObject)
  | [] => .done []
  | name :: rest => do
    let row ← candidate name
    let rows ← candidates rest
    .done (row.toList ++ rows)

/-- `instances()` -/
def instances : GatewayProgram ι (List JsonObject) := do
  directory "default" false
  let there ← .call .baseExists attempt
  if there then do
    let names ← .call .listing attempt
    candidates names
  else .done []

/-! ### The server -/

/-- The record of a gateway. -/
def gatewayRecord (around : Surroundings) (args : Args) (pid port : ℤ) (nonce : Text) : JsonObject :=
  [("document_kind", .str documentKind), ("schema_version", .int 1), ("pid", .int pid),
    ("instance", .str args.name), ("host", .str args.host), ("port", .int port),
    ("version", .str around.version), ("signature", .str (signature around args)), ("nonce", .str nonce),
    ("idle_timeout_minutes", .float args.idleTimeoutMinutes), ("launch_id", .str args.launchId)]

/-- The notice that the server listens. -/
def listeningNotice (args : Args) (port : ℤ) : JsonObject :=
  [("status", .str "listening"), ("instance", .str args.name),
    ("url", .str (Text.format ["http://", args.host, ":", Text.ofInt port, "/mcp"])),
    ("idle_timeout_minutes", .float args.idleTimeoutMinutes),
    ("scope", .str "process; query/control readiness are separate")]

/-- The notice is printed, and in its JSON form noted. -/
def emitListening (args : Args) (port : ℤ) : GatewayProgram ι Unit := do
  .call (.print (.notice (listeningNotice args port) args.json)) attempt
  onlyIf args.json (.call .emitNotice .done)

/-- How the monitor ends: by itself, or cancelled because the server ended. -/
abbrev Monitored := Option (Except Fault Unit)

/-- A stop request that was read; `{}` if it cannot be. -/
def readStop (name : Text) : GatewayProgram ι JsonObject :=
  (readRecord ⟨name, .stop⟩ : GatewayProgram ι JsonObject).rescue fun raised =>
    if raised.OfRecord then .done [] else .raise raised

/-- `owner.alive()`, if there is an owner to watch. -/
def ownerAlive (args : Args) : GatewayProgram ι Bool :=
  if args.ownerPid.isSome then .call .ownerAlive attempt else .done true

/-- What the monitor does when it wakes up. -/
def wake (args : Args) (nonce : Text) (next : GatewayProgram ι Monitored) : GatewayProgram ι Monitored := do
  let stop ← readStop args.name
  if hasText stop "nonce" nonce then .call (.close .stopFile) fun _ => .done none
  else do
    let alive ← ownerAlive args
    if alive then
      .call .expired fun expired =>
        if expired then .call (.close .idle) fun _ => .done none else next
    else .call (.close .ownerGone) fun _ => .done none

/-- `while not worker.should_exit: ...` -/
def monitorRounds (args : Args) (nonce : Text) : ℕ → Bool → GatewayProgram ι Monitored
  | 0, _ => .stuck .await
  | rounds + 1, shouldExit =>
    if shouldExit then .done none
    else .call .await fun stands =>
      match stands with
      | .ended outcome => .done (some outcome)
      | .running _ shouldExit => wake args nonce (monitorRounds args nonce rounds shouldExit)

/-- `while not worker.started and not worker.should_exit: ...`, and what follows. -/
def monitorStart (args : Args) (record : JsonObject) (port : ℤ) (nonce : Text) (rounds : ℕ) :
    ℕ → GatewayProgram ι Monitored
  | 0 => .stuck .await
  | waits + 1 => .call .await fun stands =>
    match stands with
    | .ended outcome => .done (some outcome)
    | .running false false => monitorStart args record port nonce rounds waits
    | .running false true => .done none
    | .running true shouldExit => do
      writeRecord ⟨args.name, .state⟩ (updated record "listening" (.bool true))
      emitListening args port
      monitorRounds args nonce rounds shouldExit

/-- What `monitor()` does about an error of its loop. Errors that are not caught end the task and are dropped. -/
def monitorEnd : Except GatewayError Monitored → GatewayProgram ι (Bool × Monitored)
  | .ok ended => .done (false, ended)
  | .error raised =>
    if raised.OfRecord then .call (.close .lifecycle) fun _ => .done (true, none)
    else .done (false, none)

/-- `monitor()`; whether the lifecycle failed comes with how it ended. -/
def monitor (args : Args) (record : JsonObject) (port : ℤ) (nonce : Text) (rounds : ℕ) :
    GatewayProgram ι (Bool × Monitored) :=
  (monitorStart args record port nonce rounds rounds).resume monitorEnd

/-- `worker.serve` goes on to its end. -/
def workerEnd : Monitored → GatewayProgram ι Unit
  | some outcome => attempt outcome
  | none => .call .drain attempt

/-- `await worker.serve(...)`, with the monitor beside it. -/
def serveWorker (args : Args) (record : JsonObject) (port : ℤ) (nonce : Text) (rounds : ℕ) :
    GatewayProgram ι Unit := do
  let ended ← monitor args record port nonce rounds
  workerEnd ended.2
  refuse ended.1 (.value "gateway lifecycle state is unusable; the owned server stopped")

/-- What `run_server` does inside its `try`. -/
def serving (around : Surroundings) (args : Args) (rounds : ℕ) : GatewayProgram ι Unit :=
  .call .bind fun port => do
    let port ← attempt port
    .call .nonce fun nonce =>
      .call .pid fun pid => do
        writeRecord ⟨args.name, .state⟩ (gatewayRecord around args pid port nonce)
        serveWorker args (gatewayRecord around args pid port nonce) port nonce rounds

/-- `run_server(args, root)` -/
def runServer (around : Surroundings) (args : Args) (rounds : ℕ) : GatewayProgram ι Unit := do
  .call .configure attempt
  (serving around args rounds).ensure (.call .closeRuntime attempt)

/-! ### Commands -/

/-- `print(json.dumps(result))` with the nonce taken out. -/
def printRecord (record : JsonObject) : GatewayProgram ι Unit :=
  .call (.print (.record (without record "nonce"))) attempt

/-- `list`, and `status` without a name. -/
def inventory (args : Args) : GatewayProgram ι ℤ := do
  refuse (args.action = .list && args.selected.isSome)
    (.value "list takes no --instance; use status --instance NAME")
  let records ← instances
  .call (.print (.inventory (records.map publicInstance) args.json)) attempt
  .done 0

/-- `", ".join(row["instance"] for row in rows)` -/
def namesOf (rows : List JsonObject) : Text :=
  Text.join ", " (rows.filterMap fun row => Json.text? (.obj row) "instance")

def noneRunning : Text := "No running MCP gateway in this AXIOM_HOME; use axm mcp list to inspect."

/-- What a `stop` says that finds nothing to stop. -/
def noneRunningOutput (args : Args) : Output :=
  if args.json then .record [("running", .bool false), ("instance", .null), ("message", .str noneRunning)]
  else .message noneRunning

/-- The one running instance, for a `stop` without a name; `none` if there is none, which is said. -/
def selectRunning (args : Args) : GatewayProgram ι (Option JsonObject) := do
  let observed ← instances
  let running := observed.filter fun row => isTrue row "running"
  let uncertain := observed.filter fun row => isNull row "running"
  refuse (1 < running.length || !uncertain.isEmpty) (.conflict (Text.format ["Instance selection required (",
    namesOf (running ++ uncertain), "); nothing was stopped. Run axm mcp list, then axm mcp stop --instance NAME"]))
  match running with
  | [] => .call (.print (noneRunningOutput args)) fun printed => do
    attempt printed
    .done none
  | row :: _ => .done (some row)

/-- `selected.get(key) != result.get(key)` for one of the keys that name an owner. -/
def ownerChanged (selected result : JsonObject) : Bool :=
  ["nonce", "pid", "launch_id"].any fun key =>
    match Json.get? selected key, Json.get? result key with
    | some one, some other => !Json.pyEq one other
    | none, none => false
    | _, _ => true

/-- `current.get("nonce") != result["nonce"]` -/
def otherNonce (current : JsonObject) (nonce : Json) : Bool :=
  match Json.get? current "nonce" with
  | some other => !Json.pyEq other nonce
  | none => true

/-- The loop in which `stop` waits for the owner to be gone. -/
def awaitGone (name : Text) (nonce : Json) : ℕ → GatewayProgram ι Unit
  | 0 => .raise (.timeout "gateway is draining; no foreign process was killed")
  | rounds + 1 => do
    let current ← inspect name
    if !isTrue current "running" || otherNonce current nonce then .done ()
    else awaitGone name nonce rounds

/-- A running instance is asked to stop; what is found afterwards. -/
def requestStop (name : Text) (result : JsonObject) : GatewayProgram ι JsonObject := do
  refuse (!truthy (Json.get? result "nonce")) (.operation "gateway is starting; retry status before stopping")
  directory name false
  writeRecord ⟨name, .stop⟩ [("nonce", (Json.get? result "nonce").getD .null)]
  awaitGone name ((Json.get? result "nonce").getD .null) 140
  let after ← inspect name
  refuse (isTrue after "running") (.conflict
    (("The original owner exited but a replacement is running; " : Text) ++
      "the replacement was not stopped. Inspect the instance before retrying"))
  .done after

/-- What is reported in the end: what was found, or what is found after a request to stop. -/
def stopIf (wanted : Bool) (name : Text) (result : JsonObject) : GatewayProgram ι JsonObject :=
  if wanted then requestStop name result else .done result

/-- `status` and `stop` of one instance, which may have been selected. -/
def statusOrStop (args : Args) (selected : Option JsonObject) : GatewayProgram ι ℤ := do
  let result ← inspect args.name
  refuse (selected.any fun row => ownerChanged row result)
    (.conflict "Instance owner changed while selecting; retry explicit status")
  let result' ← stopIf (args.action = .stop && isTrue result "running") args.name result
  printRecord result'
  onlyIf (args.action = .stop && !args.json) (.call (.print (.stopped (isTrue result "running") args.name)) attempt)
  .done 0

/-- `stop` -/
def stop (args : Args) : GatewayProgram ι ℤ :=
  match args.selected with
  | some _ => statusOrStop args none
  | none => do
    let row ← selectRunning args
    match row with
    | none => .done 0
    | some row => statusOrStop { args with selected := Json.text? (.obj row) "instance" } (some row)

/-- What `start` and `serve` check first. -/
def checkLaunch (args : Args) : GatewayProgram ι Unit := do
  directory args.name true
  refuse (invalidBudgets args) (.value "idle and cache/concurrency budgets are invalid")
  .call (.settings args.host args.port) attempt
  refuse (args.allowHost.isEmpty || args.allowOrigin.isEmpty)
    (.value "--allow-host and --allow-origin are required")

/-- The loop in which `start` waits for its child. -/
def awaitListening (name launchId : Text) (child : ι) : ℕ → GatewayProgram ι Unit
  | 0 => .raise (.timeout "gateway startup timed out; inspect axm mcp status before retrying")
  | rounds + 1 => .call (.poll child) fun code => do
    refuse code.isSome (.operation "gateway failed to start; run axmp serve to see diagnostics")
    let active ← inspect name
    if isTrue active "running" && hasText active "launch_id" launchId && truthy (Json.get? active "listening") then
      printRecord active
    else awaitListening name launchId child rounds

/-- `start` -/
def start (around : Surroundings) (args : Args) : GatewayProgram ι ℤ := do
  checkLaunch args
  let active ← inspect args.name
  if isTrue active "running" then do
    refuse (!hasText active "signature" (signature around args))
      (.conflict "instance is owned by another launch configuration")
    printRecord active
    .done 0
  else
    .call .launchId fun launchId =>
      .call (.spawn (childArgs args launchId)) fun child => do
        let child ← attempt child
        awaitListening args.name launchId child 120
        .done 0

/-- `serve` -/
def serve (around : Surroundings) (args : Args) (rounds : ℕ) : GatewayProgram ι ℤ := do
  checkLaunch args
  ownership args.name
  (runServer around args rounds).ensure (giveUp args.name)
  .done 0

/-- The body of `main`. -/
def command (around : Surroundings) (args : Args) (rounds : ℕ) : GatewayProgram ι ℤ :=
  match args.action with
  | .list => inventory args
  | .status => if args.selected.isSome then statusOrStop args none else inventory args
  | .stop => stop args
  | .start => start around args
  | .serve => serve around args rounds

/-- `failure(args, code, message)` -/
def failure (args : Args) (raised : GatewayError) (code : ℤ) (message : Text) : GatewayProgram ι ℤ :=
  .call .noticeEmitted fun emitted => do
    .call (.print (.failure raised code message (args.json && !emitted))) attempt
    .done code

/-- The `except` clauses of `main`. -/
def handled (args : Args) (raised : GatewayError) : GatewayProgram ι ℤ :=
  match raised with
  | .busy => failure args raised 6 "instance is already running; use another --instance/--port"
  | .conflict message => failure args raised 6 message
  | .fault (.timeout message) => failure args raised 7 message
  | .fault (.value message) => failure args raised 2 message
  | .operation message | .fault (.os message) | .fault (.security message) | .fault (.guard message) =>
    failure args raised 4 message
  | .fault (.other _ _) => .raise raised

/-- `main(argv)` of parsed arguments. -/
def main (around : Surroundings) (args : Args) (rounds : ℕ) : GatewayProgram ι ℤ :=
  (command around args rounds).rescue (handled args)

/-- A process that runs `main`, and is over then. -/
def process (around : Surroundings) (args : Args) (rounds : ℕ) : GatewayProgram ι Unit :=
  (main around args rounds).resume fun outcome => .call (.exit outcome.toOption) .done

end AxiomMcp.Gateway

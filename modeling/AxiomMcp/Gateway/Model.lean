/-
**A named gateway instance (`gateway.py`).**

What the commands of the gateway read and write: the records `state.json` and `stop.json` of an instance, its
kernel lock, their arguments and what they print. A command asks the file system, the kernel, its child process
and its own server one operation after another (`GatewayOp`).

* `Fault`, `GatewayError`: what is raised;
* `portableName`, `ownStop`, `publicInstance`: what the commands compute by themselves;
* `updated`: a dictionary with one entry set;
* `signatureValue`: what the signature of a launch is made of.
-/

import AxiomMcp.Lib.Program
import AxiomMcp.Lib.Json

namespace AxiomMcp.Gateway

open Lib

/-! ### Errors -/

/-- What the interpreter, the operating system or another module raises. -/
inductive Fault
  | value (message : Text)
  | timeout (message : Text)
  | os (message : Text)
  | security (message : Text)
  | guard (message : Text)
  | other (kind : Text) (message : Text)
  deriving DecidableEq

/-- What a command raises: `GuardBusy`, `GatewayConflict`, `GatewayOperationError` or something else. -/
inductive GatewayError
  | busy
  | conflict (message : Text)
  | operation (message : Text)
  | fault (raised : Fault)
  deriving DecidableEq

/-- `raise ValueError(message)` -/
def GatewayError.value (message : Text) : GatewayError := .fault (.value message)

/-- `raise TimeoutError(message)` -/
def GatewayError.timeout (message : Text) : GatewayError := .fault (.timeout message)

/-- An `OSError`. -/
def Fault.IsOSError : Fault → Bool
  | .timeout _ | .os _ => true
  | _ => false

/-- A `ValueError`. -/
def GatewayError.IsValueError : GatewayError → Bool
  | .conflict _ | .fault (.value _) => true
  | _ => false

/-- An `OSError` or a `ValueError`. -/
def GatewayError.OfRecord : GatewayError → Bool
  | .fault raised => raised.IsOSError || GatewayError.IsValueError (.fault raised)
  | raised => raised.IsValueError

/-- An `OSError`, a `ValueError` or a `GuardError`. -/
def GatewayError.OfInventory : GatewayError → Bool
  | .busy | .fault (.guard _) => true
  | raised => raised.OfRecord

/-! ### Records -/

/-- The two records of an instance. -/
inductive RecordKind
  | state | stop
  deriving DecidableEq

/-- `root / "state.json"` or `root / "stop.json"` -/
structure RecordPath where
  name : Text
  kind : RecordKind
  deriving DecidableEq

/-- `{**record, key: value}` -/
def updated : JsonObject → Text → Json → JsonObject
  | [], key, value => [(key, value)]
  | (other, old) :: rest, key, value =>
    if other = key then (key, value) :: rest else (other, old) :: updated rest key value

theorem get?_updated_self (record : JsonObject) (key : Text) (value : Json) :
    Json.get? (updated record key value) key = some value := by
  induction record with
  | nil => simp [updated, Json.get?]
  | cons entry rest ih =>
    obtain ⟨other, old⟩ := entry
    unfold updated
    by_cases same : other = key
    · rw [if_pos same]
      simp [Json.get?]
    · rw [if_neg same]
      have differs : (key == other) = false := beq_eq_false_iff_ne.mpr (Ne.symm same)
      simpa [Json.get?, List.lookup_cons, differs] using ih

theorem get?_updated_of_ne {key other : Text} (differs : other ≠ key) (record : JsonObject) (value : Json) :
    Json.get? (updated record key value) other = Json.get? record other := by
  induction record with
  | nil =>
    have apart : (other == key) = false := beq_eq_false_iff_ne.mpr differs
    simp [updated, Json.get?, List.lookup_cons, apart]
  | cons entry rest ih =>
    obtain ⟨first, old⟩ := entry
    unfold updated
    by_cases same : first = key
    · rw [if_pos same]
      have apart : (other == key) = false := beq_eq_false_iff_ne.mpr differs
      simp [Json.get?, List.lookup_cons, same, apart]
    · rw [if_neg same]
      simp only [Json.get?, List.lookup_cons] at ih ⊢
      rw [ih]

/-- `{**record, **more}` -/
def merged (record more : JsonObject) : JsonObject :=
  more.foldl (fun all entry => updated all entry.1 entry.2) record

/-- `record.pop(key, None)` -/
def without (record : JsonObject) (key : Text) : JsonObject := record.filter fun entry => entry.1 ≠ key

/-- `record.get(key) is True` -/
def isTrue (record : JsonObject) (key : Text) : Bool :=
  match Json.get? record key with
  | some (.bool true) => true
  | _ => false

/-- `record[key] is None` -/
def isNull (record : JsonObject) (key : Text) : Bool :=
  match Json.get? record key with
  | some .null => true
  | _ => false

/-- `bool(value)` of what `get` returned. -/
def truthy : Option Json → Bool
  | none | some .null | some (.bool false) => false
  | some (.int value) => value ≠ 0
  | some (.float value) => value.isNaN || value.units ≠ 0
  | some (.str value) => value ≠ []
  | some (.arr items) => !items.isEmpty
  | some (.obj entries) => !entries.isEmpty
  | some (.bool true) => true

/-- `record.get(key) == text` -/
def hasText (record : JsonObject) (key value : Text) : Bool :=
  match Json.get? record key with
  | some (.str other) => other = value
  | _ => false

def documentKind : Text := "axiom-local-gateway"

/-- `[a-z0-9]` -/
def isNameChar (c : CodePoint) : Bool := Text.isLowerAscii c || Text.isDigitAscii c

/-- `re.fullmatch(r"[a-z0-9][a-z0-9-]{0,62}", name)` -/
def portableName : Text → Bool
  | [] => false
  | first :: rest =>
    isNameChar first && rest.length ≤ 62 && rest.all fun c => isNameChar c || c == codePoint '-'

/-- `re.fullmatch(r"[0-9a-f]{64}", nonce)` -/
def isNonce (nonce : Text) : Bool :=
  nonce.length = 64 && nonce.all fun c => Text.isDigitAscii c || (0x61 ≤ c.val && c.val ≤ 0x66)

/-- What a stop request was before it is written over. -/
def ownStop (previous : JsonObject) : Bool :=
  (previous.all fun entry => entry.1 = "nonce") &&
    match Json.get? previous "nonce" with
    | some (.str nonce) => isNonce nonce
    | _ => false

/-- `re.fullmatch(r"[A-Za-z0-9._:+-]{1,253}", value)` -/
def isPlain (value : Text) : Bool :=
  1 ≤ value.length && value.length ≤ 253 && value.all fun c =>
    Text.isLetterAscii c || Text.isDigitAscii c || Text.contains "._:+-" [c]

/-- A number that is printed. -/
def publicNumber : Json → Bool
  | .int value => value.natAbs < 2 ^ 63
  | .float value => value.isFinite
  | _ => false

/-- A text that is printed. -/
def publicText : Json → Bool
  | .str value => isPlain value
  | _ => false

/-- The entries of a record that are printed, with the fields they are looked up by. -/
def publicFields (shown : Json → Bool) (record : JsonObject) (keys : List Text) : JsonObject :=
  keys.filterMap fun key => ((Json.get? record key).filter shown).map fun value => (key, value)

/-- `public_instance(record)` -/
def publicInstance (record : JsonObject) : JsonObject :=
  ([("instance", (Json.get? record "instance").getD .null),
      ("running", (Json.get? record "running").getD .null)] : JsonObject) ++
    publicFields publicNumber record ["pid", "port", "idle_timeout_minutes"] ++
    publicFields publicText record ["host", "version", "error"] ++
    ([("listening", .bool (isTrue record "running" && isTrue record "listening"))] : JsonObject)

/-! ### Arguments -/

inductive Action
  | serve | start | list | status | stop
  deriving DecidableEq

/-- What was parsed from the command line. -/
structure Args where
  action : Action
  /-- `--instance` -/
  selected : Option Text
  host : Text
  port : ℤ
  allowHost : List Text
  allowOrigin : List Text
  idleTimeoutMinutes : PyFloat
  ownerPid : Option ℤ
  cacheMib : ℤ
  cacheEntries : ℤ
  maxInflight : ℤ
  json : Bool
  launchId : Text
  deriving DecidableEq

/-- `args.instance`, once it is settled. -/
def Args.name (args : Args) : Text := args.selected.getD "default"

/-- What a command finds around it: `sys.executable`, its version and its environment variables. -/
structure Surroundings where
  runtime : Text
  version : Text
  credentials : Text
  control : Text
  controlReference : Text
  /-- `hashlib.sha256(json.dumps(value, sort_keys=True).encode()).hexdigest()` -/
  digest : JsonObject → Text

/-- What a signature is the digest of. -/
def signatureValue (around : Surroundings) (args : Args) : JsonObject :=
  [("instance", .str args.name), ("host", .str args.host), ("port", .int args.port),
    ("allow_host", .arr (args.allowHost.map .str)), ("allow_origin", .arr (args.allowOrigin.map .str)),
    ("owner_pid", (args.ownerPid.map Json.int).getD .null),
    ("idle_timeout_minutes", .float args.idleTimeoutMinutes), ("cache_mib", .int args.cacheMib),
    ("cache_entries", .int args.cacheEntries), ("max_inflight", .int args.maxInflight),
    ("runtime", .str around.runtime), ("version", .str around.version),
    ("credentials", .str around.credentials), ("control", .str around.control),
    ("control_reference", .str around.controlReference)]

/-- `signature(args)` -/
def signature (around : Surroundings) (args : Args) : Text := around.digest (signatureValue around args)

/-- `not math.isfinite(minutes) or minutes < 0 or min(...) < 1` -/
def invalidBudgets (args : Args) : Bool :=
  !args.idleTimeoutMinutes.isFinite || args.idleTimeoutMinutes.signedUnits < 0 ||
    min args.cacheMib (min args.cacheEntries args.maxInflight) < 1

/-- The command line of the child that `start` launches. -/
def childArgs (args : Args) (launchId : Text) : Args :=
  { args with action := .serve, selected := some args.name, launchId := launchId }

/-! ### Operations -/

/-- What is printed. -/
inductive Output
  /-- `print(json.dumps(value))` -/
  | record (value : JsonObject)
  /-- The rows of `emit_inventory`. -/
  | inventory (rows : List JsonObject) (json : Bool)
  /-- The notice that the server listens. -/
  | notice (value : JsonObject) (json : Bool)
  /-- What `stop` says on standard error. -/
  | stopped (wasRunning : Bool) (name : Text)
  | message (text : Text)
  /-- `failure(args, code, message)` for what was raised. -/
  | failure (raised : GatewayError) (code : ℤ) (message : Text) (json : Bool)

/-- The file is not there, or something else is wrong with it. -/
inductive ReadFault
  | missing
  | fault (raised : Fault)

/-- The lock is held elsewhere, or it cannot be had for another reason. -/
inductive LockFault
  | busy
  | fault (raised : Fault)

/-- How the server stands when its monitor wakes up. -/
inductive Await
  | running (started : Bool) (shouldExit : Bool)
  /-- `worker.serve` has ended, and the monitor is cancelled. -/
  | ended (outcome : Except Fault Unit)

/-- Why a gateway closes. -/
inductive Closing
  | stopFile | ownerGone | idle | lifecycle
  deriving DecidableEq

/-- What a command asks. Other processes are `ι`. -/
inductive GatewayOp (ι : Type)
  /-- One of the home, its gateways and the directory of the instance is a link. -/
  | linked (name : Text)
  | mkdir (name : Text)
  | lockExists (name : Text)
  | lockIsLink (name : Text)
  /-- `load_backend().open(root / "gateway.lock")` -/
  | openLock (name : Text)
  /-- `handle.acquire(LockMode.EXCLUSIVE)` -/
  | acquire (name : Text)
  | release (name : Text)
  | closeLock (name : Text)
  | isLink (path : RecordPath)
  | recordExists (path : RecordPath)
  | stat (path : RecordPath)
  /-- `json.loads(path.read_text(encoding="utf-8"))` -/
  | load (path : RecordPath)
  /-- The new content is written to a file of its own. -/
  | writeTemporary (path : RecordPath) (value : JsonObject)
  /-- `os.replace(temporary, path)`; the reply is the size of what is there then. -/
  | replace (path : RecordPath) (value : JsonObject)
  | removeTemporary (path : RecordPath)
  /-- `base.exists()` -/
  | baseExists
  /-- `sorted(base.iterdir())` -/
  | listing
  /-- The candidate is a directory and no link. -/
  | isInstance (name : Text)
  /-- `secrets.token_hex(16)` -/
  | launchId
  /-- `secrets.token_hex(32)` -/
  | nonce
  /-- `subprocess.Popen(...)` -/
  | spawn (args : Args)
  | poll (child : ι)
  /-- `http.HttpTransportSettings(host=..., port=...)` -/
  | settings (host : Text) (port : ℤ)
  /-- `Runtime.configured()` and its retention. -/
  | configure
  /-- The owner watch, the server and its socket; the reply is the port. -/
  | bind
  | pid
  /-- The monitor sleeps. -/
  | await
  /-- `await worker.serve(...)` goes on without the monitor. -/
  | drain
  | ownerAlive
  /-- `activity.expired(time.monotonic())` -/
  | expired
  /-- `activity.closing = True` and `worker.should_exit = True` -/
  | close (reason : Closing)
  /-- The socket, the owner watch and the runtime are closed. -/
  | closeRuntime
  | print (output : Output)
  /-- `args.notice_emitted = True` -/
  | emitNotice
  /-- `getattr(args, "notice_emitted", False)` -/
  | noticeEmitted
  /-- `inspect(name)` is called. -/
  | entered (name : Text)
  /-- `inspect(name)` returns. -/
  | returned (name : Text) (record : JsonObject)
  /-- The process is over. -/
  | exit (code : Option ℤ)

abbrev GatewayReply {ι : Type} : GatewayOp ι → Type
  | .linked _ | .lockExists _ | .lockIsLink _ | .isLink _ | .recordExists _ | .baseExists | .isInstance _
  | .ownerAlive => Except Fault Bool
  | .mkdir _ | .openLock _ | .release _ | .closeLock _ | .writeTemporary _ _ | .removeTemporary _ | .settings _ _
  | .configure | .closeRuntime | .print _ | .drain => Except Fault Unit
  | .acquire _ => Except LockFault Unit
  | .stat _ => Except ReadFault ℕ
  | .load _ => Except ReadFault Json
  | .replace _ _ => Except Fault ℕ
  | .listing => Except Fault (List Text)
  | .launchId | .nonce => Text
  | .spawn _ => Except Fault ι
  | .poll _ => Option ℤ
  | .bind => Except Fault ℤ
  | .pid => ℤ
  | .await => Await
  | .expired | .noticeEmitted => Bool
  | .close _ | .emitNotice | .entered _ | .returned _ _ | .exit _ => Unit

/-- A part of a command. -/
abbrev GatewayProgram (ι α : Type) := Program (GatewayOp ι) GatewayReply GatewayError α

end AxiomMcp.Gateway

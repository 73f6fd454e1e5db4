/-
**Applying an update plan (`update.py`, `cli._run_update_apply`).**

A process never upgrades itself. It reads one plan, checks it and hands it to the updater, an external program. What
it asks of its host is one operation after another (`UpdateOp`).

* `loadEvaluator`, `validateDocument`, `planDigestOf`: the evaluator, whose bytes must have the recorded digest, and
  what is then executed from its file;
* `guardInstallRoot`, `guardDelegation`: what may not be upgraded, and what may not be run;
* `applyPlan`: the decision over a plan of this component;
* `regularInput`, `coreProgram`, `runCore`: the updater, and how it is launched;
* `executeCorePlan`: a plan that the updater owns is forwarded as it is;
* `runUpdateApply`: the command, and its exit code.
-/

import AxiomMcp.Lib.JsonParse
import AxiomMcp.Lib.Program
import AxiomMcp.Release.Package
import AxiomMcp.Update.Contract

namespace AxiomMcp.Update

open Lib Program
open Query (truthy)
open Release (Path)

/-! ### The host -/

/-- What the host or the interpreter raises, by what is caught. -/
inductive HostFault
  | os (kind : Text)
  | value (kind : Text)
  | subprocess (kind : Text)
  | other (kind : Text)
  deriving DecidableEq

/-- `type(exc).__name__` -/
def HostFault.kind : HostFault → Text
  | .os kind | .value kind | .subprocess kind | .other kind => kind

/-- `except (OSError, ValueError, subprocess.SubprocessError)` -/
def HostFault.isCaught : HostFault → Bool
  | .other _ => false
  | _ => true

/-- What `core version --json` ended with, and what `json.loads` makes of its output. -/
structure Probe where
  returncode : ℤ
  identity : Except HostFault Json

/-- What an update raises. -/
inductive UpdateRaised
  /-- An `UpdateUnavailable`. -/
  | unavailable (reason : Text)
  /-- A `PlanRejected`, which may be an `InPlaceUpgradeRefused`. -/
  | rejected (reasons : List Text)
  | host (raised : HostFault)
  | plan (raised : PlanFault)
  /-- An `AttributeError`, a `KeyError` or a `TypeError` of a document that is not what it should be. -/
  | malformed

/-- A module that was executed from the file of the contract. -/
structure PlanModule where
  /-- `module.evaluate(document)` -/
  evaluate : Json → Except UpdateRaised Verdict
  /-- `module.plan_digest(plan)` -/
  planDigest : JsonObject → Except UpdateRaised Text

/-- The contract, as a module. -/
def contractModule (ev : Evaluator) : PlanModule where
  evaluate document := (evaluate ev document).mapError .plan
  planDigest plan := (planDigest ev plan).mapError .plan

/-- What is asked of the host. -/
inductive UpdateOp
  /-- `pathlib.Path(path).read_text(encoding="utf-8")` -/
  | readText (path : Text)
  /-- `json.loads((canonical / "provenance.json").read_bytes())` -/
  | provenance
  /-- `path.is_file()` -/
  | isFile (path : Path)
  /-- `path.read_bytes()` -/
  | readBytes (path : Path)
  /-- `spec.loader.exec_module(module)`, which reads the file once more -/
  | execModule (path : Path)
  /-- `path.resolve()`, or `path.resolve(strict=True)` -/
  | resolve (path : Path) (strict : Bool)
  /-- `protected_roots()` -/
  | protectedRoots
  /-- `os.environ.get("AXIOM_CORE_COMMAND")` -/
  | coreCommand
  /-- `shutil.which("axiom")` -/
  | which
  /-- `os.getcwd()` -/
  | cwd
  /-- `path.lstat()` -/
  | lstat (path : Path)
  /-- `path.is_symlink()` -/
  | isSymlink (path : Path)
  /-- `path.stat().st_size` -/
  | size (path : Path)
  /-- `subprocess.run([program, "version", "--json"], ...)` -/
  | probe (program : Path)
  /-- `subprocess.run([program, *args], ...)` -/
  | launch (program : Path) (args : List Text)

/-- The replies. -/
abbrev UpdateReply : UpdateOp → Type
  | .readText _ => Except HostFault Text
  | .provenance => Except HostFault Json
  | .isFile _ | .isSymlink _ => Except HostFault Bool
  | .readBytes _ => Except HostFault Bytes
  | .execModule _ => Except HostFault PlanModule
  | .resolve _ _ | .cwd => Except HostFault Path
  | .protectedRoots => List Path
  | .coreCommand | .which => Option Text
  | .lstat _ => Except HostFault Unit
  | .size _ => Except HostFault ℕ
  | .probe _ => Except HostFault Probe
  | .launch _ _ => Except HostFault ℤ

/-- A part of an update. -/
abbrev UpdateProgram (α : Type) := Program UpdateOp UpdateReply UpdateRaised α

/-- What an operation raises is raised. -/
def attempt {α : Type} : Except HostFault α → UpdateProgram α
  | .ok value => .done value
  | .error raised => .raise (.host raised)

/-- `except (OSError, ValueError, subprocess.SubprocessError) as exc: raise UpdateUnavailable(reason) from exc` -/
def renamed {α : Type} (reason : Text) (p : UpdateProgram α) : UpdateProgram α :=
  p.rescue fun raised =>
    match raised with
    | .host fault => if fault.isCaught then .raise (.unavailable reason) else .raise raised
    | _ => .raise raised

/-- What an update brings along: beside its evaluator, the table of `str.lower` and the place of the contract. -/
structure Updater where
  ev : Evaluator
  lower : Text → Text
  evaluatorPath : Path

/-- The constant `COMPONENT`. -/
def component : Text := "axiom-mcp"

/-- The constant `ORCHESTRATOR`. -/
def orchestrator : Text := "axiom"

/-- The constant `PIP_PROGRAMS`. -/
def pipPrograms : List Text := ["pip", "pip3", "uv", "uvx", "easy_install"]

section Update

variable (up : Updater)

/-! ### The evaluator -/

/-- `load_canonical_evaluator()`: the bytes of the file have the recorded digest, and then it is executed. -/
def loadEvaluator : UpdateProgram PlanModule := do
  let provenance ← ask .provenance
  let record ← attempt provenance
  let found ← ask (.isFile up.evaluatorPath)
  if !(← attempt found) then
    raise (.unavailable (Text.format ["canonical_update_plan_evaluator_missing:", up.evaluatorPath.text]))
  else do
    let read ← ask (.readBytes up.evaluatorPath)
    let bytes ← attempt read
    match record.field? "sha256" with
    | none => raise .malformed
    | some recorded =>
      if Json.pyEq (.str (up.ev.sha256 bytes)) recorded then do
        let executed ← ask (.execModule up.evaluatorPath)
        attempt executed
      else raise (.unavailable "canonical_update_plan_evaluator_hash_mismatch")

/-- `document[key] = value` -/
def setItem (document : JsonObject) (key : Text) (value : Json) : JsonObject :=
  if key ∈ document.map Prod.fst then document.map fun item => if item.1 = key then (key, value) else item
  else document ++ [(key, value)]

/-- The document that is evaluated. -/
def withApproval (document : Json) (approved : Option Text) : Json :=
  match document, approved with
  | .obj entries, some digest => .obj (setItem entries "approved_digest" (.str digest))
  | _, _ => document

/-- `validate_document(document, approved_digest=approved)` -/
def validateDocument (document : Json) (approved : Option Text) : UpdateProgram Verdict := do
  let module ← loadEvaluator up
  ofExcept (module.evaluate (withApproval document approved))

/-- `plan_digest(plan)` -/
def planDigestOf (plan : JsonObject) : UpdateProgram Text := do
  let module ← loadEvaluator up
  ofExcept (module.planDigest plan)

/-! ### Guards -/

/-- `try: resolved = candidate.resolve() except OSError: resolved = candidate` -/
def resolvedRoot (candidate : Path) : Except HostFault Path → Except HostFault Path
  | .error (.os _) => .ok candidate
  | reply => reply

/-- `guard_install_root(install_root)` -/
def guardInstallRoot (installRoot : Text) : UpdateProgram Unit := do
  let text := installRoot.strip
  if text = [] then raise (.rejected ["install_root_empty"])
  else if !(Path.ofText text).absolute then
    raise (.rejected [Text.format ["install_root_not_absolute:", text]])
  else do
    let reply ← ask (.resolve (Path.ofText text) false)
    let resolved ← attempt (resolvedRoot (Path.ofText text) reply)
    let roots : List Path ← ask UpdateOp.protectedRoots
    match roots.find? fun root => resolved.isWithin root || root.isWithin resolved with
    | some root => raise (.rejected [Text.format ["in_place_upgrade_prohibited:", root.text]])
    | none => .done ()

/-- `delegation_argv(plan_path)` -/
def delegationArgv (planPath : Text) : List Text := [orchestrator, "update", "apply", "--plan", planPath]

/-- `pathlib.PurePath(program.replace("\\", "/")).name.lower()` -/
def programName (program : Text) : Text :=
  let path := Path.ofText (program.map fun c => if c = codePoint '\\' then codePoint '/' else c)
  up.lower (path.parts.getLast?.getD [])

/-- What is said against the tokens of a command, one after another. -/
def tokenReasons : List Text → List Text
  | [] => []
  | token :: rest =>
    let following := rest.headD []
    flag (token ∈ pipPrograms) (Text.format ["pip_token_in_delegation:", token]) ++
      flag ((token = "-m" || token = "--module") && following ∈ pipPrograms)
        (Text.format ["module_install_in_delegation:", following]) ++
      flag (Text.contains token "pip install" || Text.contains token "pip upgrade")
        (Text.format ["pip_phrase_in_delegation:", token]) ++
      tokenReasons rest

/-- `guard_delegation(argv)` -/
def guardDelegation : List Text → Except UpdateRaised Unit
  | [] => .error (.rejected ["delegation_argv_empty"])
  | program :: args =>
    let head := programName up program
    let installs :=
      head ∈ pipPrograms || Text.startsWith head "pip" || head = "python" || head = "python3" || head = "py"
    let reasons := flag installs (Text.format ["delegated_program_cannot_install:", head]) ++
      tokenReasons ((program :: args).map fun item => up.lower item.strip)
    if reasons = [] then .ok () else .error (.rejected reasons)

/-! ### The decision over a plan -/

/-- `value.get(key)`, of an object or of nothing. -/
def getOf (value : Json) (key : Text) : Except UpdateRaised Json :=
  if truthy value then
    match value with
    | .obj entries => .ok (valueOf entries key)
    | _ => .error .malformed
  else .ok .null

/-- `str(value or "")` -/
def textOf (value : Json) : Text := if truthy value then Json.pyStr up.ev.py value else []

/-- The field `outcome` of a decision: `delegated_not_executed`, `delegated_ok`, or
`delegated_failed:` and a code. -/
inductive Outcome
  | notExecuted
  | delegated
  | failed (exitCode : ℤ)

/-- `int(outcome.rsplit(":", 1)[1]) if "failed:" in outcome else 0` -/
def Outcome.exitCode : Outcome → ℤ
  | .failed exitCode => exitCode
  | _ => 0

/-- `ApplyDecision` -/
structure ApplyDecision where
  planId : Text
  planDigest : Text
  targetComponent : Text
  installRoot : Text
  argv : List Text
  executed : Bool
  outcome : Outcome

/-- `apply_plan(document, plan_path=plan_path, approved_digest=approved, runner=runner)` -/
def applyPlan (document : Json) (planPath : Text) (approved : Option Text)
    (runner : List Text → UpdateProgram ℤ) : UpdateProgram ApplyDecision := do
  let verdict ← validateDocument up document approved
  if !verdict.ok then raise (.rejected (if verdict.reasons = [] then ["plan_rejected"] else verdict.reasons))
  else
    match document.field? "plan" with
    | some (.obj plan) => do
      let state ← ofExcept (getOf (valueOf plan "approval") "state")
      if !Json.pyEq state (.str "approved") then raise (.rejected ["plan_not_approved"])
      else do
        let named ← ofExcept (getOf (valueOf plan "target") "component")
        if textOf up named ≠ component then
          raise (.rejected [Text.format ["target_is_not_this_component:", textOf up named]])
        else do
          let root ← ofExcept (getOf (valueOf plan "target") "install_root")
          guardInstallRoot (textOf up root)
          ofExcept (guardDelegation up (delegationArgv planPath))
          let digest ← planDigestOf up plan
          let exitCode ← runner (delegationArgv planPath)
          .done ⟨textOf up (valueOf plan "plan_id"), digest, textOf up named, textOf up root,
            delegationArgv planPath, true, if exitCode = 0 then .delegated else .failed exitCode⟩
    | _ => raise .malformed

/-! ### The updater -/

/-- `path.absolute()` -/
def absolutePath (path : Path) : UpdateProgram Path :=
  if path.absolute then .done path
  else do
    let reply ← ask .cwd
    let here ← attempt reply
    .done (here.child path.parts)

/-- `(path, *path.parents)` -/
def withParents (path : Path) : List Path :=
  path.parts.inits.reverse.map fun parts => ⟨path.absolute, parts⟩

/-- The links on the way to a path. -/
def checkLinks : List Path → UpdateProgram Unit
  | [] => .done ()
  | candidate :: rest => do
    let status ← ask (.lstat candidate)
    attempt status
    let reply ← ask (.isSymlink candidate)
    if ← attempt reply then raise (.unavailable "unsafe_core_or_plan_path")
    else checkLinks rest

/-- `_regular_input(path)` -/
def regularInput (path : Path) : UpdateProgram Path := do
  checkLinks (withParents path)
  let reply ← ask (.isFile path)
  if !(← attempt reply) then raise (.unavailable "core_or_plan_not_regular")
  else do
    let resolved ← ask (.resolve path true)
    attempt resolved

/-- The probed program is an updater that this component knows. -/
def isUpdater (identity : Json) : Except UpdateRaised Bool :=
  match identity with
  | .obj entries =>
    .ok (Json.pyEq (valueOf entries "component") (.str "axiom") &&
      Json.pyEq (valueOf entries "control_api") (.int 1))
  | _ => .error .malformed

/-- `configured or shutil.which(ORCHESTRATOR)`, if it is no empty text. -/
def locateCore : UpdateProgram (Option Text) := do
  let configured : Option Text ← ask UpdateOp.coreCommand
  if (configured.getD []) ≠ [] then .done configured
  else do
    let found : Option Text ← ask UpdateOp.which
    .done (if (found.getD []) = [] then none else found)

/-- A program that is probed: what it ended with, and what it says of itself. -/
def probeCore (named : Path) : UpdateProgram (Path × ℤ × Json) := do
  let program ← regularInput named
  let reply ← ask (.probe program)
  let probe ← attempt reply
  let identity ← attempt probe.identity
  .done (program, probe.returncode, identity)

/-- `core_program()` -/
def coreProgram : UpdateProgram Path := do
  match ← locateCore with
  | none => raise (.unavailable "installed_core_cli_not_found")
  | some located => do
    let named ← absolutePath (Path.ofText located)
    let (program, returncode, identity) ← renamed "installed_core_identity_unavailable" (probeCore named)
    if returncode ≠ 0 then raise (.unavailable "installed_core_identity_mismatch")
    else if !(← ofExcept (isUpdater identity)) then raise (.unavailable "installed_core_identity_mismatch")
    else .done program

/-- `args[args.index("--plan") + 1]`, where there is such an argument. -/
def planArgument : List Text → Option Text
  | [] => none
  | argument :: rest => if argument = "--plan" then rest.head? else planArgument rest

/-- The bytes that a plan may take. -/
def maxPlanBytes : ℕ := 16 * 1024 * 1024

/-- What is checked before a launch: the plan is a regular file of some size, under an approval. -/
def checkInput (args : List Text) : UpdateProgram Unit :=
  match planArgument args with
  | none => raise (.host (.value "ValueError"))
  | some planPath => do
    let named ← absolutePath (Path.ofText planPath)
    let path ← regularInput named
    let reply ← ask (.size path)
    if maxPlanBytes < (← attempt reply) then raise (.unavailable "update_plan_too_large")
    else if ("--approve-digest" : Text) ∉ args then raise (.unavailable "explicit_core_approval_required")
    else .done ()

/-- The updater is launched on its plan. -/
def launchCore (program : Path) (args : List Text) : UpdateProgram ℤ := do
  checkInput args
  let completed ← ask (.launch program args)
  let returncode ← attempt completed
  .done (if 0 ≤ returncode then returncode else 8)

/-- `run_core(argv)` -/
def runCore (argv : List Text) : UpdateProgram ℤ := do
  let program ← coreProgram
  renamed "core_update_failed_or_timed_out_state_unknown" (launchCore program argv.tail)

/-- `run_core(argv)` with an argument that is no text: the `TypeError` comes in place of the launch. -/
def runMalformed (argv : List Text) : UpdateProgram ℤ := do
  let _ ← coreProgram
  renamed "core_update_failed_or_timed_out_state_unknown" (checkInput argv.tail)
  raise .malformed

/-! ### Plans of the updater -/

/-- What the digest of a plan of the updater covers. -/
def coreBody (document : JsonObject) : JsonObject := document.filter fun item => item.1 ≠ "plan_digest"

/-- The bytes of a plan of the updater: no line feed follows. -/
def corePlanBytes (document : JsonObject) : Except PlanFault Bytes :=
  match (Json.obj (coreBody document)).dumps up.ev.py with
  | none => .error .unprintable
  | some text =>
    match Utf8.encode text with
    | none => .error .unicodeEncode
    | some bytes => .ok bytes

/-- `["--json"] if as_json else []` -/
def jsonFlag (asJson : Bool) : List Text := if asJson then ["--json"] else []

/-- `["--approve-digest", digest]` -/
def approvalFlag (digest : Text) : List Text := ["--approve-digest", digest]

/-- The command that applies a plan under an approval. -/
def approvedArgv (planPath digest : Text) (asJson : Bool) : List Text :=
  delegationArgv planPath ++ approvalFlag digest ++ jsonFlag asJson

/-- `execute_core_plan(document, path, approved, as_json=as_json)` -/
def executeCorePlan (document : JsonObject) (planPath : Text) (approved : Option Text) (asJson : Bool) :
    UpdateProgram ℤ :=
  match approved with
  | some (first :: rest) =>
    if !Json.pyEq (.str (first :: rest)) (valueOf document "plan_digest") then
      raise (.rejected ["plan_not_approved"])
    else do
      let bytes ← ofExcept ((corePlanBytes up document).mapError .plan)
      if up.ev.sha256 bytes ≠ first :: rest then raise (.rejected ["plan_digest_mismatch"])
      else runCore (approvedArgv planPath (first :: rest) asJson)
  | _ => raise (.rejected ["plan_not_approved"])

/-! ### The command -/

/-- What the command ends with: its exit code, and the lines on standard error. -/
structure Ended where
  code : ℤ
  errors : List Text

/-- `apply_exit_code(error)` -/
def applyExitCode (reasons : List Text) : ℤ := if ("plan_not_approved" : Text) ∈ reasons then 5 else 2

/-- The end of a command whose plan was applied, forwarded or refused. -/
def endOf : Except UpdateRaised ℤ → Except UpdateRaised Ended
  | .ok code => .ok ⟨code, []⟩
  | .error (.unavailable reason) => .ok ⟨3, [Text.format ["axmp: ", reason]]⟩
  | .error (.rejected reasons) => .ok ⟨applyExitCode reasons, reasons.map fun reason => Text.format ["  ", reason]⟩
  | .error raised => .error raised

/-- The document in the text of a plan, or what hides it. -/
def documentOf (py : Interpreter) : Except HostFault Text → Except HostFault Json
  | .error raised => .error raised
  | .ok text =>
    match Json.loads py text with
    | .error (.notJson _) => .error (.value "JSONDecodeError")
    | .error _ => .error (.value "ValueError")
    | .ok document => .ok document

/-- The runner of the command: it launches the updater on the plan, under the digest that the plan carries. -/
def delegate (document : Json) (asJson : Bool) (argv : List Text) : UpdateProgram ℤ :=
  match document.field? "plan" with
  | some (.obj plan) =>
    match Json.get? plan "plan_digest" with
    | some (.str digest) => runCore (argv ++ approvalFlag digest ++ jsonFlag asJson)
    | some _ => runMalformed (argv ++ approvalFlag [] ++ jsonFlag asJson)
    | none => raise .malformed
  | _ => raise .malformed

/-- The plan is applied, or forwarded. -/
def applyDocument (document : Json) (planPath : Text) (approved : Option Text) (asJson : Bool) : UpdateProgram ℤ :=
  match document with
  | .obj entries =>
    if Json.pyEq (valueOf entries "kind") (.str "ecosystem-update-plan") then
      executeCorePlan up entries planPath approved asJson
    else do
      let decision ← applyPlan up document planPath approved (delegate document asJson)
      .done decision.outcome.exitCode
  | _ => raise .malformed

/-- `_run_update_apply(as_json=as_json, plan_path=plan_path, approve_digest=approved)` -/
def runUpdateApply (planPath : Text) (approved : Option Text) (asJson : Bool) : UpdateProgram Ended := do
  let reply ← ask (.readText planPath)
  match documentOf up.ev.py reply with
  | .ok document =>
    (applyDocument up document planPath approved asJson).resume fun outcome => ofExcept (endOf outcome)
  | .error (.os kind) | .error (.value kind) =>
    .done ⟨2, [Text.format ["axmp: cannot read plan ", planPath, ": ", kind]]⟩
  | .error raised => raise (.host raised)

end Update

end AxiomMcp.Update

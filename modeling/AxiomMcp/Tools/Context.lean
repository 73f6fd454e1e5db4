/-
**The shared context of the tool handlers (`tools/context.py`).**

A handler gets an argument document and a `ToolContext`: who calls, the registry, a source of snapshots and
perhaps a control plane. What it asks of them is a `ToolOp`, and a handler is a `ToolProgram`.

* `closedArguments` to `projectScope`: the argument checks that the tools share;
* `ToolPrincipal.require` and `ToolContext.resolveProjects`: what a caller may ask for;
* `delegate`: one request to the control plane, whose failure is an unavailable daemon.
-/

import AxiomMcp.Query.Cursor
import AxiomMcp.Query.Documents
import AxiomMcp.Security.Tokens
import AxiomMcp.Snapshot.Session

namespace AxiomMcp.Tools

open Lib Program
open Query (QueryModelError GraphFault identifierText CursorStore)
open Security (capabilityRead ScopedToken)
open Snapshot (SnapshotRegistry LoadedSnapshot ReadOp ReadReply)

/-! ### Errors -/

/-- The codes of `CANONICAL_CODES`. -/
inductive ErrorCode
  | unsupportedOperation | limitExceeded | validationError | unauthenticated | forbidden | notFound
  | conflict | incompatibleInput | rateLimited | snapshotExpired | snapshotUnavailable | snapshotCorrupt
  | daemonUnavailable | projectUnavailable | notReady | internalError
  deriving DecidableEq

/-- The text of a code. -/
def ErrorCode.name : ErrorCode → Text
  | .unsupportedOperation => "UNSUPPORTED_OPERATION"
  | .limitExceeded => "LIMIT_EXCEEDED"
  | .validationError => "VALIDATION_ERROR"
  | .unauthenticated => "UNAUTHENTICATED"
  | .forbidden => "FORBIDDEN"
  | .notFound => "NOT_FOUND"
  | .conflict => "CONFLICT"
  | .incompatibleInput => "INCOMPATIBLE_INPUT"
  | .rateLimited => "RATE_LIMITED"
  | .snapshotExpired => "SNAPSHOT_EXPIRED"
  | .snapshotUnavailable => "SNAPSHOT_UNAVAILABLE"
  | .snapshotCorrupt => "SNAPSHOT_CORRUPT"
  | .daemonUnavailable => "DAEMON_UNAVAILABLE"
  | .projectUnavailable => "PROJECT_UNAVAILABLE"
  | .notReady => "NOT_READY"
  | .internalError => "INTERNAL_ERROR"

/-- An `AxiomError`, by what it is made of; it is made with a canonical code only. Its message and details
are redacted as it is made. -/
structure AxiomError where
  code : ErrorCode
  message : Text
  details : JsonObject
  retryable : Option Bool

/-- What a handler raises. -/
inductive ToolError
  | gateway (error : AxiomError)
  /-- An exception of the snapshot and guard modules. -/
  | snapshot (raised : Raised)
  /-- A `QueryModelError`. -/
  | query (error : QueryModelError)
  /-- What building a graph raises. -/
  | graph (fault : GraphFault)
  /-- Any other exception. -/
  | other (name : Text)

/-- `AxiomError(code, message, details=details)` -/
def refusal (code : ErrorCode) (message : Text) (details : JsonObject) : ToolError :=
  .gateway ⟨code, message, details, none⟩

/-- `details={"field": key}` -/
def fieldDetails (key : Text) : JsonObject := [("field", .str key)]

/-- A refused argument. -/
def invalid (key message : Text) : ToolError := refusal .validationError message (fieldDetails key)

/-- `except RegistryError as exc: raise AxiomError("NOT_FOUND", str(exc))` -/
def translateRegistry : Raised → ToolError
  | .registry _ message => refusal .notFound message []
  | raised => .snapshot raised

/-! ### Arguments -/

section Arguments

variable (py : Interpreter) (arguments : JsonObject)

/-- `arguments.get(key)`, with `None` for nothing. -/
def argument (key : Text) : Option Json :=
  match Json.get? arguments key with
  | some .null => none
  | value => value

/-- `closed_arguments(arguments, allowed)` -/
def closedArguments (allowed : List Text) : Except ToolError Unit :=
  let unexpected := sortedSet id ((arguments.map Prod.fst).filter fun key => key ∉ allowed)
  if unexpected = [] then .ok ()
  else .error (refusal .validationError "the request carries fields this tool does not accept"
    [("unexpected_fields", .arr (unexpected.map .str))])

/-- `require_text(arguments, key)` -/
def requireText (key : Text) : Except ToolError Text :=
  match argument arguments key with
  | some (.str value) =>
    if value.strip = [] then
      .error (invalid key (key ++ (" is required and must be a non-empty string" : Text)))
    else .ok value.strip
  | _ => .error (invalid key (key ++ (" is required and must be a non-empty string" : Text)))

/-- `identifier_text(value, what=what)`, refused as the argument `key`. -/
def checkedIdentifier (value what key : Text) : Except ToolError Text :=
  (identifierText value what).mapError fun error => invalid key (error.message py)

/-- `identifier_argument(arguments, key)` -/
def identifierArgument (key : Text) : Except ToolError Text := do
  checkedIdentifier py (← requireText arguments key) key key

/-- The bounds of `optional_int`. -/
def checkRange (key : Text) (value minimum maximum : ℤ) : Except ToolError ℤ :=
  if value < minimum then
    .error (refusal .limitExceeded (Text.format [key, " must be at least ", Text.ofInt minimum])
      [("field", .str key), ("minimum", .int minimum)])
  else if maximum < value then
    .error (refusal .limitExceeded (Text.format [key, " must be at most ", Text.ofInt maximum])
      [("field", .str key), ("maximum", .int maximum)])
  else .ok value

/-- `optional_int(arguments, key, default=None, minimum=minimum, maximum=maximum)` -/
def optionalInt (key : Text) (minimum maximum : ℤ) : Except ToolError (Option ℤ) :=
  match argument arguments key with
  | none => .ok none
  | some (.int value) => (checkRange key value minimum maximum).map some
  | some _ => .error (invalid key (key ++ (" must be an integer" : Text)))

/-- `optional_int(arguments, key, default=default, minimum=minimum, maximum=maximum)` -/
def optionalIntOr (key : Text) (default minimum maximum : ℤ) : Except ToolError ℤ :=
  (optionalInt arguments key minimum maximum).map fun value => value.getD default

/-- `optional_bool(arguments, key)` -/
def optionalBool (key : Text) : Except ToolError Bool :=
  match argument arguments key with
  | none => .ok false
  | some (.bool value) => .ok value
  | some _ => .error (invalid key (key ++ (" must be a boolean" : Text)))

/-- The members of a list, each where it is met first. -/
def firsts (items : List Text) : List Text := (Dict.firstBy id items).values

/-- One entry of `project_ids`. -/
def projectEntry : Json → Except ToolError Text
  | .str item =>
    if item.strip = [] then
      .error (invalid "project_ids" "project_ids entries must be non-empty strings")
    else checkedIdentifier py item "project_id" "project_ids"
  | _ => .error (invalid "project_ids" "project_ids entries must be non-empty strings")

/-- `project_scope(arguments)` -/
def projectScope : Except ToolError (Option (List Text)) :=
  match argument arguments "project_id", argument arguments "project_ids" with
  | some _, some _ => .error (refusal .validationError "project_id and project_ids must not be combined"
      [("fields", .arr [.str "project_id", .str "project_ids"])])
  | some _, none => (identifierArgument py arguments "project_id").map fun project => some [project]
  | none, some (.arr many) => do
    let seen ← many.mapM (projectEntry py)
    if seen = [] then .error (invalid "project_ids" "project_ids must name at least one project")
    else return some (firsts seen)
  | none, some _ => .error (invalid "project_ids" "project_ids must be a list of project identifiers")
  | none, none => .ok none

end Arguments

/-! ### The caller -/

/-- A `ToolPrincipal`: the authenticated caller. -/
structure ToolPrincipal where
  tokenId : Text
  capabilities : Finset Text
  solutionIds : Finset Text
  projectIds : Option (Finset Text)

namespace ToolPrincipal

/-- `ToolPrincipal.of(token)` -/
def of (token : ScopedToken) : ToolPrincipal :=
  ⟨token.tokenId, token.capabilities, token.solutionIds, token.projectIds⟩

variable (principal : ToolPrincipal)

/-- `principal.visible(solution_id)` -/
def visible (solutionId : Text) : Bool := decide (solutionId ∈ principal.solutionIds)

/-- Whether the caller is scoped to a project. -/
def admits (projectId : Text) : Bool :=
  match principal.projectIds with
  | none => true
  | some ids => decide (projectId ∈ ids)

/-- The first check of `require`. -/
def requireCapability (capability : Text) : Except ToolError Unit :=
  if capability ∉ principal.capabilities then
    .error (refusal .forbidden "the caller is not permitted this capability"
      [("required_capability", .str capability)])
  else .ok ()

/-- `principal.require(capability, solution_id=solution_id, project_ids=project_ids)` -/
def require (capability solutionId : Text) (projectIds : List Text) : Except ToolError Unit := do
  principal.requireCapability capability
  if principal.visible solutionId then
    let outside := sortedSet id (projectIds.filter fun projectId => !principal.admits projectId)
    if outside = [] then .ok ()
    else .error (refusal .forbidden "the caller is not scoped to every requested project"
      [("project_scope_exceeded", .arr (outside.map .str))])
  else .error (refusal .notFound "no such solution is visible to this caller" [])

end ToolPrincipal

/-! ### What a handler asks -/

/-- The key of a retained generation. -/
structure RetentionKey where
  root : Text
  guardDir : Text
  solutionId : Text
  projectId : Text
  lane : Text
  schemaMajor : ℤ
  analysisProfile : Text
  generationId : Text
  deriving DecidableEq

/-- The methods of a control plane. -/
inductive ControlOp
  | status (solutionId : Text)
  | reconcile (request : JsonObject)
  | job (jobId action : Text) (waitMs : ℤ)
  | verify (request : JsonObject)

/-- How a method of a control plane fails. -/
inductive ControlFault
  | gateway (error : AxiomError)
  /-- Any other exception, by the name of its class. -/
  | other (name : Text)

/-- The operations of a handler. -/
inductive ToolOp
  /-- What a read asks, of the guard that is in use, of the file system and of the clock. -/
  | read (op : ReadOp)
  /-- `SolutionGuard(directory, timeout_ms=timeout_ms)`, which is in use from then on. -/
  | newGuard (directory : Text)
  /-- `retention.get(key)` -/
  | retained (key : RetentionKey)
  /-- `retention.put(key, value)` -/
  | retain (key : RetentionKey) (value : LoadedSnapshot)
  | control (op : ControlOp)
  /-- What `graph_version` reports of the installation. -/
  | installation (components : List Text) (checkUpdate : Bool)

/-- What they are answered. -/
abbrev ToolReply : ToolOp → Type
  | .read op => ReadReply op
  | .newGuard _ => Unit
  | .retained _ => Option LoadedSnapshot
  | .retain _ _ => Unit
  | .control _ => Except ControlFault Json
  | .installation _ _ => Except Raised JsonObject

/-- A part of a handler. -/
abbrev ToolProgram (α : Type) := Program ToolOp ToolReply ToolError α

/-- Everything a handler may use. -/
structure ToolContext (Time : Type) where
  interpreter : Interpreter
  sha256 : Bytes → Text
  registry : SnapshotRegistry
  principal : ToolPrincipal
  /-- The source retains generations. -/
  retaining : Bool
  /-- A control plane is configured. -/
  controlled : Bool
  /-- How often the waits of a guard are unrolled. -/
  rounds : ℕ
  cursors : CursorStore Time
  cursorClock : Query.Clock Time
  /-- What the clock of the cursors reads. -/
  moment : Time

namespace ToolContext

variable {Time : Type} (context : ToolContext Time)

/-- `context.registry.solution(solution_id)`, with its error translated. -/
def registered (solutionId : Text) : Except ToolError Unit :=
  ((context.registry.solution context.interpreter solutionId).mapError translateRegistry).map fun _ => ()

/-- `context.solution_projects(solution_id)` -/
def solutionProjects (solutionId : Text) : Except ToolError (List Text) := do
  let binding ← (context.registry.solution context.interpreter solutionId).mapError .snapshot
  return firsts (binding.repositories.flatMap Snapshot.RepositoryBinding.projectIds)

/-- The refusal of a project. -/
def noProject : ToolError := refusal .notFound "no such project is visible to this caller" []

/-- `context.resolve_projects(solution_id, requested)` -/
def resolveProjects (solutionId : Text) (requested : Option (List Text)) :
    Except ToolError (List Text) := do
  let available ← context.solutionProjects solutionId
  match requested with
  | none => return available.filter context.principal.admits
  | some requested =>
    if requested.all fun project => decide (project ∈ available) && context.principal.admits project then
      return requested
    else .error noProject

/-- `context.open_solution(solution_id)` -/
def openSolution (solutionId : Text) : Except ToolError Unit := do
  context.principal.require capabilityRead solutionId []
  context.registered solutionId

/-- `context.require_control()` -/
def requireControl : Except ToolError Unit :=
  if context.controlled then .ok ()
  else .error (refusal .daemonUnavailable
    "the graphd control plane is not configured for this gateway" [])

end ToolContext

/-! ### Requests to the control plane -/

/-- `except AxiomError: raise`, and any other exception as an unavailable daemon. -/
def ControlFault.translate (message : Text) : ControlFault → ToolError
  | .gateway error => .gateway error
  | .other _ => refusal .daemonUnavailable message []

/-- One request to the control plane. -/
def sendControl (op : ControlOp) (message : Text) : ToolProgram Json :=
  .call (.control op) fun reply => ofExcept (reply.mapError (ControlFault.translate message))

/-- A `DAEMON_UNAVAILABLE`. -/
def unavailable (message : Text) : ToolError := refusal .daemonUnavailable message []

/-- The answer of a control plane, which has to be an object. -/
def answerObject : Json → Except ToolError JsonObject
  | .obj answer => .ok answer
  | _ => .error (unavailable "the control plane answered with a non-object payload")

/-- One delegated request and the object it is answered with. -/
def delegate (op : ControlOp) : ToolProgram JsonObject := do
  let answer ← sendControl op "the graphd control plane is unreachable"
  ofExcept (answerObject answer)

end AxiomMcp.Tools

/-
**The contract of an update plan (`_canonical/update_plan_contract.py`).**

An evaluator reads one document, a plan and perhaps an approval that was recorded outside of it, and names every
reason against it. It reads loaded JSON, so an integer always has digits that the interpreter prints.

* `structuralReasons`: the shape of a plan and the rules across its records, section after section;
* `planDigest`: what a digest covers, everything of a plan but its approval and the digest itself;
* `approvalReasons`, `evaluate`: the plan against an approval, and the verdict over a document.

An evaluator raises where it looks for a list or an object in a set (`PlanFault`).
-/

import AxiomMcp.Lib.JsonText
import AxiomMcp.Lib.Regex
import AxiomMcp.Query.Budget
import AxiomMcp.Query.Model

namespace AxiomMcp.Update

open Lib
open Query (isSha256 isIdentifier isPortableRelative truthy)

/-! ### Values and patterns -/

/-- What an evaluator gets from its interpreter: beside its tables, SHA-256 in hexadecimal and the class `\d`. -/
structure Evaluator where
  py : Interpreter
  sha256 : Bytes → Text
  isDecimal : CodePoint → Bool

/-- What an evaluator raises. -/
inductive PlanFault
  /-- A `TypeError`: a list or an object is looked for in a set. -/
  | unhashable
  /-- A `TypeError`: the migrations are a number. -/
  | notIterable
  /-- An integer has more digits than the interpreter prints. -/
  | unprintable
  | unicodeEncode
  deriving DecidableEq

/-- `row.get(key)` -/
def valueOf (row : JsonObject) (key : Text) : Json := (Json.get? row key).getD .null

/-- A text of a pattern. -/
def isTextOf (pattern : Text → Bool) : Json → Bool
  | .str text => pattern text
  | _ => false

/-- `_is_text(value)` -/
def isText (value : Json) : Bool := isTextOf (fun text => text.strip ≠ []) value

/-- `_is_count(value, minimum)` -/
def isCount (minimum : ℤ) : Json → Bool
  | .int count => minimum ≤ count
  | _ => false

/-- `value <= bound`, of two counts. -/
def isAtMost : Json → Json → Bool
  | .int value, .int bound => value ≤ bound
  | _, _ => false

/-- `value is None` -/
def isNull : Json → Bool
  | .null => true
  | _ => false

/-- `type(value) is bool` -/
def isBool : Json → Bool
  | .bool _ => true
  | _ => false

/-- `value is True` -/
def isTrue : Json → Bool
  | .bool value => value
  | _ => false

/-- `value is False` -/
def isFalse : Json → Bool
  | .bool value => !value
  | _ => false

/-- `value in names`, for a set of names. -/
def isOneOf (names : List Text) : Json → Except PlanFault Bool
  | .str text => .ok (text ∈ names)
  | .arr _ => .error .unhashable
  | .obj _ => .error .unhashable
  | _ => .ok false

/-- A match of `^…$`. -/
def matchesLine (pattern : Regex CodePoint) (text : Text) : Bool :=
  (pattern.ends ⟨none, text⟩).any fun place => place.rest = [] || place.rest = "\n"

/-- A literal character. -/
def literal (c : Char) : Regex CodePoint := .one fun found => found = codePoint c

section Patterns

variable (isDecimal : CodePoint → Bool)

/-- `(0|[1-9]\d*)` -/
def versionNumber : Regex CodePoint :=
  .alt (literal '0') (.seq (.one fun c => 0x31 ≤ c.val && c.val ≤ 0x39) (.star (.one isDecimal)))

/-- `[0-9A-Za-z.-]+` -/
def versionTail : Regex CodePoint :=
  .atLeast 1 (.one fun c => Text.isDigitAscii c || Text.isLetterAscii c || c = codePoint '.' || c = codePoint '-')

/-- `SEMVER.match(text)` -/
def isSemver : Text → Bool :=
  matchesLine (.all [versionNumber isDecimal, literal '.', versionNumber isDecimal, literal '.',
    versionNumber isDecimal, .optional (.seq (literal '-') versionTail),
      .optional (.seq (literal '+') versionTail)])

/-- `\d{count}` -/
def decimals (count : ℕ) : Regex CodePoint := .within count count (.one isDecimal)

/-- `TIMESTAMP.match(text)` -/
def isTimestamp : Text → Bool :=
  matchesLine (.all [decimals isDecimal 4, literal '-', decimals isDecimal 2, literal '-', decimals isDecimal 2,
    literal 'T', decimals isDecimal 2, literal ':', decimals isDecimal 2, literal ':', decimals isDecimal 2,
    literal 'Z'])

end Patterns

/-- `REVISION.match(text)` -/
def isRevision : Text → Bool :=
  matchesLine (.within 40 40 (.one fun c => Text.isDigitAscii c || (0x61 ≤ c.val && c.val ≤ 0x66)))

/-- A character matches a capital letter or the underscore, in either case. An `I` has two more lower cases. -/
def sameLetter (letter c : CodePoint) : Bool :=
  c = letter || (letter ≠ codePoint '_' && c.val = letter.val + 0x20) ||
    (letter = codePoint 'I' && (c.val = 0x130 || c.val = 0x131))

/-- A word stands somewhere in a text, in either case. -/
def mentions (word text : Text) : Bool :=
  text.tails.any fun tail => word.length ≤ tail.length && (word.zip tail).all fun pair => sameLetter pair.1 pair.2

/-- `PLACEHOLDER.search(text)` -/
def isPlaceholder (text : Text) : Bool := mentions "REPLACE" text || mentions "FILL_ME" text

/-! ### Vocabularies -/

/-- The constant `COMPONENTS`. -/
def components : List Text := ["axiom-graphd", "axiom-mcp", "axiom", "axiom-cli", "skills"]

/-- The constant `HOSTS`. -/
def hosts : List Text := ["windows-x64", "linux-x64", "macos-arm64", "macos-x64"]

/-- The constant `CHANNELS`. -/
def channels : List Text := ["stable", "prerelease"]

/-- The constant `ACTIONS`. -/
def actions : List Text := ["install", "upgrade", "reinstall", "noop"]

/-- The constant `INTERRUPTION_ACTIONS`. -/
def interruptionActions : List Text := ["stop", "restart", "none"]

/-- The constant `APPROVAL_STATES`. -/
def approvalStates : List Text := ["unapproved", "approved"]

/-- The constant `DIGEST_EXCLUDED`. -/
def digestExcluded : List Text := ["plan_digest", "approval"]

/-- The constant `PLAN_REQUIRED`. -/
def planRequired : List Text :=
  ["schema_version", "spec_version", "plan_id", "created_at", "expires_at", "channel", "target", "components",
    "downloads", "migrations", "backup", "disk_headroom_bytes", "service_interruptions", "host_reconnect",
    "bootstrap_changes", "rollback", "trust", "approval", "plan_digest"]

/-- The constant `DOCUMENT_KEYS`. -/
def documentKeys : List Text := ["plan", "approved_digest"]

/-- The fields of a component that `_blank_required` looks for. -/
def componentFields : List Text :=
  ["component", "installed_version", "installed_revision", "target_version", "target_revision", "artifact_sha256",
    "action"]

/-! ### Placeholders -/

mutual
/-- `_placeholders(value, path)` -/
def placeholders (path : Text) : Json → List Text
  | .str text => if isPlaceholder text then [path] else []
  | .arr items => itemPlaceholders path 0 items
  | .obj entries => ((sortedBy Prod.fst (entryPlaceholders path entries)).map Prod.snd).flatten
  | _ => []

def itemPlaceholders (path : Text) : ℕ → List Json → List Text
  | _, [] => []
  | index, item :: rest =>
    placeholders (Text.format [path, "[", Text.ofNat index, "]"]) item ++ itemPlaceholders path (index + 1) rest

def entryPlaceholders (path : Text) : JsonObject → List (Text × List Text)
  | [] => []
  | (key, value) :: rest => (key, placeholders (Text.format [path, ".", key]) value) :: entryPlaceholders path rest
end

/-! ### Digests -/

section Evaluation

variable (ev : Evaluator)

/-- What a digest covers. -/
def digestBody (plan : JsonObject) : JsonObject := plan.filter fun item => item.1 ∉ digestExcluded

/-- `canonical_plan_bytes(plan)` -/
def canonicalPlanBytes (plan : JsonObject) : Except PlanFault Bytes :=
  match (Json.obj (digestBody plan)).dumps ev.py with
  | none => .error .unprintable
  | some text =>
    match Utf8.encode (text ++ ("\n" : Text)) with
    | none => .error .unicodeEncode
    | some bytes => .ok bytes

/-- `plan_digest(plan)` -/
def planDigest (plan : JsonObject) : Except PlanFault Text := (canonicalPlanBytes ev plan).map ev.sha256

/-! ### Reasons -/

/-- `if refused: reasons.append(reason)` -/
def flag (refused : Bool) (reason : Text) : List Text := if refused then [reason] else []

/-- `"reason:%s" % value` -/
def about (reason : Text) (value : Json) : Text := Text.format [reason, ":", Json.pyStr ev.py value]

/-- `reasons.append("%s:%s.%s" % (reason, value, field))` -/
def aboutField (reason : Text) (value : Json) (field : Text) : Text :=
  Text.format [reason, ":", Json.pyStr ev.py value, ".", field]

/-- The fields of a plan: which are too many, and which are missing. -/
def fieldReasons (plan : JsonObject) : List Text :=
  ((sortedBy id (plan.map Prod.fst)).filter fun key => key ∉ planRequired).map
      (fun key => Text.format ["undeclared_plan_field:", key]) ++
    (planRequired.filter fun key => key ∉ plan.map Prod.fst).map
      fun key => Text.format ["missing_required_field:", key]

/-- The reasons of placeholders that were left. -/
def placeholderReasons (plan : JsonObject) : List Text :=
  (placeholders "$" (.obj plan)).map fun path => Text.format ["unresolved_placeholder:", path]

/-- The loop over the rows of a section: what is said against a row may depend on the names in rows before it. -/
def rowReasons (notObject : Text) (names : JsonObject → List Json)
    (reasons : ℕ → List Json → JsonObject → Except PlanFault (List Text)) :
    ℕ → List Json → List Json → Except PlanFault (List Text)
  | _, _, [] => .ok []
  | index, seen, .obj row :: rest => do
    let here ← reasons index seen row
    let later ← rowReasons notObject names reasons (index + 1) (seen ++ names row) rest
    .ok (here ++ later)
  | index, seen, _ :: rest => do
    let later ← rowReasons notObject names reasons (index + 1) seen rest
    .ok (notObject :: later)

/-- A text of a pattern, as a name that a loop remembers. -/
def nameOf (pattern : Text → Bool) (value : Json) : List Json := if isTextOf pattern value then [value] else []

/-- `name in seen` -/
def isSeen (seen : List Json) (name : Json) : Bool := seen.any fun other => Json.pyEq other name

/-- `expires <= created`, of two timestamps. -/
def endsEarly (created expires : Json) : Bool :=
  match created, expires with
  | .str start, .str last => isTimestamp ev.isDecimal start && isTimestamp ev.isDecimal last && last ≤ start
  | _, _ => false

/-- The reasons against the head of a plan. -/
def headReasons (plan : JsonObject) : Except PlanFault (List Text) := do
  let spec := valueOf plan "spec_version"
  let created := valueOf plan "created_at"
  let expires := valueOf plan "expires_at"
  let channel := valueOf plan "channel"
  let known ← isOneOf channels channel
  let timed (value : Json) := isTextOf (isTimestamp ev.isDecimal) value
  .ok (flag (!Json.pyEq (valueOf plan "schema_version") (.int 1)) "unsupported_schema_version" ++
    flag (!isText spec || !isTextOf (isSemver ev.isDecimal) spec) (about ev "invalid_spec_version" spec) ++
    flag (!isTextOf isIdentifier (valueOf plan "plan_id")) "invalid_plan_id" ++
    flag (!timed created) "invalid_timestamp:created_at" ++
    flag (!timed expires) "invalid_timestamp:expires_at" ++
    flag (endsEarly ev created expires) "expiry_not_after_creation" ++
    flag (!known) (about ev "unsupported_channel" channel))

/-- The reasons against the target. -/
def targetReasons : Json → Except PlanFault (List Text)
  | .obj target => do
    let component ← isOneOf components (valueOf target "component")
    let host ← isOneOf hosts (valueOf target "host")
    .ok (flag (!component) (about ev "unsupported_target_component" (valueOf target "component")) ++
      flag (!host) (about ev "unsupported_host" (valueOf target "host")) ++
      flag (!isText (valueOf target "install_root")) "missing_target_install_root")
  | _ => .ok ["target_not_object"]

/-- What an action says of the installed version, against the row of a component. -/
def actionReasons (component installed : Json) (action target : Text) : List Text :=
  let mismatch := about ev "action_version_mismatch" component
  let same := Json.pyEq installed (.str target)
  flag (action = "install" && !isNull installed) mismatch ++
    flag ((action = "upgrade" || action = "reinstall") && isNull installed) mismatch ++
    flag (action = "upgrade" && !isNull installed && same) mismatch ++
    flag (action = "noop" && !same) mismatch

/-- The reasons of `actionReasons`, where the action and the target version are what they should be. -/
def versionReasons (component installed : Json) : Json → Json → List Text
  | .str action, .str target =>
    if action ∈ actions ∧ isSemver ev.isDecimal target then actionReasons ev component installed action target
    else []
  | _, _ => []

/-- The reasons against the row of a component, behind components that were seen. -/
def componentReasons (index : ℕ) (seen : List Json) (row : JsonObject) : Except PlanFault (List Text) := do
  let component := valueOf row "component"
  let action := valueOf row "action"
  let target := valueOf row "target_version"
  let installed := valueOf row "installed_version"
  let revision := valueOf row "installed_revision"
  let missing := (componentFields.filter fun key => key ∉ row.map Prod.fst).map fun key =>
    Text.format ["missing_required_field:components[", Text.ofNat index, "].", key]
  let known ← isOneOf components component
  let listed ← isOneOf actions action
  .ok (missing ++
    flag (!known) (about ev "unsupported_component" component) ++
    flag (isSeen seen component) (about ev "duplicate_component" component) ++
    flag (!listed) (Text.format ["unsupported_action:", Json.pyStr ev.py component, ":",
      Json.pyStr ev.py action]) ++
    flag (!isTextOf (isSemver ev.isDecimal) target) (aboutField ev "invalid_version" component "target_version") ++
    flag (!isNull installed && !isTextOf (isSemver ev.isDecimal) installed)
      (aboutField ev "invalid_version" component "installed_version") ++
    flag (!isNull revision && !isTextOf isRevision revision)
      (aboutField ev "invalid_revision" component "installed_revision") ++
    flag (!isTextOf isRevision (valueOf row "target_revision"))
      (aboutField ev "invalid_revision" component "target_revision") ++
    flag (!isTextOf isSha256 (valueOf row "artifact_sha256"))
      (aboutField ev "invalid_digest" component "artifact_sha256") ++
    versionReasons ev component installed action target)

/-- The reasons against the components. -/
def componentsReasons : Json → Except PlanFault (List Text)
  | .arr [] => .ok ["components_empty"]
  | .arr rows =>
    rowReasons "component_not_object" (fun row => [valueOf row "component"]) (componentReasons ev) 0 [] rows
  | _ => .ok ["components_not_list"]

/-- The reasons against the row of a download, behind artifacts that were seen. -/
def downloadReasons (seen : List Json) (row : JsonObject) : List Text :=
  let artifact := valueOf row "artifact"
  (if isText artifact then flag (isSeen seen artifact) (about ev "duplicate_download" artifact)
    else ["missing_download_artifact"]) ++
    flag (!isTextOf (fun url => Text.startsWith url "https://") (valueOf row "url"))
      (about ev "download_url_not_https" artifact) ++
    flag (!isTextOf isSha256 (valueOf row "sha256")) (aboutField ev "invalid_digest" artifact "sha256") ++
    flag (!isCount 1 (valueOf row "size_bytes")) (about ev "invalid_size" artifact)

/-- The reasons against the downloads. -/
def downloadsReasons : Json → Except PlanFault (List Text)
  | .arr rows =>
    rowReasons "download_not_object" (fun row => nameOf (fun name => name.strip ≠ []) (valueOf row "artifact"))
      (fun _ seen row => .ok (downloadReasons ev seen row)) 0 [] rows
  | _ => .ok ["downloads_not_list"]

/-- The reasons against the row of a migration, behind ids that were seen. -/
def migrationReasons (seen : List Json) (row : JsonObject) : List Text :=
  let migration := valueOf row "migration_id"
  let source := valueOf row "from_queue_schema"
  let target := valueOf row "to_queue_schema"
  (if isTextOf isIdentifier migration then flag (isSeen seen migration) (about ev "duplicate_migration" migration)
    else [about ev "invalid_migration_id" migration]) ++
    (if isCount 0 source ∧ isCount 0 target then
      flag (isAtMost target source) (about ev "migration_not_forward" migration)
    else [about ev "invalid_queue_schema_step" migration]) ++
    flag (isFalse (valueOf row "reversible") && !isTrue (valueOf row "requires_backup"))
      (about ev "irreversible_migration_without_backup" migration)

/-- The reasons against the migrations. -/
def migrationsReasons : Json → Except PlanFault (List Text)
  | .arr rows =>
    rowReasons "migration_not_object" (fun row => nameOf isIdentifier (valueOf row "migration_id"))
      (fun _ seen row => .ok (migrationReasons ev seen row)) 0 [] rows
  | _ => .ok ["migrations_not_list"]

/-- `migrations or []`, as a list. The members of an object and of a text are no objects. -/
def migrationItems (migrations : Json) : Except PlanFault (List Json) :=
  match migrations with
  | .arr rows => .ok rows
  | .int _ | .float _ | .bool _ => if truthy migrations then .error .notIterable else .ok []
  | _ => .ok []

/-- The ids of the migrations that require a backup. -/
def needsBackup (rows : List Json) : List Json :=
  rows.filterMap fun row =>
    match row with
    | .obj entries =>
      if isTrue (valueOf entries "requires_backup") then some (valueOf entries "migration_id") else none
    | _ => none

/-- The reasons against the backup. -/
def backupReasons (migrations : Json) : Json → Except PlanFault (List Text)
  | .obj backup => do
    let rows ← migrationItems migrations
    let ids := needsBackup rows
    .ok (flag (!isBool (valueOf backup "required")) "invalid_backup_required" ++
      (match valueOf backup "targets" with
      | .arr names => names.flatMap fun name =>
          flag (!isTextOf isPortableRelative name) (about ev "invalid_backup_target" name)
      | _ => ["backup_targets_not_list"]) ++
      flag (!ids.isEmpty && !isTrue (valueOf backup "required"))
        (Text.format ["backup_required_by_migration:", Text.join "," (sortedBy id (ids.map (Json.pyStr ev.py)))]))
  | _ => .ok ["backup_not_object"]

/-- The reasons against the row of an interruption. -/
def interruptionReasons (row : JsonObject) : Except PlanFault (List Text) := do
  let service := valueOf row "service"
  let known ← isOneOf components service
  let listed ← isOneOf interruptionActions (valueOf row "action")
  .ok (flag (!known) (about ev "unsupported_service" service) ++
    flag (!listed) (Text.format ["unsupported_interruption_action:", Json.pyStr ev.py service, ":",
      Json.pyStr ev.py (valueOf row "action")]) ++
    flag (!isCount 0 (valueOf row "max_seconds")) (about ev "invalid_interruption_seconds" service))

/-- The reasons against the interruptions. -/
def interruptionsReasons : Json → Except PlanFault (List Text)
  | .arr rows =>
    rowReasons "service_interruption_not_object" (fun _ => []) (fun _ _ row => interruptionReasons ev row) 0 [] rows
  | _ => .ok ["service_interruptions_not_list"]

/-- The reasons against the reconnection of the host. -/
def reconnectReasons : Json → List Text
  | .obj reconnect =>
    flag (!isBool (valueOf reconnect "required")) "invalid_host_reconnect_required" ++
      flag (!isText (valueOf reconnect "reason")) "missing_host_reconnect_reason"
  | _ => ["host_reconnect_not_object"]

/-- The reasons against the row of a change of the bootstrap. -/
def changeReasons (row : JsonObject) : List Text :=
  let repo := valueOf row "repo_id"
  flag (!isTextOf isIdentifier repo) (about ev "invalid_bootstrap_repo" repo) ++
    flag (!isTextOf (isSemver ev.isDecimal) (valueOf row "template_version"))
      (about ev "invalid_bootstrap_template_version" repo) ++
    match valueOf row "destinations" with
    | .arr (first :: more) => (first :: more).flatMap fun destination =>
        flag (!isTextOf isPortableRelative destination) (about ev "invalid_bootstrap_destination" destination)
    | _ => [about ev "missing_bootstrap_destinations" repo]

/-- The reasons against the changes of the bootstrap. -/
def changesReasons : Json → Except PlanFault (List Text)
  | .arr rows =>
    rowReasons "bootstrap_change_not_object" (fun _ => []) (fun _ _ row => .ok (changeReasons ev row)) 0 [] rows
  | _ => .ok ["bootstrap_changes_not_list"]

/-- The reasons against the rollback. -/
def rollbackReasons (migrations : Json) : Json → List Text
  | .obj rollback =>
    let supported := isTrue (valueOf rollback "supported")
    flag (!isBool (valueOf rollback "supported")) "invalid_rollback_supported" ++
      flag (!isBool (valueOf rollback "restores_previous_versions")) "invalid_rollback_restores" ++
      (match valueOf rollback "limits" with
      | .arr limits => flag (supported && limits.any fun limit => !isText limit) "invalid_rollback_limit"
      | _ => ["rollback_limits_not_list"]) ++
      flag (!supported && truthy migrations) "rollback_unsupported_with_migration"
  | _ => ["rollback_not_object"]

/-- A root that is missing, or a text that is no digest. -/
def isUnresolved : Json → Bool
  | .null => true
  | .str root => !isSha256 root
  | _ => false

/-- The reasons against the trust in a plan that was created then. -/
def trustReasons (created : Json) : Json → List Text
  | .obj trust =>
    flag (!isCount 1 (valueOf trust "metadata_version")) "invalid_trust_metadata_version" ++
      (if isTextOf (isTimestamp ev.isDecimal) (valueOf trust "metadata_expiry") then
        flag (endsEarly ev created (valueOf trust "metadata_expiry")) "trust_metadata_expired"
      else ["invalid_trust_metadata_expiry"]) ++
      flag (isUnresolved (valueOf trust "trust_root")) "unresolved_trust_root" ++
      flag (!isTrue (valueOf trust "signature_present")) "unsigned_plan"
  | _ => ["trust_not_object"]

/-- The reasons against an approval that is inside of a plan with this digest. -/
def recordedReasons (digest : Json) : Json → Except PlanFault (List Text)
  | .obj approval => do
    let state := valueOf approval "state"
    let known ← isOneOf approvalStates state
    if !known then .ok [about ev "unsupported_approval_state" state]
    else if isTextOf (· = "approved") state then
      .ok (flag (!isText (valueOf approval "approved_by")) "approval_incomplete:approved_by" ++
        flag (!isTextOf (isTimestamp ev.isDecimal) (valueOf approval "approved_at"))
          "approval_incomplete:approved_at" ++
        if isTextOf isSha256 (valueOf approval "approved_digest") then
          flag (!Json.pyEq digest (valueOf approval "approved_digest")) "approval_digest_mismatch"
        else ["approval_incomplete:approved_digest"])
    else
      .ok (flag (!isNull (valueOf approval "approved_digest")) "unapproved_plan_carries_digest" ++
        flag (!isNull (valueOf approval "approved_by")) "unapproved_plan_carries_approver" ++
        flag (!isNull (valueOf approval "approved_at")) "unapproved_plan_carries_timestamp")
  | _ => .ok ["approval_not_object"]

/-- The reasons against the digest of a plan. -/
def digestReasons (plan : JsonObject) : Except PlanFault (List Text) :=
  match valueOf plan "plan_digest" with
  | .str recorded =>
    if isSha256 recorded then (planDigest ev plan).map fun digest => flag (digest ≠ recorded) "plan_digest_mismatch"
    else .ok ["invalid_plan_digest"]
  | _ => .ok ["invalid_plan_digest"]

/-- The reasons against the records of a plan, one section after another. -/
def recordReasons (plan : JsonObject) : Except PlanFault (List Text) := do
  let migrations := valueOf plan "migrations"
  let head ← headReasons ev plan
  let target ← targetReasons ev (valueOf plan "target")
  let components ← componentsReasons ev (valueOf plan "components")
  let downloads ← downloadsReasons ev (valueOf plan "downloads")
  let steps ← migrationsReasons ev migrations
  let backup ← backupReasons ev migrations (valueOf plan "backup")
  let interruptions ← interruptionsReasons ev (valueOf plan "service_interruptions")
  let changes ← changesReasons ev (valueOf plan "bootstrap_changes")
  let approval ← recordedReasons ev (valueOf plan "plan_digest") (valueOf plan "approval")
  let digest ← digestReasons ev plan
  .ok (head ++ target ++ components ++ downloads ++ steps ++ backup ++
    flag (!isCount 0 (valueOf plan "disk_headroom_bytes")) "invalid_disk_headroom_bytes" ++ interruptions ++
    reconnectReasons (valueOf plan "host_reconnect") ++ changes ++
    rollbackReasons migrations (valueOf plan "rollback") ++
    trustReasons ev (valueOf plan "created_at") (valueOf plan "trust") ++ approval ++ digest)

/-- `structural_reasons(plan)`. Of a plan with too many or too few fields nothing else is looked at. -/
def structuralReasons : Json → Except PlanFault (List Text)
  | .obj plan =>
    if fieldReasons plan ≠ [] then .ok (fieldReasons plan ++ placeholderReasons plan)
    else (recordReasons ev plan).map fun reasons => placeholderReasons plan ++ reasons
  | _ => .ok ["plan_not_object"]

/-- `approval_reasons(plan, approved_digest)` -/
def approvalReasons (plan approved : Json) : Except PlanFault (List Text) :=
  match plan with
  | .obj entries =>
    match approved with
    | .str digest =>
      if isSha256 digest then
        (planDigest ev entries).map fun found =>
          flag (found ≠ digest) "approval_stale" ++
            flag (!Json.pyEq (valueOf entries "plan_digest") (.str digest)) "plan_digest_not_approved"
      else .ok ["approved_digest_not_a_digest"]
    | _ => .ok ["approved_digest_not_a_digest"]
  | _ => .ok ["plan_not_object"]

/-- The reasons against an approval that came beside a plan, if one did. -/
def besideReasons (plan : Json) : Option Json → Except PlanFault (List Text)
  | some approved => approvalReasons ev plan approved
  | none => .ok []

/-- The digest of a plan that is an object. -/
def digestOf : Json → Except PlanFault (Option Text)
  | .obj plan => (planDigest ev plan).map some
  | _ => .ok none

/-- A verdict. -/
structure Verdict where
  ok : Bool
  reasons : List Text
  structuralReasons : List Text
  approvalReasons : List Text
  planDigest : Option Text
  deriving DecidableEq

/-- `evaluate(document)` -/
def evaluate : Json → Except PlanFault Verdict
  | .obj document =>
    let undeclared := ((sortedBy id (document.map Prod.fst)).filter fun key => key ∉ documentKeys).map fun key =>
      Text.format ["undeclared_document_field:", key]
    match Json.get? document "plan" with
    | none =>
      let missing : List Text := ["missing_required_field:plan"]
      .ok ⟨false, undeclared ++ missing, missing, [], none⟩
    | some plan => do
      let own ← structuralReasons ev plan
      let approval ← besideReasons ev plan (Json.get? document "approved_digest")
      let digest ← digestOf ev plan
      let combined := undeclared ++ own ++ approval
      .ok ⟨combined.isEmpty, combined, undeclared ++ own, approval, digest⟩
  | _ => .ok ⟨false, ["document_not_object"], ["document_not_object"], [], none⟩

end Evaluation

end AxiomMcp.Update

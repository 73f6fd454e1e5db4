/-
**Pointers, manifests and shards (`manifest.py`, second half).**

`loadPointerBytes` and `loadManifestBytes` read a document in the order of the source: UTF-8, JSON, an
object, the schema major, the canonical form, then the fields, each with its own message. A `Manifest`
keeps the bytes it was read from, and `sha256` over them is its generation id.

`Manifest.verifyShard` checks the bytes of one shard against the entry that pins it: length, digest,
JSON, record count. The digest function is a parameter of everything that hashes.
-/

import AxiomMcp.Query.Model
import AxiomMcp.Snapshot.Canonical

namespace AxiomMcp.Snapshot

open Lib
open Query (isSha256 isIdentifier isPortableRelative)

/-! ### Constants -/

/-- The constant `SUPPORTED_SCHEMA_MAJOR`. -/
def supportedSchemaMajor : ℤ := 1

/-- The constant `MAX_SHARD_BYTES`. -/
def maxShardBytes : ℕ := 16777216

/-- The constant `FILE_ROLES`. -/
def fileRoles : List Text :=
  ["nodes", "edges", "symbol_index", "outgoing_index", "incoming_index", "architecture_summary",
    "coverage"]

/-- The constant `COVERAGE_STATUSES`. -/
def coverageStatuses : List Text := ["complete_for_profile", "partial", "unsupported"]

/-- The constant `MANIFEST_REQUIRED`. -/
def manifestRequired : List Text :=
  ["schema_version", "solution_id", "project_id", "analysis_profile", "generator_version",
    "analyzer_set_hash", "source_fingerprint", "config_fingerprint", "dependency_fingerprint",
    "coverage", "files"]

/-- The constant `MANIFEST_ENTRY_KEYS`. -/
def manifestEntryKeys : List Text := ["path", "role", "sha256", "bytes", "records"]

/-- The constant `COVERAGE_KEYS`. -/
def coverageKeys : List Text :=
  ["status", "input_files", "processed_files", "unresolved_references", "unsupported_patterns"]

/-- The constant `POINTER_REQUIRED`. -/
def pointerRequired : List Text := ["schema_version", "generation_id", "manifest_sha256"]

/-- The constant `SELF_HASH_FIELDS`. -/
def selfHashFields : List Text := ["manifest_sha256", "generation_id", "manifest_id", "self_sha256"]

/-! ### Documents -/

/-- A validated `current.json`. -/
structure Pointer where
  generationId : Text
  manifestSha256 : Text
  schemaVersion : ℤ
  raw : Bytes
  deriving DecidableEq

/-- `pointer.directory_name` -/
def Pointer.directoryName (pointer : Pointer) : Text := pointer.generationId

/-- `pointer.as_document()` -/
def Pointer.asDocument (pointer : Pointer) : Json :=
  .obj [("schema_version", .int pointer.schemaVersion), ("generation_id", .str pointer.generationId),
    ("manifest_sha256", .str pointer.manifestSha256)]

/-- One pinned shard. -/
structure ManifestEntry where
  path : Text
  role : Text
  sha256 : Text
  bytes : ℤ
  records : ℤ
  deriving DecidableEq

/-- A validated project manifest and the bytes its identity covers. -/
structure Manifest where
  schemaVersion : ℤ
  solutionId : Text
  projectId : Text
  analysisProfile : Text
  generatorVersion : Text
  analyzerSetHash : Text
  sourceFingerprint : Text
  configFingerprint : Text
  dependencyFingerprint : Text
  coverage : JsonObject
  files : List ManifestEntry
  data : Bytes

/-! ### Fields -/

section Fields

/-- A `ManifestInvalid`. -/
def invalid (message : Text) : Raised := .manifest .invalid message

variable (py : Interpreter)

/-- `_require_object(document, what=what)` -/
def requireObject (document : Json) (what : Text) : Except Raised JsonObject :=
  match document with
  | .obj entries => .ok entries
  | _ => .error (invalid (what ++ (" is not a JSON object" : Text)))

/-- `[repr(name), ...]` of a list of names. -/
def namesRepr (names : List Text) : Text := (Json.arr (names.map .str)).pyRepr py

/-- The text of a document whose fields are not the declared ones. -/
def fieldsMessage (document : JsonObject) (expected : List Text) (what : Text) : Text :=
  let keys := document.map Prod.fst
  let missing := sortedBy id (expected.filter fun name => name ∉ keys)
  let unknown := sortedBy id (keys.filter fun name => name ∉ expected)
  what ++ (" fields do not match the contract; missing=" : Text) ++ namesRepr py missing ++
    (" unknown=" : Text) ++ namesRepr py unknown

/-- The fields of a document are the declared ones: `set(document) == set(expected)`. -/
def ExactKeys (document : JsonObject) (expected : List Text) : Prop :=
  (∀ name ∈ document.map Prod.fst, name ∈ expected) ∧ ∀ name ∈ expected, name ∈ document.map Prod.fst

instance (document : JsonObject) (expected : List Text) : Decidable (ExactKeys document expected) :=
  inferInstanceAs (Decidable (_ ∧ _))

/-- `_require_exact_keys(document, expected, what=what)` -/
def requireExactKeys (document : JsonObject) (expected : List Text) (what : Text) :
    Except Raised Unit :=
  if ExactKeys document expected then .ok ()
  else .error (invalid (fieldsMessage py document expected what))

/-- `_require_schema_major(document, what=what)` -/
def requireSchemaMajor (document : JsonObject) (what : Text) : Except Raised ℤ :=
  match Json.get? document "schema_version" with
  | some (.int version) =>
    if version ≠ supportedSchemaMajor then
      .error (.manifest .unsupportedSchemaMajor (what ++ (" schema major " : Text) ++
        Text.ofInt version ++ (" is not supported by this reader (supported major " : Text) ++
          Text.ofInt supportedSchemaMajor ++ (")" : Text)))
    else .ok version
  | _ => .error (invalid (what ++ (" schema_version is not an integer" : Text)))

/-- The text of bytes that are not canonical. -/
def notCanonicalMessage (what : Text) : Text :=
  Text.format [what, " is not in canonical form: it is not the compact, lexicographic, ",
    "single-trailing-LF encoding of its own value"]

/-- `_require_canonical(raw, document, what=what)` -/
def requireCanonical (raw : Bytes) (document : JsonObject) (what : Text) : Except Raised Unit :=
  match canonicalBytes py (.obj document) with
  | .error (.manifest .canonicalSerialization message) =>
    .error (.manifest .notCanonicalBytes (what ++ (" cannot be canonical: " : Text) ++ message))
  | .error raised => .error raised
  | .ok rendered =>
    if rendered ≠ raw then .error (.manifest .notCanonicalBytes (notCanonicalMessage what))
    else .ok ()

/-- A string field that passes a check. -/
def checkedField (check : Text → Bool) (complaint : Text) (document : JsonObject) (name what : Text) :
    Except Raised Text :=
  match Json.get? document name with
  | some (.str value) =>
    if check value then .ok value
    else .error (invalid (what ++ (" " : Text) ++ name ++ complaint))
  | _ => .error (invalid (what ++ (" " : Text) ++ name ++ complaint))

/-- `_sha256_field(document, name, what=what)` -/
def sha256Field : JsonObject → Text → Text → Except Raised Text :=
  checkedField isSha256 " is not a lowercase sha256 digest"

/-- `_identifier_field(document, name, what=what)` -/
def identifierField : JsonObject → Text → Text → Except Raised Text :=
  checkedField isIdentifier " is not a portable identifier"

/-- `_text_field(document, name, what=what)` -/
def textField : JsonObject → Text → Text → Except Raised Text :=
  checkedField (fun value => value != []) " must be a non-empty string"

/-- `_integer_field(document, name, what=what, minimum=minimum, maximum=maximum)` -/
def integerField (document : JsonObject) (name what : Text) (minimum : ℤ) (maximum : Option ℤ) :
    Except Raised ℤ :=
  match Json.get? document name with
  | some (.int value) =>
    if value < minimum ∨ maximum.any (fun bound => bound < value) then
      .error (invalid (what ++ (" " : Text) ++ name ++ (" is outside the allowed range: " : Text) ++
        Text.ofInt value))
    else .ok value
  | _ => .error (invalid (what ++ (" " : Text) ++ name ++ (" must be an integer" : Text)))

/-- `repr(document.get(name))` -/
def reprField (value : Option Json) : Text :=
  match value with
  | some value => value.pyRepr py
  | none => "None"

/-- `_portable_path(value, what=what)` -/
def portablePath (value : Option Json) (what : Text) : Except Raised Text :=
  match value with
  | some (.str path) =>
    if isPortableRelative path then .ok path
    else .error (invalid (what ++ (" is not a portable relative path: " : Text) ++ reprField py value))
  | _ => .error (invalid (what ++ (" is not a portable relative path: " : Text) ++ reprField py value))

/-- A string out of a list of allowed ones. -/
def allowedField (allowed : List Text) (complaint : Text) (value : Option Json) (what : Text) :
    Except Raised Text :=
  match value with
  | some (.str item) =>
    if item ∈ allowed then .ok item
    else .error (invalid (what ++ complaint ++ reprField py value))
  | _ => .error (invalid (what ++ complaint ++ reprField py value))

end Fields

/-! ### Loading a pointer -/

section Load

variable (py : Interpreter)

/-- `load_pointer_bytes(raw, what=what)` -/
def loadPointerBytes (raw : Bytes) (what : Text) : Except Raised Pointer := do
  let document ← requireObject (← parseBytes py raw what) what
  let _ ← requireSchemaMajor document what
  requireCanonical py raw document what
  requireExactKeys py document pointerRequired what
  let generation ← sha256Field document "generation_id" what
  let manifestSha256 ← sha256Field document "manifest_sha256" what
  if generation ≠ manifestSha256 then
    .error (invalid (what ++
      (" manifest_sha256 does not equal generation_id; V2 fixes them equal" : Text)))
  else
    return ⟨generation, manifestSha256, supportedSchemaMajor, raw⟩

/-! ### Loading a manifest -/

/-- One item of `unsupported_patterns`. -/
def checkPattern (what : Text) (pattern : Json) : Except Raised Unit :=
  match pattern with
  | .str (_ :: _) => .ok ()
  | _ => .error (invalid (what ++ (" coverage has a non-string unsupported pattern" : Text)))

/-- `_validate_coverage(document, what=what)` -/
def validateCoverage (document : JsonObject) (what : Text) : Except Raised JsonObject :=
  match Json.get? document "coverage" with
  | some (.obj coverage) => do
    let label := what ++ (" coverage" : Text)
    requireExactKeys py coverage coverageKeys label
    let _ ← allowedField py coverageStatuses " status is not supported: "
      (Json.get? coverage "status") label
    let inputs ← integerField coverage "input_files" label 0 none
    let processed ← integerField coverage "processed_files" label 0 none
    let _ ← integerField coverage "unresolved_references" label 0 none
    if inputs < processed then
      .error (invalid (label ++ (" processed_files exceeds input_files: " : Text) ++
        Text.ofInt processed ++ (" > " : Text) ++ Text.ofInt inputs))
    else
      match Json.get? coverage "unsupported_patterns" with
      | some (.arr patterns) => do
        patterns.forM (checkPattern what)
        return coverage
      | _ => .error (invalid (label ++ (" unsupported_patterns is not a list" : Text)))
  | _ => .error (invalid (what ++ (" coverage is not a JSON object" : Text)))

/-- `_validate_entry(item, index=index, what=what)` -/
def validateEntry (item : Json) (index : ℕ) (what : Text) : Except Raised ManifestEntry :=
  let label := what ++ (" files[" : Text) ++ Text.ofNat index ++ ("]" : Text)
  match item with
  | .obj entry => do
    requireExactKeys py entry manifestEntryKeys label
    let path ← portablePath py (Json.get? entry "path") (label ++ (" path" : Text))
    let role ← allowedField py fileRoles " role is not supported: " (Json.get? entry "role") label
    let digest ← sha256Field entry "sha256" label
    let size ← integerField entry "bytes" label 1 (some maxShardBytes)
    let records ← integerField entry "records" label 0 none
    return ⟨path, role, digest, size, records⟩
  | _ => .error (invalid (label ++ (" is not a JSON object" : Text)))

/-- One round of the loop over `files`; `entries` are those already accepted. -/
def addEntry (what : Text) (entries : List ManifestEntry) (item : Json × ℕ) :
    Except Raised (List ManifestEntry) := do
  let entry ← validateEntry py item.1 item.2 what
  if entry.path ∈ entries.map ManifestEntry.path then
    .error (.manifest .duplicateEntry (what ++ (" declares duplicate file path " : Text) ++
      entry.path.pyRepr py.isPrintable))
  else if entry.role ∈ entries.map ManifestEntry.role then
    .error (.manifest .duplicateEntry (what ++ (" declares duplicate file role " : Text) ++
      entry.role.pyRepr py.isPrintable))
  else
    return entries ++ [entry]

/-- One field a manifest must not have. -/
def refuseSelfHash (what : Text) (document : JsonObject) (field : Text) : Except Raised Unit :=
  if field ∈ document.map Prod.fst then
    .error (invalid (what ++ (" contains its own hash field " : Text) ++
      field.pyRepr py.isPrintable ++ ("; the generation identity " : Text) ++
        ("is defined over these bytes and must not reference itself" : Text)))
  else .ok ()

/-- The `files` of a manifest. -/
def validateFiles (document : JsonObject) (what : Text) : Except Raised (List ManifestEntry) :=
  match Json.get? document "files" with
  | some (.arr (first :: rest)) => (first :: rest).zipIdx.foldlM (addEntry py what) []
  | _ => .error (invalid (what ++ (" files is not a non-empty list" : Text)))

/-- `load_manifest_bytes(raw, what=what)` -/
def loadManifestBytes (raw : Bytes) (what : Text) : Except Raised Manifest := do
  let document ← requireObject (← parseBytes py raw what) what
  let _ ← requireSchemaMajor document what
  requireCanonical py raw document what
  selfHashFields.forM (refuseSelfHash py what document)
  requireExactKeys py document manifestRequired what
  let solutionId ← identifierField document "solution_id" what
  let projectId ← identifierField document "project_id" what
  let analysisProfile ← textField document "analysis_profile" what
  let generatorVersion ← textField document "generator_version" what
  let analyzerSetHash ← sha256Field document "analyzer_set_hash" what
  let sourceFingerprint ← sha256Field document "source_fingerprint" what
  let configFingerprint ← sha256Field document "config_fingerprint" what
  let dependencyFingerprint ← sha256Field document "dependency_fingerprint" what
  let coverage ← validateCoverage py document what
  let entries ← validateFiles py document what
  return {
    schemaVersion := supportedSchemaMajor
    solutionId, projectId, analysisProfile, generatorVersion, analyzerSetHash, sourceFingerprint,
    configFingerprint, dependencyFingerprint, coverage
    files := entries
    data := raw }

end Load

namespace Manifest

variable (py : Interpreter) (sha256 : Bytes → Text)

/-- `manifest.generation_id` -/
def generationId (manifest : Manifest) : Text := sha256 manifest.data

/-- `manifest.coverage_status` -/
def coverageStatus (manifest : Manifest) : Text :=
  match Json.get? manifest.coverage "status" with
  | some status => status.pyStr py
  | none => []

/-- `manifest.json_document()` -/
def jsonDocument (manifest : Manifest) : Except Raised Json :=
  match Utf8.decode manifest.data with
  | .error _ => .error .unicodeDecode
  | .ok text =>
    match Json.loads py text with
    | .ok document => .ok document
    | .error (.notJson message) => .error (.jsonDecode message)
    | .error (.tooManyDigits digits) => .error (.tooManyDigits digits)
    | .error .exhausted => .error .recursion

/-- `manifest.entry(path)` -/
def entry (manifest : Manifest) (path : Text) : Except Raised ManifestEntry :=
  match manifest.files.find? fun entry => entry.path == path with
  | some entry => .ok entry
  | none => .error (invalid (("manifest has no entry for path " : Text) ++ path.pyRepr py.isPrintable))

/-- The records a parsed shard holds. -/
def recordsOf (label : Text) (document : Json) : Except Raised ℤ :=
  match document with
  | .arr items => .ok items.length
  | .obj _ => .ok 1
  | _ => .error (invalid (label ++ (" is neither a JSON array nor a JSON object" : Text)))

/-- `manifest.verify_shard(entry, data)` -/
def verifyShard (entry : ManifestEntry) (payload : Bytes) : Except Raised Json :=
  let label := ("shard " : Text) ++ entry.path
  let digest := sha256 payload
  if (payload.length : ℤ) ≠ entry.bytes then
    .error (.manifest .byteSizeMismatch (label ++ (" is " : Text) ++ Text.ofNat payload.length ++
      (" bytes but the manifest declares " : Text) ++ Text.ofInt entry.bytes))
  else if digest ≠ entry.sha256 then
    .error (.manifest .digestMismatch (label ++ (" sha256 " : Text) ++ digest ++
      (" does not match manifest " : Text) ++ entry.sha256))
  else do
    let document ← parseBytes py payload label
    let records ← recordsOf label document
    if records ≠ entry.records then
      .error (.manifest .recordCountMismatch (label ++ (" holds " : Text) ++ Text.ofInt records ++
        (" records but the manifest declares " : Text) ++ Text.ofInt entry.records))
    else
      return document

/-- `manifest.verify_pointer(pointer)` -/
def verifyPointer (manifest : Manifest) (pointer : Pointer) : Except Raised Unit :=
  let digest := manifest.generationId sha256
  if pointer.generationId ≠ digest then
    .error (.manifest .digestMismatch (("pointer generation_id " : Text) ++ pointer.generationId ++
      (" does not match the canonical manifest bytes " : Text) ++ digest))
  else if pointer.manifestSha256 ≠ digest then
    .error (.manifest .digestMismatch (("pointer manifest_sha256 " : Text) ++
      pointer.manifestSha256 ++ (" does not match the canonical manifest bytes " : Text) ++ digest))
  else if pointer.schemaVersion ≠ manifest.schemaVersion then
    .error (invalid (("pointer schema_version " : Text) ++ Text.ofInt pointer.schemaVersion ++
      (" does not match the manifest schema_version " : Text) ++ Text.ofInt manifest.schemaVersion))
  else .ok ()

end Manifest

/-! ### What a loader accepted -/

section Accepted

variable {py : Interpreter} {what : Text}

theorem requireObject_ok {document : Json} {entries : JsonObject} :
    requireObject document what = .ok entries ↔ document = .obj entries := by
  cases document <;> simp [requireObject]

theorem requireExactKeys_ok {document : JsonObject} {expected : List Text} :
    requireExactKeys py document expected what = .ok () ↔ ExactKeys document expected := by
  unfold requireExactKeys
  split
  · next exact => exact iff_of_true rfl exact
  · next other => exact iff_of_false (fun none => nomatch none) other

theorem requireSchemaMajor_ok {document : JsonObject} {version : ℤ} :
    requireSchemaMajor document what = .ok version ↔
      version = supportedSchemaMajor ∧
        Json.get? document "schema_version" = some (.int supportedSchemaMajor) := by
  unfold requireSchemaMajor
  split
  · next found here =>
    rw [here]
    split
    · next other =>
      refine iff_of_false (fun none => nomatch none) ?_
      rintro ⟨_, same⟩
      cases same
      exact other rfl
    · next same =>
      rw [not_not.mp same]
      exact ⟨fun done => ⟨(Except.ok.inj done).symm, rfl⟩, fun both => both.1 ▸ rfl⟩
  · next other =>
    refine iff_of_false (fun none => nomatch none) ?_
    rintro ⟨_, same⟩
    exact other _ same

theorem requireCanonical_ok {raw : Bytes} {document : JsonObject} :
    requireCanonical py raw document what = .ok () ↔ canonicalBytes py (.obj document) = .ok raw := by
  unfold requireCanonical
  split
  · next failed =>
    rw [failed]
    exact iff_of_false (fun none => nomatch none) (fun none => nomatch none)
  · next failed =>
    rw [failed]
    exact iff_of_false (fun none => nomatch none) (fun none => nomatch none)
  · next rendered done =>
    rw [done]
    split
    · next other =>
      exact iff_of_false (fun none => nomatch none) (fun same => other (Except.ok.inj same))
    · next same => exact iff_of_true rfl (congrArg Except.ok (not_not.mp same))

theorem checkedField_ok {check : Text → Bool} {complaint name value : Text} {document : JsonObject} :
    checkedField check complaint document name what = .ok value ↔
      Json.get? document name = some (.str value) ∧ check value = true := by
  unfold checkedField
  split
  · next found here =>
    rw [here]
    split
    · next passes =>
      constructor
      · rintro ⟨⟩
        exact ⟨rfl, passes⟩
      · rintro ⟨⟨⟩, _⟩
        rfl
    · next fails =>
      refine iff_of_false (fun none => nomatch none) ?_
      rintro ⟨⟨⟩, passes⟩
      exact fails passes
  · next other =>
    refine iff_of_false (fun none => nomatch none) ?_
    rintro ⟨same, _⟩
    exact other _ same

/-- The document behind accepted bytes: they are its canonical form. -/
structure Canonical (py : Interpreter) (raw : Bytes) (document : JsonObject) : Prop where
  parsed : ∀ what, parseBytes py raw what = .ok (.obj document)
  encoded : canonicalBytes py (.obj document) = .ok raw
  major : Json.get? document "schema_version" = some (.int supportedSchemaMajor)

/-- The first checks of both loaders. -/
theorem canonical_of_checks {raw : Bytes} {document : JsonObject} {value : Json} {version : ℤ}
    (parsed : parseBytes py raw what = .ok value) (object : requireObject value what = .ok document)
    (major : requireSchemaMajor document what = .ok version)
    (encoded : requireCanonical py raw document what = .ok ()) : Canonical py raw document :=
  ⟨fun other => parseBytes_what (requireObject_ok.mp object ▸ parsed) other,
    requireCanonical_ok.mp encoded, (requireSchemaMajor_ok.mp major).2⟩

/-- What an accepted pointer says of its bytes. -/
theorem loadPointerBytes_ok {raw : Bytes} {pointer : Pointer}
    (loaded : loadPointerBytes py raw what = .ok pointer) :
    ∃ document, Canonical py raw document ∧ ExactKeys document pointerRequired ∧
      Json.get? document "generation_id" = some (.str pointer.generationId) ∧
      Json.get? document "manifest_sha256" = some (.str pointer.manifestSha256) ∧
      isSha256 pointer.generationId = true ∧ pointer.generationId = pointer.manifestSha256 ∧
      pointer.schemaVersion = supportedSchemaMajor ∧ pointer.raw = raw := by
  obtain ⟨value, parsed, loaded⟩ := bind_eq_ok.mp loaded
  obtain ⟨document, object, loaded⟩ := bind_eq_ok.mp loaded
  obtain ⟨version, major, loaded⟩ := bind_eq_ok.mp loaded
  obtain ⟨⟨⟩, encoded, loaded⟩ := bind_eq_ok.mp loaded
  obtain ⟨⟨⟩, keys, loaded⟩ := bind_eq_ok.mp loaded
  obtain ⟨generation, first, loaded⟩ := bind_eq_ok.mp loaded
  obtain ⟨digest, second, loaded⟩ := bind_eq_ok.mp loaded
  split at loaded
  · cases loaded
  · next same =>
    cases loaded
    obtain ⟨found, sha⟩ := checkedField_ok.mp first
    exact ⟨document, canonical_of_checks parsed object major encoded, requireExactKeys_ok.mp keys,
      found, (checkedField_ok.mp second).1, sha, not_not.mp same, rfl, rfl⟩

/-- What an accepted manifest says of its bytes. -/
theorem loadManifestBytes_ok {raw : Bytes} {manifest : Manifest}
    (loaded : loadManifestBytes py raw what = .ok manifest) :
    ∃ document, Canonical py raw document ∧ ExactKeys document manifestRequired ∧
      Json.get? document "solution_id" = some (.str manifest.solutionId) ∧
      Json.get? document "project_id" = some (.str manifest.projectId) ∧
      Json.get? document "source_fingerprint" = some (.str manifest.sourceFingerprint) ∧
      manifest.schemaVersion = supportedSchemaMajor ∧ manifest.data = raw ∧
      validateFiles py document what = .ok manifest.files := by
  obtain ⟨value, parsed, loaded⟩ := bind_eq_ok.mp loaded
  obtain ⟨document, object, loaded⟩ := bind_eq_ok.mp loaded
  obtain ⟨version, major, loaded⟩ := bind_eq_ok.mp loaded
  obtain ⟨⟨⟩, encoded, loaded⟩ := bind_eq_ok.mp loaded
  obtain ⟨⟨⟩, _, loaded⟩ := bind_eq_ok.mp loaded
  obtain ⟨⟨⟩, keys, loaded⟩ := bind_eq_ok.mp loaded
  obtain ⟨solution, solutionField, loaded⟩ := bind_eq_ok.mp loaded
  obtain ⟨project, projectField, loaded⟩ := bind_eq_ok.mp loaded
  obtain ⟨_, _, loaded⟩ := bind_eq_ok.mp loaded
  obtain ⟨_, _, loaded⟩ := bind_eq_ok.mp loaded
  obtain ⟨_, _, loaded⟩ := bind_eq_ok.mp loaded
  obtain ⟨fingerprint, fingerprintField, loaded⟩ := bind_eq_ok.mp loaded
  obtain ⟨_, _, loaded⟩ := bind_eq_ok.mp loaded
  obtain ⟨_, _, loaded⟩ := bind_eq_ok.mp loaded
  obtain ⟨_, _, loaded⟩ := bind_eq_ok.mp loaded
  obtain ⟨entries, files, done⟩ := bind_eq_ok.mp loaded
  cases done
  exact ⟨document, canonical_of_checks parsed object major encoded, requireExactKeys_ok.mp keys,
    (checkedField_ok.mp solutionField).1, (checkedField_ok.mp projectField).1,
    (checkedField_ok.mp fingerprintField).1, rfl, rfl, files⟩

/-- The paths of an accepted manifest are distinct. -/
theorem validateFiles_paths {document : JsonObject} {entries : List ManifestEntry}
    (accepted : validateFiles py document what = .ok entries) :
    (entries.map ManifestEntry.path).Nodup := by
  unfold validateFiles at accepted
  split at accepted
  · refine foldlM_ok (fun entries => (entries.map ManifestEntry.path).Nodup)
      (fun entries item entries' distinct added => ?_) List.nodup_nil accepted
    obtain ⟨entry, _, added⟩ := bind_eq_ok.mp added
    split at added
    · cases added
    · next fresh =>
      split at added
      · cases added
      · cases added
        rw [List.map_append]
        refine List.nodup_append.mpr ⟨distinct, List.nodup_singleton _, fun path old other new => ?_⟩
        rw [List.mem_singleton.mp new]
        rintro rfl
        exact fresh old
  · cases accepted

/-- An entry of an accepted manifest is found by its path. -/
theorem entry_of_mem {raw : Bytes} {manifest : Manifest}
    (loaded : loadManifestBytes py raw what = .ok manifest) {entry : ManifestEntry}
    (member : entry ∈ manifest.files) : manifest.entry py entry.path = .ok entry := by
  obtain ⟨_, _, _, _, _, _, _, _, files⟩ := loadManifestBytes_ok loaded
  unfold Manifest.entry
  have found : manifest.files.find? (fun other => other.path == entry.path) = some entry := by
    refine Dict.find?_of_unique member (beq_self_eq_true _) fun other here same => ?_
    exact List.inj_on_of_nodup_map (validateFiles_paths files) here member (eq_of_beq same)
  rw [found]

end Accepted

/-! ### A small generation

The generation of a project `core` with one shard, and a twin of it that another project published. The
digests are those of SHA-256. -/

/-- The bytes of a text. -/
def bytesOf (s : Text) : Bytes := s.flatMap Utf8.encodeChar

/-- A fingerprint. -/
def zeros : Text := List.replicate 64 (codePoint '0')

/-- The one shard, an empty object. -/
def sampleShard : Bytes := bytesOf "\x7b\x7d\n"

def sampleShardDigest : Text := "ca3d163bab055381827226140568f3bef7eaac187cebd76878e0b63e9e442356"

/-- The manifest a project published. -/
def sampleManifest (projectId : Text) : Bytes :=
  bytesOf (("\x7b\"analysis_profile\":\"p\",\"analyzer_set_hash\":\"" : Text) ++ zeros ++
    ("\",\"config_fingerprint\":\"" : Text) ++ zeros ++
    ("\",\"coverage\":\x7b\"input_files\":0,\"processed_files\":0,\"status\":\"partial\"," : Text) ++
    ("\"unresolved_references\":0,\"unsupported_patterns\":[]\x7d," : Text) ++
    ("\"dependency_fingerprint\":\"" : Text) ++ zeros ++
    ("\",\"files\":[\x7b\"bytes\":3,\"path\":\"coverage.json\",\"records\":1," : Text) ++
    ("\"role\":\"coverage\",\"sha256\":\"" : Text) ++ sampleShardDigest ++
    ("\"\x7d],\"generator_version\":\"1\",\"project_id\":\"" : Text) ++ projectId ++
    ("\",\"schema_version\":1,\"solution_id\":\"shop\",\"source_fingerprint\":\"" : Text) ++ zeros ++
    ("\"\x7d\n" : Text))

/-- The generation ids of the project and of its twin. -/
def sampleId : Text := "ec8c8a7514e5e12b2bfd026d76b56ad0cf21e02c590a2c55ada63df53f75bf60"

def twinId : Text := "3d5fd71c6e59dfe18cc66f1791353f3623126711a15b10a16111658ca310e197"

/-- SHA-256, on the bytes of the sample. -/
def sampleSha256 (bytes : Bytes) : Text :=
  if bytes = sampleShard then sampleShardDigest
  else if bytes = sampleManifest "core" then sampleId
  else if bytes = sampleManifest "other" then twinId
  else []

/-- The pointer to a generation. -/
def samplePointer (generationId : Text) : Bytes :=
  bytesOf (("\x7b\"generation_id\":\"" : Text) ++ generationId ++ ("\",\"manifest_sha256\":\"" : Text) ++
    generationId ++ ("\",\"schema_version\":1\x7d\n" : Text))

end AxiomMcp.Snapshot

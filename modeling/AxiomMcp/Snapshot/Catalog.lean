/-
**The solution catalog (`catalog.py`).**

`loadCatalogBytes` reads a catalog from its exact bytes. A catalog it accepts names each project once, and
the ids of its members are well formed (`loadCatalogBytes_members`).
-/

import AxiomMcp.Snapshot.Manifest

namespace AxiomMcp.Snapshot

open Lib
open Query (isSha256 isIdentifier)

/-! ### Documents -/

/-- The constant `CATALOG_REQUIRED`. -/
def catalogRequired : List Text :=
  ["schema_version", "solution_id", "analysis_profile", "projects", "coverage"]

/-- The constant `CATALOG_MEMBER_KEYS`. -/
def catalogMemberKeys : List Text := ["project_id", "generation_id", "source_fingerprint"]

/-- The constant `NAME_ONLY_KEYS`. -/
def nameOnlyKeys : List Text := ["name", "project_name", "path", "directory"]

/-- The constant `CATALOG_SCHEMA_VERSION`. -/
def catalogSchemaVersion : ℤ := 1

/-- One project the catalog pins. -/
structure CatalogMember where
  projectId : Text
  generationId : Text
  sourceFingerprint : Text
  deriving DecidableEq

/-- A validated catalog and the bytes its identity covers. -/
structure Catalog where
  schemaVersion : ℤ
  solutionId : Text
  analysisProfile : Text
  coverage : Text
  members : List CatalogMember
  data : Bytes
  deriving DecidableEq

namespace Catalog

/-- `catalog.generation_id`, also as `catalog.catalog_generation_id` -/
def generationId (sha256 : Bytes → Text) (catalog : Catalog) : Text := sha256 catalog.data

/-- `catalog.vector()` -/
def vector (catalog : Catalog) : List CatalogMember :=
  sortedBy CatalogMember.projectId catalog.members

end Catalog

/-! ### Loading -/

section Load

/-- A `CatalogInvalid`. -/
def catalogInvalid (message : Text) : Raised := .catalog .invalid message

variable (py : Interpreter)

/-- `_require_object(document, what=what)` -/
def catalogObject (document : Json) (what : Text) : Except Raised JsonObject :=
  match document with
  | .obj entries => .ok entries
  | _ => .error (catalogInvalid (what ++ (" is not a JSON object" : Text)))

/-- `_require_exact_keys(document, expected, what=what)` -/
def catalogExactKeys (document : JsonObject) (expected : List Text) (what : Text) :
    Except Raised Unit :=
  if ExactKeys document expected then .ok ()
  else .error (catalogInvalid (fieldsMessage py document expected what))

/-- A string field that passes a check. -/
def catalogField (check : Text → Bool) (complaint : Text) (document : JsonObject) (name what : Text) :
    Except Raised Text :=
  match Json.get? document name with
  | some (.str value) =>
    if check value then .ok value
    else .error (catalogInvalid (what ++ (" " : Text) ++ name ++ complaint))
  | _ => .error (catalogInvalid (what ++ (" " : Text) ++ name ++ complaint))

/-- `_identifier_field(document, name, what=what)` -/
def catalogIdentifier : JsonObject → Text → Text → Except Raised Text :=
  catalogField isIdentifier " is not a portable identifier"

/-- `_text_field(document, name, what=what)` -/
def catalogText : JsonObject → Text → Text → Except Raised Text :=
  catalogField (fun value => value != []) " must be a non-empty string"

/-- `_sha256_field(document, name, what=what)` -/
def catalogSha256 : JsonObject → Text → Text → Except Raised Text :=
  catalogField isSha256 " is not a lowercase sha256 digest"

/-- `json.loads(payload.decode("utf-8"))`, and the object it has to be. -/
def catalogDocument (payload : Bytes) (what : Text) : Except Raised JsonObject :=
  match Utf8.decode payload with
  | .error fault => .error (catalogInvalid (what ++ (" is not UTF-8: " : Text) ++ fault.reason))
  | .ok text =>
    match Json.loads py text with
    | .ok document => catalogObject document what
    | .error (.notJson message) =>
      .error (catalogInvalid (what ++ (" is not valid JSON: " : Text) ++ message))
    | .error (.tooManyDigits digits) => .error (.tooManyDigits digits)
    | .error .exhausted => .error .recursion

/-- The check of `schema_version`. -/
def catalogMajor (document : JsonObject) (what : Text) : Except Raised Unit :=
  match Json.get? document "schema_version" with
  | some (.int version) =>
    if version ≠ catalogSchemaVersion then
      .error (.catalog .unsupportedMajor (what ++ (" schema major " : Text) ++ Text.ofInt version ++
        (" is not supported by this reader (supported major " : Text) ++
          Text.ofInt catalogSchemaVersion ++ (")" : Text)))
    else .ok ()
  | _ => .error (catalogInvalid (what ++ (" schema_version is not an integer" : Text)))

/-- The check of the canonical form. -/
def catalogCanonical (payload : Bytes) (what : Text) : Except Raised Unit := do
  if ← isCanonicalBytes py payload then return ()
  else .error (catalogInvalid (notCanonicalMessage what))

/-- The check of `coverage`. -/
def catalogCoverage (document : JsonObject) (what : Text) : Except Raised Text :=
  let value := Json.get? document "coverage"
  match value with
  | some (.str status) =>
    if status ∈ coverageStatuses then .ok status
    else .error (catalogInvalid (what ++ (" coverage is not a supported status: " : Text) ++
      reprField py value))
  | _ => .error (catalogInvalid (what ++ (" coverage is not a supported status: " : Text) ++
      reprField py value))

/-- One key a member must not be resolved by. -/
def refuseNameOnly (label : Text) (entry : JsonObject) (name : Text) : Except Raised Unit :=
  if name ∈ entry.map Prod.fst then
    .error (catalogInvalid (label ++ (" resolves the member by " : Text) ++
      name.pyRepr py.isPrintable ++ ("; name-only member " : Text) ++
        ("resolution is prohibited because it has no pinned generation to read" : Text)))
  else .ok ()

/-- One round of the loop over `projects`; `members` are those already accepted. -/
def addMember (what : Text) (members : List CatalogMember) (item : Json × ℕ) :
    Except Raised (List CatalogMember) := do
  let label := what ++ (" project member " : Text) ++ Text.ofNat item.2
  let entry ← catalogObject item.1 label
  nameOnlyKeys.forM (refuseNameOnly py label entry)
  catalogExactKeys py entry catalogMemberKeys label
  let projectId ← catalogIdentifier entry "project_id" label
  if projectId ∈ members.map CatalogMember.projectId then
    .error (catalogInvalid (what ++ (" declares duplicate member " : Text) ++
      projectId.pyRepr py.isPrintable))
  else do
    let generationId ← catalogSha256 entry "generation_id" label
    let sourceFingerprint ← catalogSha256 entry "source_fingerprint" label
    return members ++ [⟨projectId, generationId, sourceFingerprint⟩]

/-- The `projects` of a catalog. -/
def catalogMembers (document : JsonObject) (what : Text) : Except Raised (List CatalogMember) :=
  match Json.get? document "projects" with
  | some (.arr (first :: rest)) => (first :: rest).zipIdx.foldlM (addMember py what) []
  | _ => .error (catalogInvalid (what ++ (" projects is not a non-empty list" : Text)))

/-- `load_catalog_bytes(raw, what=what)` -/
def loadCatalogBytes (payload : Bytes) (what : Text) : Except Raised Catalog := do
  let document ← catalogDocument py payload what
  catalogMajor document what
  catalogCanonical py payload what
  catalogExactKeys py document catalogRequired what
  let solutionId ← catalogIdentifier document "solution_id" what
  let analysisProfile ← catalogText document "analysis_profile" what
  let coverage ← catalogCoverage py document what
  let members ← catalogMembers py document what
  return {
    schemaVersion := catalogSchemaVersion
    solutionId, analysisProfile, coverage, members
    data := payload }

end Load

/-! ### What the loader accepted -/

/-- The members of a catalog that was accepted. -/
structure WellNamed (members : List CatalogMember) : Prop where
  identifiers : ∀ member ∈ members, isIdentifier member.projectId = true
  generations : ∀ member ∈ members, isSha256 member.generationId = true
  distinct : (members.map CatalogMember.projectId).Nodup

section Accepted

variable {py : Interpreter} {what : Text}

theorem catalogField_ok {check : Text → Bool} {complaint name value : Text} {document : JsonObject}
    (found : catalogField check complaint document name what = .ok value) :
    Json.get? document name = some (.str value) ∧ check value = true := by
  unfold catalogField at found
  split at found
  · next here =>
    split at found
    · next passes =>
      cases found
      exact ⟨here, passes⟩
    · cases found
  · cases found

theorem addMember_ok {members members' : List CatalogMember} {item : Json × ℕ} (named : WellNamed members)
    (added : addMember py what members item = .ok members') : WellNamed members' := by
  obtain ⟨entry, _, added⟩ := bind_eq_ok.mp added
  obtain ⟨_, _, added⟩ := bind_eq_ok.mp added
  obtain ⟨_, _, added⟩ := bind_eq_ok.mp added
  obtain ⟨projectId, project, added⟩ := bind_eq_ok.mp added
  split at added
  · cases added
  · next fresh =>
    obtain ⟨generationId, generation, added⟩ := bind_eq_ok.mp added
    obtain ⟨sourceFingerprint, _, added⟩ := bind_eq_ok.mp added
    cases added
    refine ⟨fun member here => ?_, fun member here => ?_, ?_⟩
    · rcases List.mem_append.mp here with old | new
      · exact named.identifiers member old
      · rw [List.mem_singleton.mp new]
        exact (catalogField_ok project).2
    · rcases List.mem_append.mp here with old | new
      · exact named.generations member old
      · rw [List.mem_singleton.mp new]
        exact (catalogField_ok generation).2
    · rw [List.map_append]
      refine List.nodup_append.mpr ⟨named.distinct, List.nodup_singleton _, fun id old other new => ?_⟩
      rw [List.mem_singleton.mp new]
      rintro rfl
      exact fresh old

/-- The members of an accepted catalog are well named. -/
theorem loadCatalogBytes_members {payload : Bytes} {catalog : Catalog}
    (loaded : loadCatalogBytes py payload what = .ok catalog) : WellNamed catalog.members := by
  obtain ⟨document, _, loaded⟩ := bind_eq_ok.mp loaded
  obtain ⟨_, _, loaded⟩ := bind_eq_ok.mp loaded
  obtain ⟨_, _, loaded⟩ := bind_eq_ok.mp loaded
  obtain ⟨_, _, loaded⟩ := bind_eq_ok.mp loaded
  obtain ⟨_, _, loaded⟩ := bind_eq_ok.mp loaded
  obtain ⟨_, _, loaded⟩ := bind_eq_ok.mp loaded
  obtain ⟨_, _, loaded⟩ := bind_eq_ok.mp loaded
  obtain ⟨members, found, loaded⟩ := bind_eq_ok.mp loaded
  cases loaded
  unfold catalogMembers at found
  split at found
  · have empty : WellNamed [] :=
      ⟨fun _ none => (nomatch none), fun _ none => (nomatch none), List.nodup_nil⟩
    exact foldlM_ok _ (fun _ _ _ named added => addMember_ok named added) empty found
  · cases found

end Accepted

/-! ### A small catalog

The catalog that pins the generation of the project `core` and that of its twin. -/

/-- The bytes of the catalog. -/
def sampleCatalogBytes : Bytes :=
  bytesOf (("\x7b\"analysis_profile\":\"p\",\"coverage\":\"partial\"," : Text) ++
    ("\"projects\":[\x7b\"generation_id\":\"" : Text) ++ sampleId ++
    ("\",\"project_id\":\"core\",\"source_fingerprint\":\"" : Text) ++ zeros ++
    ("\"\x7d,\x7b\"generation_id\":\"" : Text) ++ twinId ++
    ("\",\"project_id\":\"other\",\"source_fingerprint\":\"" : Text) ++ zeros ++
    ("\"\x7d],\"schema_version\":1,\"solution_id\":\"shop\"\x7d\n" : Text))

/-- The digest of the catalog. -/
def sampleCatalogId : Text := "2968eeec3e695fe29b107b21ce1298b3bcded30e572d9e8aade4c0268eed5493"

/-- SHA-256, on the bytes of the samples. -/
def sampleDigest (bytes : Bytes) : Text :=
  if bytes = sampleCatalogBytes then sampleCatalogId else sampleSha256 bytes

/-- The catalog. -/
def sampleCatalog : Catalog :=
  ⟨1, "shop", "p", "partial", [⟨"core", sampleId, zeros⟩, ⟨"other", twinId, zeros⟩], sampleCatalogBytes⟩

theorem sampleCatalog_loads :
    loadCatalogBytes .ascii sampleCatalogBytes "manifest.json" = .ok sampleCatalog := by
  decide +kernel

end AxiomMcp.Snapshot

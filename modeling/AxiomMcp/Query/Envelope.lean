/-
**The response envelope (`query/envelope.py`).**

`buildEnvelope` puts the facts of an answer together with what they rest on: the exact generations, the
freshness, the coverage and the verification. Freshness without evidence is `unknown`, and a member without a
usable coverage status is refused (`aggregateCoverage`).

* `catalogGenerationId`: the digest of the generations that answer;
* `Envelope.document`: the envelope as the document that is packed;
* `packResponse_get?`: packing changes nothing but what it cuts, its flag and its notes.
-/

import AxiomMcp.Query.BudgetCap
import AxiomMcp.Query.Coverage
import AxiomMcp.Query.Cursor

namespace AxiomMcp.Query

open Lib

/-! ### Verification and freshness -/

/-- The constant `SCHEMA_VERSION`. -/
def envelopeSchemaVersion : ℤ := 1

/-- The constant `FRESHNESS`. -/
def freshnessStatuses : List Text := ["fresh", "stale", "updating", "unknown", "invalid"]

/-- The constant `VERIFICATION_MODES`. -/
def envelopeModes : List Text := ["inventory_hash", "watcher_hint", "none"]

/-- A `Verification`. -/
structure Verification where
  mode : Text := "none"
  verifiedAt : Option Text := none
  sourceFingerprint : Option Text := none

section Code

variable (py : Interpreter)

/-- A list of texts, as Python prints it. -/
def textsRepr (items : List Text) : Text := (texts items).pyRepr py

namespace Verification

variable (verification : Verification)

/-- The check of the fingerprint. -/
def checkFingerprint : Except EnvelopeInvalid Unit :=
  match verification.sourceFingerprint with
  | none => .ok ()
  | some value =>
    if isSha256 value then .ok ()
    else .error ⟨Text.format ["verification source_fingerprint must be a 64-character lowercase hex ",
      "digest, got ", value.pyRepr py.isPrintable]⟩

/-- What goes with a mode. -/
def checkMode : Except EnvelopeInvalid Unit :=
  if verification.mode = "none" then
    if verification.verifiedAt ≠ none ∨ verification.sourceFingerprint ≠ none then
      .error ⟨"verification mode 'none' cannot carry verified_at or source_fingerprint"⟩
    else .ok ()
  else if verification.mode = "inventory_hash" then
    if verification.sourceFingerprint = none then
      .error ⟨Text.format ["verification mode 'inventory_hash' must carry the source_fingerprint it ",
        "recomputed"]⟩
    else .ok ()
  else if verification.verifiedAt = none then
    .error ⟨"verification mode 'watcher_hint' must carry the verified_at time of the hint"⟩
  else .ok ()

/-- `Verification(mode=..., verified_at=..., source_fingerprint=...)` -/
def check : Except EnvelopeInvalid Verification := do
  if verification.mode ∉ envelopeModes then
    .error ⟨Text.format ["verification mode must be one of ", textsRepr py envelopeModes, ", got ",
      verification.mode.pyRepr py.isPrintable]⟩
  else if verification.verifiedAt = some [] then
    .error ⟨"verification verified_at must be a non-empty string"⟩
  else
    verification.checkFingerprint py
    verification.checkMode
    return verification

/-- `verification.as_document()` -/
def asDocument : JsonObject :=
  ([("mode", .str verification.mode)] : JsonObject) ++
    (verification.verifiedAt.toList.map fun value => (("verified_at" : Text), Json.str value)) ++
    verification.sourceFingerprint.toList.map fun value => (("source_fingerprint" : Text), Json.str value)

end Verification

/-- `resolve_freshness(reported, verification)` -/
def resolveFreshness (reported : Option Text) (verification : Verification) : Text × List Text :=
  match reported with
  | none => ("unknown", ["freshness was not reported, so it is unknown rather than fresh"])
  | some reported =>
    if reported ∉ freshnessStatuses then
      ("unknown", [Text.format ["freshness ", reported.pyRepr py.isPrintable, " is not one of ",
        textsRepr py freshnessStatuses, ", so it is unknown; an unrecognised status is never read as ",
        "fresh"]])
    else if reported = "fresh" ∧ verification.mode ≠ "inventory_hash" then
      ("unknown", [Text.format ["freshness was reported as fresh but its verification mode is ",
        verification.mode.pyRepr py.isPrintable, "; only an inventory_hash verification supports fresh, ",
        "so it is reported as unknown"]])
    else (reported, [])

/-! ### The envelope -/

/-- What `catalog_generation_id` hashes. -/
def generationsPayload (scope : GraphSet) : Json :=
  .obj [("schema_version", .int envelopeSchemaVersion),
    ("generations", .arr (scope.generations.map fun pair => .arr [.str pair.1, .str pair.2]))]

/-- `catalog_generation_id(scope)`. Ids and digests always have a text. -/
def catalogGenerationId (sha256 : Bytes → Text) (scope : GraphSet) : Text :=
  sha256 ((encoded py (generationsPayload scope)).getD [])

/-- A success envelope. -/
structure Envelope where
  solutionId : Text
  catalogGenerationId : Text
  generations : List (Text × Text)
  freshness : Text
  coverage : Text
  verification : Verification
  nodes : List JsonObject
  edges : List JsonObject
  truncated : Bool
  warnings : List Text

/-- The entry of a generation. -/
def generationEntry (pair : Text × Text) : Json :=
  .obj [("project_id", .str pair.1), ("generation_id", .str pair.2)]

/-- The envelope as a document. -/
def Envelope.document (envelope : Envelope) : Dict Text Json where
  entries := [("schema_version", .int envelopeSchemaVersion), ("solution_id", .str envelope.solutionId),
    ("catalog_generation_id", .str envelope.catalogGenerationId),
    ("project_generations", .arr (envelope.generations.map generationEntry)),
    ("freshness", .str envelope.freshness), ("coverage", .str envelope.coverage),
    ("verification", .obj envelope.verification.asDocument), ("nodes", .arr (envelope.nodes.map .obj)),
    ("edges", .arr (envelope.edges.map .obj)), ("truncated", .bool envelope.truncated),
    ("warnings", texts envelope.warnings)]
  nodup := by
    simp only [List.map_cons, List.map_nil]
    decide

/-- `_warnings(values, *more)` -/
def checkWarnings (warnings : List Text) : Except EnvelopeInvalid (List Text) :=
  if [] ∈ warnings then .error ⟨"a warning must be a non-empty string, got ''"⟩ else .ok warnings

/-- The answer of a query, before its envelope. -/
structure AnswerParts where
  nodes : List JsonObject
  edges : List JsonObject
  truncated : Bool
  warnings : List Text

/-- `build_envelope(...)` of an answer, without a cursor. -/
def buildEnvelope (sha256 : Bytes → Text) (solutionId : Text) (scope : GraphSet)
    (freshness : Option Text) (verification : Verification) (parts : AnswerParts) :
    Except EnvelopeInvalid Envelope := do
  let solution ← (identifierText solutionId "solution_id").mapError fun error =>
    EnvelopeInvalid.mk (error.message py)
  let (coverage, coverageWarnings) ← aggregateCoverage py scope
  let resolved := resolveFreshness py freshness verification
  let warnings ← checkWarnings (parts.warnings ++ resolved.2 ++ coverageWarnings)
  return {
    solutionId := solution
    catalogGenerationId := catalogGenerationId py sha256 scope
    generations := scope.generations
    freshness := resolved.1
    coverage, verification
    nodes := parts.nodes
    edges := parts.edges
    truncated := parts.truncated
    warnings }

end Code

/-! ### What packing keeps -/

section Packing

variable {py : Interpreter}

/-- The object of a dictionary has its values. -/
theorem get?_entries (document : Dict Text Json) (key : Text) :
    Json.get? document.entries key = document.get? key := by
  unfold Json.get? Dict.get?
  congr
  exact lawful_beq_subsingleton _ _

/-- A key that packing does not touch. -/
def Untouched (key : Text) : Prop := key ∉ trimmable ∧ key ≠ "truncated"

theorem trimOne_get? {cap : ℕ} {trim trim' : Trim} {name key : Text} (other : key ≠ name)
    (cut : trimOne py cap trim name = .ok trim') : trim'.packed.get? key = trim.packed.get? key := by
  unfold trimOne at cut
  split at cut
  · next items _ =>
    split at cut
    · cases cut
      rfl
    · obtain ⟨low, _, cut⟩ := bind_eq_ok.mp cut
      split at cut
      · obtain rfl := Except.ok.inj cut
        unfold cutTo
        rw [Dict.get?_set, if_neg other]
      · obtain rfl := Except.ok.inj cut
        rfl
  · cases cut
    rfl

theorem record_get? {cap : ℕ} {trim : Trim} {packed : Dict Text Json} {key : Text}
    (untouched : Untouched key) (recorded : record py cap trim = .ok packed) :
    packed.get? key = trim.packed.get? key := by
  have noted : key ≠ "warnings" := fun same => untouched.1 (same ▸ by decide)
  have flag : (flagged trim).get? key = trim.packed.get? key := by
    unfold flagged
    split
    · rfl
    · rw [Dict.get?_set, if_neg untouched.2]
  unfold record at recorded
  dsimp only at recorded
  split at recorded
  · obtain rfl := Except.ok.inj recorded
    exact flag
  · obtain ⟨existing, _, recorded⟩ := bind_eq_ok.mp recorded
    obtain ⟨fitted, _, recorded⟩ := bind_eq_ok.mp recorded
    split at recorded
    · obtain rfl := Except.ok.inj recorded
      rw [Dict.get?_set, if_neg noted, flag]
    · obtain rfl := Except.ok.inj recorded
      rw [Dict.get?_set, if_neg noted, Dict.get?_set, if_neg noted, flag]

/-- Packing leaves a key that it does not touch. -/
theorem packResponse_get? {document : Dict Text Json} {maxBytes : Option ℤ} {result : BudgetResult}
    {key : Text} (untouched : Untouched key) (packed : packResponse py document maxBytes = .ok result) :
    result.document.get? key = document.get? key := by
  obtain ⟨cap, _, packed⟩ := bind_eq_ok.mp packed
  obtain ⟨fitted, _, packed⟩ := bind_eq_ok.mp packed
  split at packed
  · obtain ⟨size, _, packed⟩ := bind_eq_ok.mp packed
    obtain rfl := Except.ok.inj packed
    rfl
  · obtain ⟨trim, trimmed, packed⟩ := bind_eq_ok.mp packed
    obtain ⟨fitted, _, packed⟩ := bind_eq_ok.mp packed
    split at packed
    · cases packed
    · obtain ⟨recorded, done, packed⟩ := bind_eq_ok.mp packed
      obtain ⟨size, _, packed⟩ := bind_eq_ok.mp packed
      obtain rfl := Except.ok.inj packed
      rw [show (_ : Dict Text Json).get? key = recorded.get? key from rfl, record_get? untouched done]
      -- the trimming loop goes over the trimmable keys
      have loop : ∀ (names : List Text) (first : Trim), (∀ name ∈ names, key ≠ name) →
          names.foldlM (trimOne py cap) first = .ok trim →
            trim.packed.get? key = first.packed.get? key := by
        intro names
        induction names with
        | nil =>
          intro first _ done
          obtain rfl := Except.ok.inj done
          rfl
        | cons name rest ih =>
          intro first others done
          rw [List.foldlM_cons] at done
          obtain ⟨next, here, later⟩ := bind_eq_ok.mp done
          rw [ih next (fun name member => others name (List.mem_cons_of_mem _ member)) later,
            trimOne_get? (others name List.mem_cons_self) here]
      exact loop trimmable _ (fun name member same => untouched.1 (same ▸ member)) trimmed

/-- A list is a list, however it is cut. -/
theorem trimmed_arr {document : Dict Text Json} {key : Text} {items : List Json} (cap : ℕ)
    (found : document.get? key = some (.arr items)) :
    ∃ kept, (trimmed py cap document).get? key = some (.arr kept) := by
  have round (packed : Dict Text Json) (name : Text)
      (list : ∃ kept, packed.get? key = some (.arr kept)) :
      ∃ kept, (cutOne py cap packed name).get? key = some (.arr kept) := by
    unfold cutOne
    split
    · by_cases here : key = name
      · exact ⟨_, by rw [cutTo, Dict.get?_set, if_pos here]⟩
      · rw [cutTo, Dict.get?_set, if_neg here]
        exact list
    · exact list
  have loop (names : List Text) : ∀ packed : Dict Text Json,
      (∃ kept, packed.get? key = some (.arr kept)) →
        ∃ kept, (names.foldl (cutOne py cap) packed).get? key = some (.arr kept) := by
    induction names with
    | nil => exact fun _ list => list
    | cons name rest ih => exact fun packed list => ih _ (round packed name list)
  exact loop trimmable document ⟨items, found⟩

/-- Why a document whose warnings are a list is not packed: it cannot be printed, it cannot be encoded, or it
does not fit. -/
theorem packResponse_error {document : Dict Text Json} {maxBytes : Option ℤ} {cap : ℕ}
    {warnings : List Json} {raised : PackError}
    (admitted : boundedInt maxBytes "max_bytes" minBytes Query.maxBytes defaultMaxBytes = .ok cap)
    (listed : document.get? "warnings" = some (.arr warnings))
    (refused : packResponse py document maxBytes = .error raised) :
    raised = .tooManyDigits py.maxStrDigits ∨ raised = .exceeded cap ∨
      (raised = .surrogate ∧ encodedSize py document = .error .surrogate) := by
  have called : packResponse py document maxBytes = (do
      if ← fits py document cap then
        let byteSize ← encodedSize py document
        return ⟨document, byteSize, cap, false, Dict.empty, []⟩
      else packTrimmed py document cap) := by
    rw [packResponse, admitted]
    rfl
  rw [called] at refused
  by_cases sendable : DocSendable py document
  · rw [fits_ok sendable] at refused
    by_cases small : docSize py document ≤ cap
    · rw [decide_eq_true small] at refused
      change (encodedSize py document >>= fun _ => _) = _ at refused
      rw [encodedSize_ok sendable] at refused
      cases refused
    · rw [decide_eq_false small] at refused
      change packTrimmed py document cap = _ at refused
      rcases packTrimmed_outcome sendable (not_le.mp small) with
        ⟨other, done, _, why⟩ | ⟨_, _, result, done, _⟩
      · obtain rfl := Except.error.inj (done.symm.trans refused)
        rcases why with rfl | none
        · exact Or.inr (Or.inl rfl)
        · obtain ⟨kept, found⟩ : ∃ kept, (trimmed py cap document).get? _ = some (.arr kept) :=
            trimmed_arr cap listed
          unfold existingWarnings at none
          rw [found] at none
          dsimp only [pyList] at none
          split at none <;> cases none
      · cases done.symm.trans refused
  · have measured : encodedSize py document = .error raised := by
      cases size : encodedSize py document with
      | ok n => exact (sendable (sendable_of_encodedSize size)).elim
      | error other =>
        rw [fits, size] at refused
        obtain rfl := Except.error.inj refused
        rfl
    have why := measured
    unfold encodedSize at why
    split at why
    · exact Or.inl (Except.error.inj why).symm
    · split at why
      · obtain rfl := Except.error.inj why
        exact Or.inr (Or.inr ⟨rfl, measured⟩)
      · cases why

/-- A document that cannot be encoded is not packed. -/
theorem packResponse_surrogate {document : Dict Text Json} {maxBytes : Option ℤ} {cap : ℕ}
    (admitted : boundedInt maxBytes "max_bytes" minBytes Query.maxBytes defaultMaxBytes = .ok cap)
    (measured : encodedSize py document = .error .surrogate) :
    packResponse py document maxBytes = .error .surrogate := by
  rw [packResponse, admitted]
  change (fits py document cap >>= fun _ => _) = _
  rw [fits, measured]
  rfl

end Packing

end AxiomMcp.Query

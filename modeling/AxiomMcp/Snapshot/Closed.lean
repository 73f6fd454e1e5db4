/-
**The loaders and their error types.**

A caller of `loadPointerBytes` and `loadManifestBytes` catches `ManifestError`, a caller of
`loadCatalogBytes` catches `CatalogError`, and `isCanonicalBytes` answers with a boolean.

* every check of a field raises the error type of its loader (`checks_manifest`, `checks_catalog`);
* two kinds of bytes make another exception escape (`Troublesome`): those whose JSON reaches an integer
  with more digits than the interpreter converts, and those that escape a lone surrogate in a value
  without floats;
* `loaders_closed_iff`: **there are no others**.
-/

import AxiomMcp.Snapshot.Catalog
import AxiomMcp.Snapshot.Faithful

namespace AxiomMcp.Snapshot

open Lib

variable {py : Interpreter}

/-- A `ManifestError`. -/
def IsManifestError (raised : Raised) : Prop := ∃ kind message, raised = .manifest kind message

/-- A `CatalogError`. -/
def IsCatalogError (raised : Raised) : Prop := ∃ kind message, raised = .catalog kind message

/-! ### Checks of fields -/

theorem raises_invalid {α : Type} (message : Text) :
    Raises IsManifestError (.error (invalid message) : Except Raised α) :=
  Raises.error ⟨.invalid, message, rfl⟩

theorem raises_requireObject (document : Json) (what : Text) :
    Raises IsManifestError (requireObject document what) := by
  unfold requireObject
  split
  · exact Raises.ok _
  · exact raises_invalid _

theorem raises_requireExactKeys (document : JsonObject) (expected : List Text) (what : Text) :
    Raises IsManifestError (requireExactKeys py document expected what) := by
  unfold requireExactKeys
  split
  · exact Raises.ok _
  · exact raises_invalid _

theorem raises_requireSchemaMajor (document : JsonObject) (what : Text) :
    Raises IsManifestError (requireSchemaMajor document what) := by
  unfold requireSchemaMajor
  split
  · split
    · exact Raises.error ⟨_, _, rfl⟩
    · exact Raises.ok _
  · exact raises_invalid _

theorem raises_checkedField (check : Text → Bool) (complaint : Text) (document : JsonObject)
    (name what : Text) :
    Raises IsManifestError (checkedField check complaint document name what) := by
  unfold checkedField
  split
  · split
    · exact Raises.ok _
    · exact raises_invalid _
  · exact raises_invalid _

theorem raises_integerField (document : JsonObject) (name what : Text) (minimum : ℤ)
    (maximum : Option ℤ) :
    Raises IsManifestError (integerField document name what minimum maximum) := by
  unfold integerField
  split
  · split
    · exact raises_invalid _
    · exact Raises.ok _
  · exact raises_invalid _

theorem raises_portablePath (value : Option Json) (what : Text) :
    Raises IsManifestError (portablePath py value what) := by
  unfold portablePath
  split
  · split
    · exact Raises.ok _
    · exact raises_invalid _
  · exact raises_invalid _

theorem raises_allowedField (allowed : List Text) (complaint : Text) (value : Option Json)
    (what : Text) : Raises IsManifestError (allowedField py allowed complaint value what) := by
  unfold allowedField
  split
  · split
    · exact Raises.ok _
    · exact raises_invalid _
  · exact raises_invalid _

theorem raises_validateCoverage (document : JsonObject) (what : Text) :
    Raises IsManifestError (validateCoverage py document what) := by
  unfold validateCoverage
  split
  · refine (raises_requireExactKeys _ _ _).bind fun _ => ?_
    refine (raises_allowedField _ _ _ _).bind fun _ => ?_
    refine (raises_integerField _ _ _ _ _).bind fun _ => ?_
    refine (raises_integerField _ _ _ _ _).bind fun _ => ?_
    refine (raises_integerField _ _ _ _ _).bind fun _ => ?_
    split
    · exact raises_invalid _
    split
    · refine (Raises.forM (fun pattern => ?_) _).bind fun _ => Raises.ok _
      unfold checkPattern
      split
      · exact Raises.ok _
      · exact raises_invalid _
    · exact raises_invalid _
  · exact raises_invalid _

theorem raises_validateEntry (item : Json) (index : ℕ) (what : Text) :
    Raises IsManifestError (validateEntry py item index what) := by
  unfold validateEntry
  dsimp only
  split
  · refine (raises_requireExactKeys _ _ _).bind fun _ => ?_
    refine (raises_portablePath _ _).bind fun _ => ?_
    refine (raises_allowedField _ _ _ _).bind fun _ => ?_
    refine (raises_checkedField _ _ _ _ _).bind fun _ => ?_
    refine (raises_integerField _ _ _ _ _).bind fun _ => ?_
    refine (raises_integerField _ _ _ _ _).bind fun _ => ?_
    exact Raises.ok _
  · exact raises_invalid _

theorem raises_validateFiles (document : JsonObject) (what : Text) :
    Raises IsManifestError (validateFiles py document what) := by
  unfold validateFiles
  split
  · refine Raises.foldlM (fun entries item => ?_) _ _
    refine (raises_validateEntry _ _ _).bind fun entry => ?_
    split
    · exact Raises.error ⟨_, _, rfl⟩
    split
    · exact Raises.error ⟨_, _, rfl⟩
    · exact Raises.ok _
  · exact raises_invalid _

theorem raises_catalogInvalid {α : Type} (message : Text) :
    Raises IsCatalogError (.error (catalogInvalid message) : Except Raised α) :=
  Raises.error ⟨.invalid, message, rfl⟩

theorem raises_catalogObject (document : Json) (what : Text) :
    Raises IsCatalogError (catalogObject document what) := by
  unfold catalogObject
  split
  · exact Raises.ok _
  · exact raises_catalogInvalid _

theorem raises_catalogExactKeys (document : JsonObject) (expected : List Text) (what : Text) :
    Raises IsCatalogError (catalogExactKeys py document expected what) := by
  unfold catalogExactKeys
  split
  · exact Raises.ok _
  · exact raises_catalogInvalid _

theorem raises_catalogField (check : Text → Bool) (complaint : Text) (document : JsonObject)
    (name what : Text) :
    Raises IsCatalogError (catalogField check complaint document name what) := by
  unfold catalogField
  split
  · split
    · exact Raises.ok _
    · exact raises_catalogInvalid _
  · exact raises_catalogInvalid _

theorem raises_catalogMajor (document : JsonObject) (what : Text) :
    Raises IsCatalogError (catalogMajor document what) := by
  unfold catalogMajor
  split
  · split
    · exact Raises.error ⟨_, _, rfl⟩
    · exact Raises.ok _
  · exact raises_catalogInvalid _

theorem raises_catalogCoverage (document : JsonObject) (what : Text) :
    Raises IsCatalogError (catalogCoverage py document what) := by
  unfold catalogCoverage
  dsimp only
  split
  · split
    · exact Raises.ok _
    · exact raises_catalogInvalid _
  · exact raises_catalogInvalid _

theorem raises_catalogMembers (document : JsonObject) (what : Text) :
    Raises IsCatalogError (catalogMembers py document what) := by
  unfold catalogMembers
  split
  · refine Raises.foldlM (fun members item => ?_) _ _
    refine (raises_catalogObject _ _).bind fun entry => ?_
    refine (Raises.forM (fun name => ?_) _).bind fun _ => ?_
    · unfold refuseNameOnly
      split
      · exact raises_catalogInvalid _
      · exact Raises.ok _
    refine (raises_catalogExactKeys _ _ _).bind fun _ => ?_
    refine (raises_catalogField _ _ _ _ _).bind fun projectId => ?_
    split
    · exact raises_catalogInvalid _
    · refine (raises_catalogField _ _ _ _ _).bind fun _ => ?_
      exact (raises_catalogField _ _ _ _ _).bind fun _ => Raises.ok _
  · exact raises_catalogInvalid _

/-! ### Bytes that let another exception escape -/

/-- Bytes whose text reaches an integer with too many digits before it is refused as JSON. -/
def HugeInteger (py : Interpreter) (raw : Bytes) : Prop :=
  ∃ text digits, Utf8.decode raw = .ok text ∧ Json.loads py text = .error (.tooManyDigits digits)

/-- Bytes of a JSON value without floats that holds a lone surrogate. -/
def LoneSurrogate (py : Interpreter) (raw : Bytes) : Prop :=
  ∃ text document, Utf8.decode raw = .ok text ∧ Json.loads py text = .ok document ∧
    document.noFloat = true ∧ document.noSurrogate = false

/-- Bytes that let another exception escape. -/
def Troublesome (py : Interpreter) (raw : Bytes) : Prop := HugeInteger py raw ∨ LoneSurrogate py raw

/-- Each loader returns, or raises its own error type; the check answers. -/
structure LoadersClosed (py : Interpreter) (raw : Bytes) : Prop where
  pointer : ∀ what, Raises IsManifestError (loadPointerBytes py raw what)
  manifest : ∀ what, Raises IsManifestError (loadManifestBytes py raw what)
  catalog : ∀ what, Raises IsCatalogError (loadCatalogBytes py raw what)
  canonical : ∃ answer, isCanonicalBytes py raw = .ok answer

/-! ### Parsing -/

/-- A byte order mark is the first character of what the bytes decode to. -/
theorem decode_bom {raw : Bytes} {text : Text} (marked : utf8Bom.isPrefixOf raw = true)
    (decoded : Utf8.decode raw = .ok text) : text.head? = some 0xfeff := by
  obtain ⟨rest, rfl⟩ := List.isPrefixOf_iff_prefix.mp marked
  have first : Utf8.decodeChar (utf8Bom ++ rest) = .ok (0xfeff, rest) := rfl
  obtain ⟨n, rounds⟩ : ∃ n, (utf8Bom ++ rest).length = n + 1 := ⟨rest.length + 2, by
    rw [List.length_append]
    exact Nat.add_comm 3 rest.length⟩
  rw [Utf8.decode, rounds] at decoded
  change Utf8.decodeChar (utf8Bom ++ rest) >>= _ = _ at decoded
  rw [first, ok_bind] at decoded
  obtain ⟨later, _, done⟩ := bind_eq_ok.mp decoded
  cases done
  rfl

/-- How parsing bytes ends, for both families of loaders. -/
inductive Parsing (py : Interpreter) (raw : Bytes) : Prop
  | refused (manifest : ∀ what, ∃ message, parseBytes py raw what = .error (.manifest .unreadable message))
      (catalog : ∀ what, ∃ message, catalogDocument py raw what = .error (catalogInvalid message))
      (untroubled : ¬ Troublesome py raw)
  | huge (digits : ℕ) (manifest : ∀ what, parseBytes py raw what = .error (.tooManyDigits digits))
      (huge : HugeInteger py raw)
  | parsed (document : Json) (manifest : ∀ what, parseBytes py raw what = .ok document)
      (catalog : ∀ what, catalogDocument py raw what = catalogObject document what)
      (troubled : Troublesome py raw ↔ document.noFloat = true ∧ document.noSurrogate = false)

theorem parsing (py : Interpreter) (raw : Bytes) : Parsing py raw := by
  cases decoded : Utf8.decode raw with
  | error fault =>
    refine .refused (fun what => ?_) (fun what => ?_) ?_
    · rw [parseBytes, decodeUtf8, decoded]
      split
      · exact ⟨_, rfl⟩
      · exact ⟨_, rfl⟩
    · rw [catalogDocument, decoded]
      exact ⟨_, rfl⟩
    · rintro (⟨text, digits, other, _⟩ | ⟨text, document, other, _⟩)
      · cases decoded.symm.trans other
      · cases decoded.symm.trans other
  | ok text =>
    by_cases marked : utf8Bom.isPrefixOf raw = true
    · have loaded : Json.loads py text =
          .error (.notJson "Unexpected UTF-8 BOM (decode using utf-8-sig)") :=
        if_pos (decode_bom marked decoded)
      refine .refused (fun what => ?_) (fun what => ?_) ?_
      · rw [parseBytes, decodeUtf8, if_pos marked]
        exact ⟨_, rfl⟩
      · rw [catalogDocument, decoded]
        dsimp only
        rw [loaded]
        exact ⟨_, rfl⟩
      · rintro (⟨text', digits, same, other⟩ | ⟨text', document, same, other, _⟩)
        · cases decoded.symm.trans same
          cases loaded.symm.trans other
        · cases decoded.symm.trans same
          cases loaded.symm.trans other
    · have manifest : ∀ what, parseBytes py raw what = parseJson py text what := by
        intro what
        rw [parseBytes, decodeUtf8, if_neg marked, decoded]
        rfl
      have object : ∀ document, Json.loads py text = .ok document → ∀ what,
          catalogDocument py raw what = catalogObject document what := by
        intro document loaded what
        rw [catalogDocument, decoded]
        dsimp only
        rw [loaded]
      have broken : ∀ message, Json.loads py text = .error (.notJson message) → ∀ what,
          catalogDocument py raw what =
            .error (catalogInvalid (what ++ (" is not valid JSON: " : Text) ++ message)) := by
        intro message loaded what
        rw [catalogDocument, decoded]
        dsimp only
        rw [loaded]
      cases loaded : Json.loads py text with
      | ok document =>
        refine .parsed document (fun what => ?_) (fun what => ?_) ?_
        · rw [manifest, parseJson, loaded]
        · exact object document loaded what
        · constructor
          · rintro (⟨text', digits, same, other⟩ | ⟨text', document', same, other, troubled⟩)
            · cases decoded.symm.trans same
              cases loaded.symm.trans other
            · cases decoded.symm.trans same
              cases loaded.symm.trans other
              exact troubled
          · exact fun troubled => Or.inr ⟨text, document, decoded, loaded, troubled⟩
      | error fault =>
        cases fault with
        | notJson message =>
          refine .refused (fun what => ?_) (fun what => ?_) ?_
          · rw [manifest, parseJson, loaded]
            exact ⟨_, rfl⟩
          · exact ⟨_, broken message loaded what⟩
          · rintro (⟨text', digits, same, other⟩ | ⟨text', document, same, other, _⟩)
            · cases decoded.symm.trans same
              cases loaded.symm.trans other
            · cases decoded.symm.trans same
              cases loaded.symm.trans other
        | tooManyDigits digits =>
          refine .huge digits (fun what => ?_) ⟨text, digits, decoded, loaded⟩
          rw [manifest, parseJson, loaded]
        | exhausted => exact (Json.loads_total py text loaded).elim

/-! ### The check and the loaders -/

theorem isCanonicalBytes_parsed {raw : Bytes} {document : Json}
    (parsed : ∀ what, parseBytes py raw what = .ok document)
    (untroubled : ¬ (document.noFloat = true ∧ document.noSurrogate = false)) :
    ∃ answer, isCanonicalBytes py raw = .ok answer := by
  rw [isCanonicalBytes, parsed]
  dsimp only
  rcases canonicalBytes_parsed (parseBytes_loaded (parsed [])) with
    ⟨rendered, done⟩ | ⟨float, _⟩ | ⟨plain, dirty, _⟩
  · split
    · exact ⟨false, rfl⟩
    · rw [done]
      exact ⟨_, rfl⟩
  · rw [if_pos]
    · exact ⟨false, rfl⟩
    · rw [ne_eq, canonicalizationReasons_eq_nil, float]
      exact Bool.false_ne_true
  · have fits := (parseBytes_loaded (parsed [])).2
    refine (untroubled ⟨plain, ?_⟩).elim
    rw [Json.clean_compactText plain fits] at dirty
    simpa using dirty

theorem raises_requireCanonical {raw : Bytes} {document : JsonObject}
    (loaded : Json.Loaded py (.obj document))
    (untroubled : ¬ ((Json.obj document).noFloat = true ∧ (Json.obj document).noSurrogate = false))
    (what : Text) : Raises IsManifestError (requireCanonical py raw document what) := by
  unfold requireCanonical
  rcases canonicalBytes_parsed loaded with ⟨rendered, done⟩ | ⟨_, message, failed⟩ | ⟨plain, dirty, _⟩
  · rw [done]
    dsimp only
    split
    · exact Raises.error ⟨_, _, rfl⟩
    · exact Raises.ok _
  · rw [failed]
    exact Raises.error ⟨_, _, rfl⟩
  · refine (untroubled ⟨plain, ?_⟩).elim
    rw [Json.clean_compactText plain loaded.2] at dirty
    simpa using dirty

/-- The steps a pointer and a manifest share, up to the canonical form. -/
theorem raises_document {α : Type} {raw : Bytes} {document : Json}
    (parsed : ∀ what, parseBytes py raw what = .ok document)
    (untroubled : ¬ (document.noFloat = true ∧ document.noSurrogate = false)) (what : Text)
    {later : JsonObject → Except Raised α}
    (rest : ∀ entries, Raises IsManifestError (later entries)) :
    Raises IsManifestError (do
      let document ← requireObject (← parseBytes py raw what) what
      let _ ← requireSchemaMajor document what
      requireCanonical py raw document what
      later document) := by
  have loaded := parseBytes_loaded (parsed what)
  rw [parsed what, ok_bind]
  cases object : requireObject document what with
  | error raised => exact Raises.error (raises_requireObject document what raised object)
  | ok entries =>
    have same := requireObject_ok.mp object
    subst same
    rw [ok_bind]
    exact (raises_requireSchemaMajor entries what).bind fun _ =>
      (raises_requireCanonical loaded untroubled what).bind fun _ => rest entries

/-- **The loaders are closed under their error types exactly on bytes that are not troublesome.** -/
theorem loaders_closed_iff (py : Interpreter) (raw : Bytes) :
    LoadersClosed py raw ↔ ¬ Troublesome py raw := by
  rcases parsing py raw with ⟨manifest, catalog, untroubled⟩ | ⟨digits, manifest, huge⟩ |
    ⟨document, manifest, catalog, troubled⟩
  · refine iff_of_true ⟨fun what => ?_, fun what => ?_, fun what => ?_, ?_⟩ untroubled
    · obtain ⟨message, refused⟩ := manifest what
      rw [loadPointerBytes, refused]
      exact Raises.error ⟨_, _, rfl⟩
    · obtain ⟨message, refused⟩ := manifest what
      rw [loadManifestBytes, refused]
      exact Raises.error ⟨_, _, rfl⟩
    · obtain ⟨message, refused⟩ := catalog what
      rw [loadCatalogBytes, refused]
      exact Raises.error ⟨_, _, rfl⟩
    · obtain ⟨message, refused⟩ := manifest "document"
      rw [isCanonicalBytes, refused]
      exact ⟨false, rfl⟩
  · refine iff_of_false (fun closed => ?_) fun none => none (Or.inl huge)
    obtain ⟨answer, answered⟩ := closed.canonical
    rw [isCanonicalBytes, manifest] at answered
    cases answered
  · rw [troubled]
    constructor
    · rintro closed ⟨plain, lone⟩
      obtain ⟨answer, answered⟩ := closed.canonical
      have loaded := parseBytes_loaded (manifest [])
      have dirty : ¬ Utf8.Clean (document.compactText py) := by
        rw [Json.clean_compactText plain loaded.2, lone]
        exact Bool.false_ne_true
      rw [isCanonicalBytes, manifest] at answered
      dsimp only at answered
      rw [if_neg (not_not.mpr (canonicalizationReasons_eq_nil.mpr plain))] at answered
      rcases canonicalBytes_parsed loaded with ⟨rendered, done⟩ | ⟨float, _⟩ | ⟨_, _, failed⟩
      · obtain ⟨_, fits, encoded⟩ := canonicalBytes_ok.mp done
        refine dirty fun c member => ?_
        by_contra surrogate
        have line : ¬ Utf8.Clean (canonicalLine py document) := fun clean =>
          surrogate (clean c (List.mem_append_left _ member))
        rw [Utf8.encode_of_not_clean line] at encoded
        cases encoded
      · rw [plain] at float
        cases float
      · rw [failed] at answered
        cases answered
    · intro untroubled
      have canonical := isCanonicalBytes_parsed manifest untroubled
      refine ⟨fun what => ?_, fun what => ?_, fun what => ?_, canonical⟩
      · refine raises_document manifest untroubled what fun entries => ?_
        refine (raises_requireExactKeys _ _ _).bind fun _ => ?_
        refine (raises_checkedField _ _ _ _ _).bind fun _ => ?_
        refine (raises_checkedField _ _ _ _ _).bind fun _ => ?_
        split
        · exact raises_invalid _
        · exact Raises.ok _
      · refine raises_document manifest untroubled what fun entries => ?_
        refine (Raises.forM (fun field => ?_) _).bind fun _ => ?_
        · unfold refuseSelfHash
          split
          · exact raises_invalid _
          · exact Raises.ok _
        refine (raises_requireExactKeys _ _ _).bind fun _ => ?_
        refine (raises_checkedField _ _ _ _ _).bind fun _ => ?_
        refine (raises_checkedField _ _ _ _ _).bind fun _ => ?_
        refine (raises_checkedField _ _ _ _ _).bind fun _ => ?_
        refine (raises_checkedField _ _ _ _ _).bind fun _ => ?_
        refine (raises_checkedField _ _ _ _ _).bind fun _ => ?_
        refine (raises_checkedField _ _ _ _ _).bind fun _ => ?_
        refine (raises_checkedField _ _ _ _ _).bind fun _ => ?_
        refine (raises_checkedField _ _ _ _ _).bind fun _ => ?_
        refine (raises_validateCoverage _ _).bind fun _ => ?_
        exact (raises_validateFiles _ _).bind fun _ => Raises.ok _
      · rw [loadCatalogBytes, catalog]
        refine (raises_catalogObject _ _).bind fun entries => ?_
        refine (raises_catalogMajor _ _).bind fun _ => ?_
        refine Raises.bind ?_ fun _ => ?_
        · obtain ⟨answer, answered⟩ := canonical
          rw [catalogCanonical, answered, ok_bind]
          cases answer
          · exact raises_catalogInvalid _
          · exact Raises.ok _
        refine (raises_catalogExactKeys _ _ _).bind fun _ => ?_
        refine (raises_catalogField _ _ _ _ _).bind fun _ => ?_
        refine (raises_catalogField _ _ _ _ _).bind fun _ => ?_
        refine (raises_catalogCoverage _ _).bind fun _ => ?_
        exact (raises_catalogMembers _ _).bind fun _ => Raises.ok _

/-- A pointer that escapes a lone surrogate. -/
def surrogatePointer : Bytes :=
  ("\x7b\"schema_version\":1,\"x\":\"\\ud800\"\x7d\n" : Text).flatMap Utf8.encodeChar

/-- Its loader raises the `UnicodeEncodeError` of the encoder. -/
theorem loaders_not_closed :
    loadPointerBytes .ascii surrogatePointer "current.json" = .error .unicodeEncode ∧
      ¬ ∀ raw, LoadersClosed .ascii raw := by
  have escapes : loadPointerBytes .ascii surrogatePointer "current.json" = .error .unicodeEncode := by
    decide +kernel
  refine ⟨escapes, fun closed => ?_⟩
  obtain ⟨_, _, same⟩ := (closed surrogatePointer).pointer "current.json" _ escapes
  cases same

end AxiomMcp.Snapshot

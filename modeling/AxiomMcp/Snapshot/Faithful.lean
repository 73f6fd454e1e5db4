/-
**Canonical JSON is a faithful encoding.**

`canonical_faithful` gathers what content addresses rest on: encoding and parsing undo each other,
`isCanonicalBytes` recognises exactly the encoded bytes, and a pointer or a manifest that was accepted
is encoded to the very bytes it was read from.
-/

import AxiomMcp.Snapshot.Manifest

namespace AxiomMcp.Snapshot

open Lib

variable {py : Interpreter}

/-- A value that canonical metadata can hold: each key once, no float, no lone surrogate, integers inside
the digit limit. -/
structure Encodable (py : Interpreter) (v : Json) : Prop where
  formed : v.WellFormed
  plain : v.noFloat = true
  whole : v.noSurrogate = true
  fits : v.digitsFit py = true

/-- Such a value is encoded. -/
theorem Encodable.encodes {v : Json} (encodable : Encodable py v) :
    ∃ raw, canonicalBytes py v = .ok raw := by
  rcases canonicalBytes_parsed ⟨encodable.formed, encodable.fits⟩ with done | ⟨float, _⟩ | ⟨_, dirty, _⟩
  · exact done
  · rw [encodable.plain] at float
    cases float
  · exact (dirty ((Json.clean_compactText encodable.plain encodable.fits).mpr encodable.whole)).elim

/-- The check recognises the bytes of the value that is parsed from them. -/
theorem isCanonicalBytes_iff {raw : Bytes} {what : Text} {document : Json}
    (parsed : parseBytes py raw what = .ok document) :
    isCanonicalBytes py raw = .ok true ↔ canonicalBytes py document = .ok raw := by
  rw [isCanonicalBytes, parseBytes_what parsed]
  dsimp only
  by_cases plain : document.noFloat = true
  · rw [if_neg (not_not.mpr (canonicalizationReasons_eq_nil.mpr plain))]
    cases canonicalBytes py document with
    | error raised => exact iff_of_false (fun none => nomatch none) (fun none => nomatch none)
    | ok rendered =>
      change (.ok (rendered == raw) : Except Raised Bool) = .ok true ↔ _
      rw [Except.ok.injEq, Except.ok.injEq, beq_iff_eq]
  · rw [if_pos fun none => plain (canonicalizationReasons_eq_nil.mp none)]
    refine iff_of_false (fun none => nomatch none) fun encoded => ?_
    exact plain (canonicalBytes_ok.mp encoded).1

/-- An object with the declared fields, each holding the declared value, is the object declared. -/
theorem same_of_fields {document declared : JsonObject} {names : List Text}
    (distinct : (document.map Prod.fst).Nodup) (distinct' : (declared.map Prod.fst).Nodup)
    (keys : ExactKeys document names) (keys' : declared.map Prod.fst = names)
    (fields : ∀ name ∈ names, Json.get? document name = Json.get? declared name) :
    Json.Same (.obj document) (.obj declared) := by
  rw [Json.same_obj distinct distinct']
  intro name
  by_cases here : name ∈ names
  · rw [fields name here]
  · have missing : ∀ {entries : JsonObject}, (entries.map Prod.fst).Nodup →
        name ∉ entries.map Prod.fst → Json.get? entries name = none := by
      intro entries distinct absent
      refine Option.eq_none_iff_forall_ne_some.mpr fun v found => absent ?_
      exact List.mem_map.mpr ⟨(name, v), (Json.get?_eq_some distinct).mp found, rfl⟩
    rw [missing distinct fun member => here (keys.1 name member),
      missing distinct' (keys' ▸ here)]

/-- An accepted pointer is encoded to the bytes it was read from. -/
theorem pointer_encodes {raw : Bytes} {what : Text} {pointer : Pointer}
    (loaded : loadPointerBytes py raw what = .ok pointer) :
    canonicalBytes py pointer.asDocument = .ok raw := by
  obtain ⟨document, canonical, keys, generation, digest, _, _, major, _⟩ := loadPointerBytes_ok loaded
  have built := parseBytes_loaded (canonical.parsed what)
  obtain ⟨_, fits, _⟩ := canonicalBytes_ok.mp canonical.encoded
  have distinct := (Json.loaded_obj.mp built).1
  have same : Json.Same (.obj document) pointer.asDocument := by
    have declared : pointerRequired.Nodup := by decide
    refine same_of_fields distinct declared keys rfl fun name member => ?_
    rcases List.mem_cons.mp member with rfl | member
    · rw [canonical.major, major]
      rfl
    rcases List.mem_cons.mp member with rfl | member
    · rw [generation]
      rfl
    rcases List.mem_cons.mp member with rfl | none
    · rw [digest]
      rfl
    · exact (List.not_mem_nil none).elim
  refine canonicalBytes_of_same same rfl ?_ canonical.encoded
  have printed : Json.digitsFit py (.int pointer.schemaVersion) = true := by
    rw [major]
    exact (Json.loaded_obj.mp built).2 _ ((Json.get?_eq_some distinct).mp canonical.major) |>.2
  rw [Pointer.asDocument, Json.digitsFit, Json.digitsFitEntries, printed]
  rfl

/-- An accepted manifest is parsed again from its own bytes, and encoded to them. -/
theorem manifest_encodes {raw : Bytes} {what : Text} {manifest : Manifest}
    (loaded : loadManifestBytes py raw what = .ok manifest) :
    ∃ document, manifest.jsonDocument py = .ok document ∧ canonicalBytes py document = .ok raw := by
  obtain ⟨document, canonical, _, _, _, _, _, data, _⟩ := loadManifestBytes_ok loaded
  refine ⟨.obj document, ?_, canonical.encoded⟩
  obtain ⟨text, decoded, parsed⟩ := bind_eq_ok.mp (canonical.parsed [])
  have read : Utf8.decode raw = .ok text := by
    unfold decodeUtf8 at decoded
    split at decoded
    · cases decoded
    split at decoded
    · cases decoded
    · next good =>
      cases decoded
      exact good
  rw [Manifest.jsonDocument, data, read]
  dsimp only
  rw [parseJson_ok parsed]

/-- **Canonical JSON is a faithful encoding.** -/
theorem canonical_faithful (py : Interpreter) :
    (∀ v, Encodable py v → ∃ raw, canonicalBytes py v = .ok raw ∧
      ∀ what, ∃ w, parseBytes py raw what = .ok w ∧ Json.Same w v) ∧
    (∀ v w, Encodable py v → Encodable py w →
      canonicalBytes py v = canonicalBytes py w → Json.Same v w) ∧
    (∀ raw what document, parseBytes py raw what = .ok document →
      (isCanonicalBytes py raw = .ok true ↔ canonicalBytes py document = .ok raw)) ∧
    (∀ raw what pointer, loadPointerBytes py raw what = .ok pointer →
      canonicalBytes py pointer.asDocument = .ok raw) ∧
    ∀ (sha256 : Bytes → Text) raw what manifest, loadManifestBytes py raw what = .ok manifest →
      ∃ document bytes, manifest.jsonDocument py = .ok document ∧
        canonicalBytes py document = .ok bytes ∧ bytes = raw ∧
          sha256 bytes = manifest.generationId sha256 := by
  refine ⟨fun v encodable => ?_, fun v w left right same => ?_,
    fun raw what document parsed => isCanonicalBytes_iff parsed,
    fun raw what pointer loaded => pointer_encodes loaded,
    fun sha256 raw what manifest loaded => ?_⟩
  · obtain ⟨raw, encoded⟩ := encodable.encodes
    refine ⟨raw, encoded, fun what => ⟨v.sorted, parse_canonicalBytes encodable.formed encoded what, ?_⟩⟩
    exact Json.sorted_sorted v
  · obtain ⟨raw, encoded⟩ := left.encodes
    exact canonicalBytes_injective ⟨left.formed, right.formed⟩ encoded (same ▸ encoded)
  · obtain ⟨document, parsed, encoded⟩ := manifest_encodes loaded
    obtain ⟨_, _, _, _, _, _, _, data, _⟩ := loadManifestBytes_ok loaded
    exact ⟨document, raw, parsed, encoded, rfl, by rw [Manifest.generationId, data]⟩

/-- An object with a nested list, its keys out of order. -/
def sampleValue : Json :=
  .obj [("name", .str "caf\u00e9\n"), ("counts", .arr [.int (-12), .bool true, .null])]

/-- The theorem on a value, and on the pointer and the manifest of the small generation. -/
theorem canonical_faithful_sample :
    (∃ raw, canonicalBytes .ascii sampleValue = .ok raw ∧
      ∃ w, parseBytes .ascii raw "document" = .ok w ∧ Json.Same w sampleValue) ∧
    (∃ pointer, loadPointerBytes .ascii (samplePointer sampleId) "current.json" = .ok pointer ∧
      canonicalBytes .ascii pointer.asDocument = .ok (samplePointer sampleId)) ∧
    ∃ manifest document, loadManifestBytes .ascii (sampleManifest "core") "manifest.json" =
        .ok manifest ∧
      manifest.jsonDocument .ascii = .ok document ∧
        canonicalBytes .ascii document = .ok (sampleManifest "core") := by
  have encodable : Encodable .ascii sampleValue :=
    ⟨by simp [sampleValue, Json.WellFormed, Json.WellFormedEntries, Json.WellFormedItems]; decide,
      by decide, by decide, by decide⟩
  have pointerLoads : (loadPointerBytes .ascii (samplePointer sampleId) "current.json").toOption.isSome :=
    by decide +kernel
  have manifestLoads : (loadManifestBytes .ascii (sampleManifest "core")
      "manifest.json").toOption.isSome := by
    decide +kernel
  obtain ⟨values, _, _, pointers, manifests⟩ := canonical_faithful .ascii
  refine ⟨?_, ?_, ?_⟩
  · obtain ⟨raw, encoded, reads⟩ := values sampleValue encodable
    exact ⟨raw, encoded, reads "document"⟩
  · cases loaded : loadPointerBytes .ascii (samplePointer sampleId) "current.json" with
    | error raised =>
      rw [loaded] at pointerLoads
      cases pointerLoads
    | ok pointer => exact ⟨pointer, rfl, pointers _ _ pointer loaded⟩
  · cases loaded : loadManifestBytes .ascii (sampleManifest "core") "manifest.json" with
    | error raised =>
      rw [loaded] at manifestLoads
      cases manifestLoads
    | ok manifest =>
      obtain ⟨document, _, parsed, encoded, rfl, _⟩ := manifests sampleSha256 _ _ manifest loaded
      exact ⟨manifest, document, rfl, parsed, encoded⟩

end AxiomMcp.Snapshot

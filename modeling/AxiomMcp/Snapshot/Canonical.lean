/-
**Canonical bytes (`manifest.py`, first half).**

What a document is hashed over: compact JSON with sorted keys, one line feed at the end, in UTF-8.

* `canonicalBytes` encodes, `parseJson` after `decodeUtf8` reads; `isCanonicalBytes` compares the two;
* `parse_canonicalBytes`: **what was encoded is read back**, and `canonicalBytes_injective`: only the
  same value has these bytes;
* `canonicalBytes_parsed`: what encoding a loaded document can still raise.
-/

import AxiomMcp.Exceptions
import AxiomMcp.Lib.JsonRound

namespace AxiomMcp.Snapshot

open Lib

/-- The constant `UTF8_BOM`. -/
def utf8Bom : Bytes := [0xef, 0xbb, 0xbf]

mutual
/-- `canonicalization_reasons(value)`; the keys of a loaded object are strings. -/
def canonicalizationReasons : Json → List Text
  | .float _ => ["float_not_allowed_in_canonical_metadata"]
  | .obj entries => entryReasons entries
  | .arr items => itemReasons items
  | _ => []

def itemReasons : List Json → List Text
  | [] => []
  | item :: rest => canonicalizationReasons item ++ itemReasons rest

def entryReasons : JsonObject → List Text
  | [] => []
  | (_, value) :: rest => canonicalizationReasons value ++ entryReasons rest
end

section Encode

variable (py : Interpreter)

/-- `canonical_text(value)` -/
def canonicalText (value : Json) : Except Raised Text :=
  let reasons := canonicalizationReasons value
  if reasons ≠ [] then
    .error (.manifest .canonicalSerialization
      (("canonical serialization rejected: " : Text) ++ Text.join "," reasons))
  else
    match value.dumps py with
    | none => .error .unprintable
    | some rendered => .ok (rendered ++ ("\n" : Text))

/-- `canonical_bytes(value)` -/
def canonicalBytes (value : Json) : Except Raised Bytes := do
  match Utf8.encode (← canonicalText py value) with
  | none => .error .unicodeEncode
  | some bytes => return bytes

/-- `_decode_utf8(raw, what=what)` -/
def decodeUtf8 (raw : Bytes) (what : Text) : Except Raised Text :=
  if utf8Bom.isPrefixOf raw then
    .error (.manifest .unreadable (what ++ (" starts with a UTF-8 byte order mark" : Text)))
  else
    match Utf8.decode raw with
    | .error fault =>
      .error (.manifest .unreadable (what ++ (" is not valid UTF-8: " : Text) ++ fault.reason))
    | .ok text => .ok text

/-- `_parse_json(text, what=what)` -/
def parseJson (text what : Text) : Except Raised Json :=
  match Json.loads py text with
  | .ok document => .ok document
  | .error (.notJson message) =>
    .error (.manifest .unreadable (what ++ (" is not valid JSON: " : Text) ++ message))
  | .error (.tooManyDigits digits) => .error (.tooManyDigits digits)
  | .error .exhausted => .error .recursion

/-- `_parse_json(_decode_utf8(raw, what=what), what=what)` -/
def parseBytes (raw : Bytes) (what : Text) : Except Raised Json := do
  parseJson py (← decodeUtf8 raw what) what

/-- `is_canonical_bytes(raw)` -/
def isCanonicalBytes (raw : Bytes) : Except Raised Bool :=
  match parseBytes py raw "document" with
  | .error (.manifest _ _) => .ok false
  | .error raised => .error raised
  | .ok document => do
    if canonicalizationReasons document ≠ [] then return false
    return (← canonicalBytes py document) == raw

end Encode

/-! ### What encoding needs -/

variable {py : Interpreter}

theorem canonicalizationReasons_eq_nil {v : Json} :
    canonicalizationReasons v = [] ↔ v.noFloat = true := by
  induction v using Json.induct with
  | null => exact iff_of_true rfl rfl
  | bool value => exact iff_of_true rfl rfl
  | int value => exact iff_of_true rfl rfl
  | float value => exact iff_of_false (List.cons_ne_nil _ _) Bool.false_ne_true
  | str value => exact iff_of_true rfl rfl
  | arr items ih =>
    have each : itemReasons items = [] ↔ ∀ item ∈ items, canonicalizationReasons item = [] := by
      clear ih
      induction items with
      | nil => simp [itemReasons]
      | cons item rest ih =>
        rw [itemReasons, List.append_eq_nil_iff, ih, List.forall_mem_cons]
    rw [canonicalizationReasons, each, Json.noFloat_arr]
    exact forall₂_congr ih
  | obj entries ih =>
    have each : entryReasons entries = [] ↔
        ∀ item ∈ entries, canonicalizationReasons item.2 = [] := by
      clear ih
      induction entries with
      | nil => simp [entryReasons]
      | cons item rest ih =>
        rw [entryReasons, List.append_eq_nil_iff, ih, List.forall_mem_cons]
    rw [canonicalizationReasons, each, Json.noFloat_obj]
    exact forall₂_congr ih

/-- The text that is encoded. -/
def canonicalLine (py : Interpreter) (value : Json) : Text := value.compactText py ++ ("\n" : Text)

/-- A value is encoded when it holds no float, no integer beyond the limit and no lone surrogate. -/
theorem canonicalBytes_ok {v : Json} {raw : Bytes} :
    canonicalBytes py v = .ok raw ↔
      v.noFloat = true ∧ v.digitsFit py = true ∧ Utf8.encode (canonicalLine py v) = some raw := by
  rw [canonicalBytes, canonicalText]
  by_cases plain : v.noFloat = true
  · rw [if_neg (not_not.mpr (canonicalizationReasons_eq_nil.mpr plain)), Json.dumps]
    by_cases fits : v.digitsFit py = true
    · rw [if_pos fits]
      dsimp only
      rw [ok_bind, ← canonicalLine]
      cases Utf8.encode (canonicalLine py v) with
      | none => exact ⟨fun none => (nomatch none), fun some => (nomatch some.2.2)⟩
      | some bytes =>
        exact ⟨fun done => ⟨plain, fits, congrArg some (Except.ok.inj done)⟩,
          fun some => congrArg Except.ok (Option.some.inj some.2.2)⟩
    · rw [if_neg fits]
      exact ⟨fun none => (nomatch none), fun some => (fits some.2.1).elim⟩
  · rw [if_pos fun none => plain (canonicalizationReasons_eq_nil.mp none)]
    exact ⟨fun none => (nomatch none), fun some => (plain some.1).elim⟩

/-- Encoding the same value gives the same bytes, whatever the order of its keys. -/
theorem canonicalBytes_of_same {v w : Json} {raw : Bytes} (same : Json.Same v w)
    (plain : w.noFloat = true) (fits : w.digitsFit py = true)
    (encoded : canonicalBytes py v = .ok raw) : canonicalBytes py w = .ok raw := by
  obtain ⟨_, _, bytes⟩ := canonicalBytes_ok.mp encoded
  refine canonicalBytes_ok.mpr ⟨plain, fits, ?_⟩
  rw [canonicalLine, ← Json.compactText_congr same]
  exact bytes

/-! ### Reading it back -/

/-- Canonical bytes carry no byte order mark. -/
theorem no_bom {v : Json} {raw : Bytes} (encoded : canonicalBytes py v = .ok raw) :
    utf8Bom.isPrefixOf raw = false := by
  obtain ⟨plain, _, bytes⟩ := canonicalBytes_ok.mp encoded
  have starts : Json.Starts (v.compactText py) := Json.compactText_starts (Json.floatsRead_of_noFloat plain)
  obtain ⟨c, rest, shape, ascii, _⟩ := starts
  have clean : Utf8.Clean (canonicalLine py v) := by
    by_contra dirty
    rw [Utf8.encode_of_not_clean dirty] at bytes
    cases bytes
  have first : Utf8.encodeChar c = [Fin.ofNat 256 c.val] := if_pos ascii
  rw [Utf8.encode_of_clean clean, canonicalLine, shape, List.cons_append, List.flatMap_cons,
    first] at bytes
  cases bytes
  rw [utf8Bom, List.cons_append, List.isPrefixOf_cons_cons]
  have apart : ((0xef : Byte) == Fin.ofNat 256 c.val) = false := by
    refine beq_false_of_ne fun same => ?_
    have value : 0xef = c.val % 256 := congrArg Fin.val same
    omega
  rw [apart, Bool.false_and]

/-- **What was encoded is read back**, the keys of its objects in order. -/
theorem parse_canonicalBytes {v : Json} {raw : Bytes} (formed : v.WellFormed)
    (encoded : canonicalBytes py v = .ok raw) (what : Text) :
    parseBytes py raw what = .ok v.sorted := by
  obtain ⟨plain, fits, bytes⟩ := canonicalBytes_ok.mp encoded
  rw [parseBytes, decodeUtf8, no_bom encoded, if_neg Bool.false_ne_true, Utf8.decode_encode bytes]
  dsimp only
  rw [ok_bind, parseJson, canonicalLine, Json.loads_compactText v formed
    (Json.floatsRead_of_noFloat plain) fits]

/-- **Only the same value has these bytes.** -/
theorem canonicalBytes_injective {v w : Json} {raw : Bytes} (formed : v.WellFormed ∧ w.WellFormed)
    (left : canonicalBytes py v = .ok raw) (right : canonicalBytes py w = .ok raw) :
    Json.Same v w := by
  have read := parse_canonicalBytes formed.1 left []
  rw [parse_canonicalBytes formed.2 right []] at read
  exact (Except.ok.inj read).symm

/-! ### A loaded document -/

theorem parseJson_ok {text what : Text} {v : Json} (read : parseJson py text what = .ok v) :
    Json.loads py text = .ok v := by
  unfold parseJson at read
  split at read
  · next loaded =>
    cases read
    exact loaded
  all_goals cases read

theorem parseBytes_loaded {raw : Bytes} {what : Text} {v : Json}
    (read : parseBytes py raw what = .ok v) : Json.Loaded py v := by
  obtain ⟨text, _, parsed⟩ := bind_eq_ok.mp read
  exact Json.loads_loaded (parseJson_ok parsed)

/-- What a parsed document does not depend on: the name it is reported under. -/
theorem parseBytes_what {raw : Bytes} {what : Text} {v : Json}
    (read : parseBytes py raw what = .ok v) (what' : Text) : parseBytes py raw what' = .ok v := by
  obtain ⟨text, decoded, parsed⟩ := bind_eq_ok.mp read
  have decoded' : decodeUtf8 raw what' = .ok text := by
    unfold decodeUtf8 at decoded ⊢
    split at decoded
    · cases decoded
    · next noMark =>
      rw [if_neg noMark]
      split at decoded
      · cases decoded
      · exact decoded
  rw [parseBytes, decoded', ok_bind, parseJson, parseJson_ok parsed]

/-- Encoding a loaded document: only a float or a lone surrogate stands in the way. -/
theorem canonicalBytes_parsed {v : Json} (loaded : Json.Loaded py v) :
    (∃ raw, canonicalBytes py v = .ok raw) ∨
      (v.noFloat = false ∧
        ∃ message, canonicalBytes py v = .error (.manifest .canonicalSerialization message)) ∨
        (v.noFloat = true ∧ ¬ Utf8.Clean (v.compactText py) ∧
          canonicalBytes py v = .error .unicodeEncode) := by
  by_cases plain : v.noFloat = true
  · by_cases clean : Utf8.Clean (v.compactText py)
    · have line : Utf8.Clean (canonicalLine py v) :=
        Utf8.clean_append.mpr ⟨clean, Utf8.clean_ofString _⟩
      exact Or.inl ⟨_, canonicalBytes_ok.mpr ⟨plain, loaded.2, Utf8.encode_of_clean line⟩⟩
    · have line : ¬ Utf8.Clean (canonicalLine py v) := fun both =>
        clean (Utf8.clean_append.mp both).1
      refine Or.inr (Or.inr ⟨plain, clean, ?_⟩)
      rw [canonicalBytes, canonicalText,
        if_neg (not_not.mpr (canonicalizationReasons_eq_nil.mpr plain)), Json.dumps, if_pos loaded.2]
      dsimp only
      rw [ok_bind, ← canonicalLine, Utf8.encode_of_not_clean line]
  · refine Or.inr (Or.inl ⟨by simpa using plain, ("canonical serialization rejected: " : Text) ++
      Text.join "," (canonicalizationReasons v), ?_⟩)
    rw [canonicalBytes, canonicalText,
      if_pos fun none => plain (canonicalizationReasons_eq_nil.mp none)]
    rfl

end AxiomMcp.Snapshot

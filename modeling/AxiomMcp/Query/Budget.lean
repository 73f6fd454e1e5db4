/-
**Packing a response inside a byte cap.**

`packResponse` returns a document that fits as it is. Otherwise it cuts the trimmable collections, in
order, each to the longest prefix that fits (`trimOne`), refuses a document that does not fit even then,
and records what it cut (`record`): the flag `truncated`, and notes among the `warnings`. Notes that no
longer fit are taken back; the flag and the list of warnings stay.
-/

import AxiomMcp.Query.Errors
import AxiomMcp.Lib.Bisect
import AxiomMcp.Lib.Dict
import AxiomMcp.Lib.JsonText

namespace AxiomMcp.Query

open AxiomMcp.Lib

/-- Why a document is not packed. -/
inductive PackError
  /-- A cap outside its range. -/
  | refused (error : QueryModelError)
  /-- `BudgetInvalid`: an integer with more digits than the interpreter prints. -/
  | tooManyDigits (limit : ℕ)
  /-- `UnicodeEncodeError`: a lone surrogate. -/
  | surrogate
  /-- `BudgetExceeded` -/
  | exceeded (cap : ℕ)
  /-- `TypeError`: warnings that cannot be iterated. -/
  | notIterable (typeName : Text)

/-- The text of an error the packer raises itself. -/
def PackError.message (py : Interpreter) : PackError → Option Text
  | .refused error => some (error.message py)
  | .tooManyDigits limit => some (Text.format ["the document is not JSON-serialisable: Exceeds the ",
      "limit (", Text.ofNat limit, " digits) for integer string conversion; use ",
      "sys.set_int_max_str_digits() to increase the limit"])
  | .exceeded cap => some (Text.format ["the document cannot fit max_bytes=", Text.ofNat cap,
      " even with every trimmable collection empty; its metadata alone needs more room"])
  | .surrogate | .notIterable _ => none

/-- A document that fits its cap, with the account of what was cut. -/
structure BudgetResult where
  document : Dict Text Json
  byteSize : ℕ
  maxBytes : ℕ
  truncated : Bool
  dropped : Dict Text ℕ
  warnings : List Text

/-- The collections trimmed, in order. -/
def trimmable : List Text := ["nodes", "edges", "unresolved", "candidates", "warnings"]

section Code

variable (py : Interpreter)

/-- `_encoded_size(document)` -/
def encodedSize (document : Dict Text Json) : Except PackError ℕ :=
  match (Json.obj document.entries).dumps py with
  | none => .error (.tooManyDigits py.maxStrDigits)
  | some text =>
    match Utf8.encode text with
    | none => .error .surrogate
    | some bytes => .ok bytes.length

/-- `_fits(document, max_bytes)` -/
def fits (document : Dict Text Json) (cap : ℕ) : Except PackError Bool :=
  (encodedSize py document).map fun size => decide (size ≤ cap)

/-- What the trimming loop knows. -/
structure Trim where
  packed : Dict Text Json
  dropped : Dict Text ℕ
  oversized : List Text

/-- `{**packed, key: items[:count]}` -/
def cutTo (packed : Dict Text Json) (key : Text) (items : List Json) (count : ℕ) : Dict Text Json :=
  packed.set key (.arr (items.take count))

/-- The body of the loop over the trimmable collections. -/
def trimOne (cap : ℕ) (trim : Trim) (key : Text) : Except PackError Trim :=
  match trim.packed.get? key with
  | some (.arr items) =>
    if items = [] then .ok trim
    else do
      let low ← bisect (fun count => fits py (cutTo trim.packed key items count) cap)
        items.length 0 items.length
      if low < items.length then
        return {
          packed := cutTo trim.packed key items low
          dropped := trim.dropped.set key (items.length - low)
          oversized :=
            if low = 0 ∧ items.length = 1 then trim.oversized ++ [key] else trim.oversized }
      else return trim
  | _ => .ok trim

/-- Whether Python takes a value to be true. -/
def truthy : Json → Bool
  | .null => false
  | .bool value => value
  | .int value => decide (value ≠ 0)
  | .float value => decide (value.units ≠ 0)
  | .str value => decide (value ≠ [])
  | .arr items => !items.isEmpty
  | .obj entries => !entries.isEmpty

/-- `list(value)` -/
def pyList : Json → Except PackError (List Json)
  | .null => .error (.notIterable "NoneType")
  | .bool _ => .error (.notIterable "bool")
  | .int _ => .error (.notIterable "int")
  | .float _ => .error (.notIterable "float")
  | .str value => .ok (value.map fun c => .str [c])
  | .arr items => .ok items
  | .obj entries => .ok (entries.map fun item => .str item.1)

/-- `list(packed.get("warnings") or [])` -/
def existingWarnings (packed : Dict Text Json) : Except PackError (List Json) :=
  match packed.get? "warnings" with
  | none => .ok []
  | some value => if truthy value then pyList value else .ok []

/-- The notes about what was cut. -/
def packNotes (cap : ℕ) (trim : Trim) : List Text :=
  (if trim.dropped.keys = [] then [] else
    [Text.format ["max_bytes: ", Text.ofNat (trim.dropped.values.sum), " item(s) dropped from ",
      Text.join ", " (sortedBy id trim.dropped.keys), " to stay inside ", Text.ofNat cap,
      " bytes"]]) ++
  if trim.oversized = [] then [] else
    [Text.format ["oversized_item: a single item in ", Text.join ", " (sortedBy id trim.oversized),
      " did not fit the ", Text.ofNat cap, "-byte cap and was dropped rather than partially ",
      "serialised"]]

/-- `packed["truncated"] = True`, where something was cut. -/
def flagged (trim : Trim) : Dict Text Json :=
  if trim.dropped.keys = [] then trim.packed else trim.packed.set "truncated" (.bool true)

/-- The document with the notes recorded, or without them where they do not fit. -/
def record (cap : ℕ) (trim : Trim) : Except PackError (Dict Text Json) :=
  let packed := flagged trim
  let notes := packNotes cap trim
  if notes = [] then .ok packed
  else do
    let existing ← existingWarnings packed
    let noted := packed.set "warnings" (.arr (existing ++ notes.map .str))
    if ← fits py noted cap then return noted
    else return noted.set "warnings" (.arr existing)

/-- The packing after the trimming loop. -/
def packAfter (cap : ℕ) (trim : Trim) : Except PackError BudgetResult := do
  if !(← fits py trim.packed cap) then .error (.exceeded cap)
  else
    let packed ← record py cap trim
    let byteSize ← encodedSize py packed
    return {
      document := packed
      byteSize := byteSize
      maxBytes := cap
      truncated := !trim.dropped.keys.isEmpty
      dropped := trim.dropped
      warnings := packNotes cap trim }

/-- The packing of a document that does not fit as it is. -/
def packTrimmed (document : Dict Text Json) (cap : ℕ) : Except PackError BudgetResult := do
  let trim ← trimmable.foldlM (trimOne py cap) ⟨document, Dict.empty, []⟩
  packAfter py cap trim

/-- `pack_response(document, max_bytes=...)` -/
def packResponse (document : Dict Text Json) (maxBytes : Option ℤ) :
    Except PackError BudgetResult := do
  let cap ← (boundedInt maxBytes "max_bytes" minBytes Query.maxBytes defaultMaxBytes).mapError .refused
  if ← fits py document cap then
    let byteSize ← encodedSize py document
    return {
      document := document
      byteSize := byteSize
      maxBytes := cap
      truncated := false
      dropped := Dict.empty
      warnings := [] }
  else packTrimmed py document cap

end Code

end AxiomMcp.Query

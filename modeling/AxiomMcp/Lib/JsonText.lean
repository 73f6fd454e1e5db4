/-
**The compact JSON text of a value.**

`Json.dumps` is `json.dumps(value, ensure_ascii=False, separators=(",", ":"), sort_keys=True)`: it raises
where an integer has more digits than the interpreter prints, and the encoder after it where a string
holds a lone surrogate. `Json.Sendable` is the condition for neither.

The byte size of a value adds up over its members (`size_arr`, `size_obj`), whatever the order of an
object's items, and so do being clean of surrogates (`clean_arr`, `clean_obj`) and being sendable (`sendable_arr`,
`sendable_obj`).
-/

import AxiomMcp.Lib.Json
import AxiomMcp.Lib.Sorted
import AxiomMcp.Lib.Utf8

namespace AxiomMcp.Lib

namespace Json

/-! ### The text -/

/-- A character inside a JSON string. -/
def escapeChar (c : CodePoint) : Text :=
  if c = codePoint '"' then "\\\""
  else if c = codePoint '\\' then "\\\\"
  else if c = codePoint '\n' then "\\n"
  else if c = codePoint '\r' then "\\r"
  else if c = codePoint '\t' then "\\t"
  else if c.val = 0x0c then "\\f"
  else if c.val = 0x08 then "\\b"
  else if c.val < 0x20 then ("\\u" : Text) ++ Text.hexDigits 4 c.val
  else [c]

/-- A JSON string. -/
def quote (s : Text) : Text := ("\"" : Text) ++ s.flatMap escapeChar ++ ("\"" : Text)

/-- A JSON number of a float. -/
def floatText (py : Interpreter) (x : PyFloat) : Text :=
  if x.isNaN then "NaN"
  else if x.isFinite then py.floatRepr x
  else if x.negative then "-Infinity"
  else "Infinity"

/-- An item of a JSON object. -/
def itemText (item : Text × Text) : Text := quote item.1 ++ (":" : Text) ++ item.2

mutual
/-- The text of a value, its objects sorted by key. -/
def compactText (py : Interpreter) : Json → Text
  | .null => "null"
  | .bool value => if value then "true" else "false"
  | .int value => Text.ofInt value
  | .float value => floatText py value
  | .str value => quote value
  | .arr items => ("[" : Text) ++ Text.join "," (memberTexts py items) ++ ("]" : Text)
  | .obj entries =>
    ("\x7b" : Text) ++ Text.join "," ((sortedBy Prod.fst (entryTexts py entries)).map itemText) ++
      ("\x7d" : Text)

def memberTexts (py : Interpreter) : List Json → List Text
  | [] => []
  | item :: rest => compactText py item :: memberTexts py rest

def entryTexts (py : Interpreter) : JsonObject → List (Text × Text)
  | [] => []
  | (key, value) :: rest => (key, compactText py value) :: entryTexts py rest
end

mutual
/-- Every integer has no more digits than the interpreter prints. -/
def digitsFit (py : Interpreter) : Json → Bool
  | .int value =>
    py.maxStrDigits == 0 || decide ((Text.ofNat value.natAbs).length ≤ py.maxStrDigits)
  | .arr items => digitsFitItems py items
  | .obj entries => digitsFitEntries py entries
  | _ => true

def digitsFitItems (py : Interpreter) : List Json → Bool
  | [] => true
  | item :: rest => digitsFit py item && digitsFitItems py rest

def digitsFitEntries (py : Interpreter) : JsonObject → Bool
  | [] => true
  | (_, value) :: rest => digitsFit py value && digitsFitEntries py rest
end

/-- `json.dumps(value, ...)`, where it does not raise. -/
def dumps (py : Interpreter) (value : Json) : Option Text :=
  if value.digitsFit py then some (value.compactText py) else none

/-! ### Its size -/

section Size

variable (py : Interpreter)

/-- The byte size of a value. -/
def size (value : Json) : ℕ := Utf8.size (value.compactText py)

theorem memberTexts_eq (items : List Json) : memberTexts py items = items.map (compactText py) := by
  induction items with
  | nil => rfl
  | cons item rest ih => rw [memberTexts, ih, List.map_cons]

theorem entryTexts_eq (entries : JsonObject) :
    entryTexts py entries = entries.map fun item => (item.1, compactText py item.2) := by
  induction entries with
  | nil => rfl
  | cons item rest ih => rw [entryTexts, ih, List.map_cons]

/-- Joined parts take their own bytes and one for each comma. -/
theorem size_join (parts : List Text) :
    Utf8.size (Text.join "," parts) = (parts.map Utf8.size).sum + (parts.length - 1) := by
  rw [Text.join]
  cases parts with
  | nil => rfl
  | cons part rest =>
    induction rest generalizing part with
    | nil => simp
    | cons next rest ih =>
      have comma : Utf8.size ("," : Text) = 1 := rfl
      have later := ih next
      rw [List.intersperse_cons_cons, List.flatten_cons, List.flatten_cons, Utf8.size_append,
        Utf8.size_append, later, comma]
      simp only [List.map_cons, List.sum_cons, List.length_cons]
      omega

theorem size_arr (items : List Json) :
    size py (.arr items) = 2 + (items.map (size py)).sum + (items.length - 1) := by
  have brackets : Utf8.size ("[" : Text) = 1 ∧ Utf8.size ("]" : Text) = 1 := ⟨rfl, rfl⟩
  rw [size, compactText, Utf8.size_append, Utf8.size_append, size_join, memberTexts_eq,
    brackets.1, brackets.2, List.map_map, List.length_map]
  change 1 + ((items.map (size py)).sum + _) + 1 = _
  omega

/-- The byte size of an item of an object. -/
def itemSize (item : Text × Json) : ℕ := Utf8.size (quote item.1) + 1 + size py item.2

theorem size_obj (entries : JsonObject) :
    size py (.obj entries) = 2 + (entries.map (itemSize py)).sum + (entries.length - 1) := by
  have braces : Utf8.size ("\x7b" : Text) = 1 ∧ Utf8.size ("\x7d" : Text) = 1 := ⟨rfl, rfl⟩
  have texts : (((sortedBy Prod.fst (entryTexts py entries)).map itemText).map Utf8.size).Perm
      (entries.map (itemSize py)) := by
    have sizes : entries.map (itemSize py) =
        ((entryTexts py entries).map itemText).map Utf8.size := by
      rw [entryTexts_eq, List.map_map, List.map_map]
      refine List.map_congr_left fun item _ => ?_
      have colon : Utf8.size (":" : Text) = 1 := rfl
      simp only [Function.comp_apply, itemText, Utf8.size_append, colon]
      rfl
    rw [sizes]
    exact ((sortedBy_perm _ _).map _).map _
  rw [size, compactText, Utf8.size_append, Utf8.size_append, size_join, texts.sum_eq, braces.1,
    braces.2, List.length_map, length_sortedBy, entryTexts_eq, List.length_map]
  omega

end Size

/-! ### Sendable values -/

section Sendable

variable (py : Interpreter)

/-- A value that can be printed and encoded. -/
def Sendable (value : Json) : Prop :=
  value.digitsFit py = true ∧ Utf8.Clean (value.compactText py)

variable {py}

theorem clean_hexDigits (width n : ℕ) : Utf8.Clean (Text.hexDigits width n) := by
  induction width generalizing n with
  | zero => exact fun _ none => (List.not_mem_nil none).elim
  | succ width ih =>
    rw [Text.hexDigits, Utf8.clean_append]
    refine ⟨ih _, fun c here => ?_⟩
    rw [List.mem_singleton.mp here, CodePoint.isSurrogate, Text.hexDigit]
    split <;> simp <;> omega

/-- Only a surrogate is escaped to one. -/
theorem clean_escapeChar {c : CodePoint} :
    Utf8.Clean (escapeChar c) ↔ CodePoint.isSurrogate c = false := by
  have low : c.val < 0x80 → CodePoint.isSurrogate c = false := by
    intro ascii
    rw [CodePoint.isSurrogate, Bool.and_eq_false_iff]
    exact Or.inl (by simp; omega)
  have literal : ∀ {s : String}, c.val < 0x80 →
      (Utf8.Clean (Text.ofString s) ↔ CodePoint.isSurrogate c = false) := fun ascii =>
    iff_of_true (Utf8.clean_ofString _) (low ascii)
  unfold escapeChar
  split
  · next here => exact literal (by rw [here]; decide)
  split
  · next here => exact literal (by rw [here]; decide)
  split
  · next here => exact literal (by rw [here]; decide)
  split
  · next here => exact literal (by rw [here]; decide)
  split
  · next here => exact literal (by rw [here]; decide)
  split
  · next here => exact literal (by omega)
  split
  · next here => exact literal (by omega)
  split
  · next here =>
    refine iff_of_true (Utf8.clean_append.mpr ⟨Utf8.clean_ofString _, clean_hexDigits _ _⟩) (low ?_)
    omega
  · simp [Utf8.Clean]

theorem clean_quote {s : Text} : Utf8.Clean (quote s) ↔ Utf8.Clean s := by
  have mark : Utf8.Clean ("\"" : Text) := Utf8.clean_ofString "\""
  rw [quote, Utf8.clean_append, Utf8.clean_append]
  have body : Utf8.Clean (s.flatMap escapeChar) ↔ Utf8.Clean s := by
    constructor
    · intro clean c member
      exact clean_escapeChar.mp fun d inside =>
        clean d (List.mem_flatMap.mpr ⟨c, member, inside⟩)
    · intro clean d member
      obtain ⟨c, inside, escaped⟩ := List.mem_flatMap.mp member
      exact clean_escapeChar.mpr (clean c inside) d escaped
  rw [body]
  exact ⟨fun clean => clean.1.2, fun clean => ⟨⟨mark, clean⟩, mark⟩⟩

theorem digitsFitItems_iff {items : List Json} :
    digitsFitItems py items = true ↔ ∀ item ∈ items, item.digitsFit py = true := by
  induction items with
  | nil => simp [digitsFitItems]
  | cons item rest ih => rw [digitsFitItems, Bool.and_eq_true, ih, List.forall_mem_cons]

theorem digitsFitEntries_iff {entries : JsonObject} :
    digitsFitEntries py entries = true ↔ ∀ item ∈ entries, item.2.digitsFit py = true := by
  induction entries with
  | nil => simp [digitsFitEntries]
  | cons item rest ih => rw [digitsFitEntries, Bool.and_eq_true, ih, List.forall_mem_cons]

/-- A value whose text holds no lone surrogate. -/
def Clean (py : Interpreter) (value : Json) : Prop := Utf8.Clean (value.compactText py)

theorem clean_str {s : Text} : Clean py (.str s) ↔ Utf8.Clean s := by
  rw [Clean, compactText, clean_quote]

/-- A list is clean when its members are. -/
theorem clean_arr {items : List Json} : Clean py (.arr items) ↔ ∀ item ∈ items, Clean py item := by
  have opening : Utf8.Clean ("[" : Text) := Utf8.clean_ofString "["
  have closing : Utf8.Clean ("]" : Text) := Utf8.clean_ofString "]"
  rw [Clean, compactText, Utf8.clean_append, Utf8.clean_append, Utf8.clean_join (Utf8.clean_ofString _),
    memberTexts_eq, List.forall_mem_map]
  exact ⟨fun clean => clean.1.2, fun each => ⟨⟨opening, each⟩, closing⟩⟩

/-- An object is clean when its keys and values are. -/
theorem clean_obj {entries : JsonObject} :
    Clean py (.obj entries) ↔ ∀ item ∈ entries, Utf8.Clean item.1 ∧ Clean py item.2 := by
  have opening : Utf8.Clean ("\x7b" : Text) := Utf8.clean_ofString "\x7b"
  have closing : Utf8.Clean ("\x7d" : Text) := Utf8.clean_ofString "\x7d"
  have colon : Utf8.Clean (":" : Text) := Utf8.clean_ofString ":"
  have texts : (∀ part ∈ (sortedBy Prod.fst (entryTexts py entries)).map itemText,
      Utf8.Clean part) ↔ ∀ item ∈ entries, Utf8.Clean item.1 ∧ Clean py item.2 := by
    rw [List.forall_mem_map]
    simp only [mem_sortedBy, entryTexts_eq, List.forall_mem_map, itemText, Utf8.clean_append,
      clean_quote]
    exact forall₂_congr fun item _ => ⟨fun h => ⟨h.1.1, h.2⟩, fun h => ⟨⟨h.1, colon⟩, h.2⟩⟩
  rw [Clean, compactText, Utf8.clean_append, Utf8.clean_append, Utf8.clean_join (Utf8.clean_ofString _), texts]
  exact ⟨fun clean => clean.1.2, fun each => ⟨⟨opening, each⟩, closing⟩⟩

theorem sendable_iff {value : Json} : Sendable py value ↔ value.digitsFit py = true ∧ Clean py value := Iff.rfl

theorem sendable_str {s : Text} : Sendable py (.str s) ↔ Utf8.Clean s := by
  rw [sendable_iff, clean_str]
  exact and_iff_right rfl

/-- A list is sendable when its members are. -/
theorem sendable_arr {items : List Json} :
    Sendable py (.arr items) ↔ ∀ item ∈ items, Sendable py item := by
  rw [sendable_iff, digitsFit, digitsFitItems_iff, clean_arr]
  exact forall₂_and.symm

/-- An object is sendable when its keys and values are. -/
theorem sendable_obj {entries : JsonObject} :
    Sendable py (.obj entries) ↔
      ∀ item ∈ entries, Utf8.Clean item.1 ∧ Sendable py item.2 := by
  rw [sendable_iff, digitsFit, digitsFitEntries_iff, clean_obj]
  constructor
  · rintro ⟨digits, clean⟩ item member
    exact ⟨(clean item member).1, digits item member, (clean item member).2⟩
  · intro each
    exact ⟨fun item member => (each item member).2.1,
      fun item member => ⟨(each item member).1, (each item member).2.2⟩⟩

end Sendable

end Json

end AxiomMcp.Lib

/-
**Redaction of detail trees: `redact_details`.**

The details of an error are a tree of mappings, sequences and leaves. `redact_details` redacts its keys and its
strings, and bounds its depth, the width of each node and the length of each string.

* `Detail`, `redactDetails`: the tree and the function;
* `redactDetails_levels`, `redactDetails_narrow`: depth and width are bounded whatever the tree;
* `Faithful`, `DetailsKept`: what the answer keeps of the tree, and the bounds it has to meet;
* `redactDetails_kept_iff`: **it keeps it exactly when no redacted key is too long or written
  twice**, and the markers it needs are not too long.
-/

import AxiomMcp.Lib.JsonRound
import AxiomMcp.Security.Redaction

namespace AxiomMcp.Security

open AxiomMcp.Lib

/-- A value handed to an error: each key of a mapping by its `str`. -/
inductive Detail
  | mapping (items : List (Text × Detail))
  | sequence (items : List Detail)
  | text (value : Text)
  | null
  | bool (value : Bool)
  | int (value : ℤ)
  | float (value : PyFloat)
  /-- Anything else. -/
  | other

/-- `max_depth`, `max_items` and `max_string`. -/
structure DetailBounds where
  maxDepth : ℕ
  maxItems : ℕ
  maxString : ℕ

/-- `DEFAULT_MAX_DETAIL_DEPTH`, `DEFAULT_MAX_DETAIL_ITEMS` and `DEFAULT_MAX_DETAIL_STRING`. -/
def defaultDetailBounds : DetailBounds := ⟨6, 64, 2048⟩

/-- Stands for what is too deep. -/
def depthMarker : Text := "<redacted:detail_depth_exceeded>"

/-- Stands for the items of a sequence that are too many. -/
def itemsMarker : Text := "<redacted:detail_items_truncated>"

/-- Stands for a value that is no JSON. -/
def valueMarker : Text := "<redacted:detail_value_not_serializable>"

/-- The key that says that items of a mapping were too many. -/
def truncatedKey : Text := "_truncated"

section Details

variable (u : Unicode) (root : Option Text) (bounds : DetailBounds)

mutual
/-- `redact_details(value, root, depth=depth, ...)` -/
def redactDetails (depth : ℕ) (value : Detail) : Json :=
  if bounds.maxDepth ≤ depth then .str depthMarker
  else
    match value with
    | .mapping items => .obj (Dict.empty.assign (redactEntries depth bounds.maxItems items)).entries
    | .sequence items => .arr (redactItems depth bounds.maxItems items)
    | .text value => .str ((redactText u value root).take bounds.maxString)
    | .null => .null
    | .bool value => .bool value
    | .int value => .int value
    | .float value => .float value
    | .other => .str valueMarker

/-- The first `room` items of a sequence, and a marker if there are more. -/
def redactItems (depth room : ℕ) : List Detail → List Json
  | [] => []
  | item :: rest =>
    match room with
    | 0 => [.str itemsMarker]
    | room + 1 => redactDetails (depth + 1) item :: redactItems depth room rest

/-- The assignments of the loop over a mapping, in order. -/
def redactEntries (depth room : ℕ) : List (Text × Detail) → JsonObject
  | [] => []
  | (key, item) :: rest =>
    match room with
    | 0 => [(truncatedKey, .bool true)]
    | room + 1 => (redactText u key root, redactDetails (depth + 1) item) :: redactEntries depth room rest
end

/-! ### What the answer keeps -/

mutual
/-- An answer has the first items of every mapping and sequence, each in its place and one marker
after them if there are more, and every string redacted and then cut; what is too deep may be
anything. -/
def Faithful (depth : ℕ) (value : Detail) (answer : Json) : Prop :=
  if bounds.maxDepth ≤ depth then True
  else
    match value with
    | .mapping items => ∃ entries, answer = .obj entries ∧ FaithfulEntries depth bounds.maxItems items entries
    | .sequence items => ∃ answers, answer = .arr answers ∧ FaithfulItems depth bounds.maxItems items answers
    | .text value => answer = .str ((redactText u value root).take bounds.maxString)
    | .null => answer = .null
    | .bool value => answer = .bool value
    | .int value => answer = .int value
    | .float value => answer = .float value
    | .other => True

def FaithfulItems (depth room : ℕ) : List Detail → List Json → Prop
  | [], answers => answers = []
  | item :: items, answers =>
    match room with
    | 0 => answers.length = 1
    | room + 1 => ∃ answer rest, answers = answer :: rest ∧ Faithful (depth + 1) item answer ∧
        FaithfulItems depth room items rest

def FaithfulEntries (depth room : ℕ) : List (Text × Detail) → JsonObject → Prop
  | [], answers => answers = []
  | (_, item) :: items, answers =>
    match room with
    | 0 => answers.length = 1
    | room + 1 => ∃ answer rest, answers = answer :: rest ∧ Faithful (depth + 1) item answer.2 ∧
        FaithfulEntries depth room items rest
end

/-! ### When it can be kept -/

/-- The keys a mapping's loop writes, in order. -/
def writtenKeys (items : List (Text × Detail)) : List Text :=
  (items.take bounds.maxItems).map (fun item => redactText u item.1 root) ++
    if bounds.maxItems < items.length then [truncatedKey] else []

mutual
/-- No key the loops write is too long or written twice, and the markers that are needed are not too long. -/
def Fits (depth : ℕ) (value : Detail) : Prop :=
  if bounds.maxDepth ≤ depth then depthMarker.length ≤ bounds.maxString
  else
    match value with
    | .mapping items => (writtenKeys u root bounds items).Nodup ∧
        (∀ key ∈ writtenKeys u root bounds items, key.length ≤ bounds.maxString) ∧
        FitsEntries depth bounds.maxItems items
    | .sequence items => FitsItems depth bounds.maxItems items
    | .other => valueMarker.length ≤ bounds.maxString
    | _ => True

def FitsItems (depth room : ℕ) : List Detail → Prop
  | [] => True
  | item :: items =>
    match room with
    | 0 => itemsMarker.length ≤ bounds.maxString
    | room + 1 => Fits (depth + 1) item ∧ FitsItems depth room items

def FitsEntries (depth room : ℕ) : List (Text × Detail) → Prop
  | [] => True
  | (_, item) :: items =>
    match room with
    | 0 => True
    | room + 1 => Fits (depth + 1) item ∧ FitsEntries depth room items
end

end Details

mutual
/-- How deep a JSON value nests. -/
def levels : Json → ℕ
  | .arr items => levelsItems items + 1
  | .obj entries => levelsEntries entries + 1
  | _ => 0

def levelsItems : List Json → ℕ
  | [] => 0
  | item :: rest => max (levels item) (levelsItems rest)

def levelsEntries : JsonObject → ℕ
  | [] => 0
  | (_, value) :: rest => max (levels value) (levelsEntries rest)
end

mutual
/-- A property of every value in a JSON value. -/
def Everywhere (holds : Json → Prop) : Json → Prop
  | .arr items => holds (.arr items) ∧ EverywhereItems holds items
  | .obj entries => holds (.obj entries) ∧ EverywhereEntries holds entries
  | value => holds value

def EverywhereItems (holds : Json → Prop) : List Json → Prop
  | [] => True
  | item :: rest => Everywhere holds item ∧ EverywhereItems holds rest

def EverywhereEntries (holds : Json → Prop) : JsonObject → Prop
  | [] => True
  | (_, value) :: rest => Everywhere holds value ∧ EverywhereEntries holds rest
end

/-- A mapping or a sequence has at most so many entries. -/
def Narrow (most : ℕ) : Json → Prop
  | .arr items => items.length ≤ most
  | .obj entries => entries.length ≤ most
  | _ => True

/-- A string, and each key of a mapping, has at most so many characters. -/
def Short (most : ℕ) : Json → Prop
  | .str text => text.length ≤ most
  | .obj entries => ∀ entry ∈ entries, entry.1.length ≤ most
  | _ => True

/-- An answer for a tree: within its bounds, and with the tree's entries and strings. -/
structure DetailsKept (u : Unicode) (root : Option Text) (bounds : DetailBounds) (value : Detail) (answer : Json) :
    Prop where
  shallow : levels answer ≤ bounds.maxDepth
  narrow : Everywhere (Narrow (bounds.maxItems + 1)) answer
  short : Everywhere (Short bounds.maxString) answer
  distinct : answer.WellFormed
  faithful : Faithful u root bounds 0 value answer

/-! ### Values and their items -/

theorem levels_arr_le {items : List Json} {most : ℕ} :
    levels (.arr items) ≤ most + 1 ↔ ∀ item ∈ items, levels item ≤ most := by
  rw [levels, Nat.add_le_add_iff_right]
  induction items with
  | nil => simp [levelsItems]
  | cons item rest ih => rw [levelsItems, max_le_iff, ih, List.forall_mem_cons]

theorem levels_obj_le {entries : JsonObject} {most : ℕ} :
    levels (.obj entries) ≤ most + 1 ↔ ∀ entry ∈ entries, levels entry.2 ≤ most := by
  rw [levels, Nat.add_le_add_iff_right]
  induction entries with
  | nil => simp [levelsEntries]
  | cons entry rest ih => rw [levelsEntries, max_le_iff, ih, List.forall_mem_cons]

theorem everywhere_arr {holds : Json → Prop} {items : List Json} :
    Everywhere holds (.arr items) ↔ holds (.arr items) ∧ ∀ item ∈ items, Everywhere holds item := by
  have each : EverywhereItems holds items ↔ ∀ item ∈ items, Everywhere holds item := by
    induction items with
    | nil => simp [EverywhereItems]
    | cons item rest ih => rw [EverywhereItems, ih, List.forall_mem_cons]
  rw [Everywhere, each]

theorem everywhere_obj {holds : Json → Prop} {entries : JsonObject} :
    Everywhere holds (.obj entries) ↔ holds (.obj entries) ∧ ∀ entry ∈ entries, Everywhere holds entry.2 := by
  have each : EverywhereEntries holds entries ↔ ∀ entry ∈ entries, Everywhere holds entry.2 := by
    induction entries with
    | nil => simp [EverywhereEntries]
    | cons entry rest ih => rw [EverywhereEntries, ih, List.forall_mem_cons]
  rw [Everywhere, each]

/-! ### The bounds that always hold -/

/-- What every answer at a depth is: shallow, narrow, and with each key once. -/
structure Tame (bounds : DetailBounds) (depth : ℕ) (answer : Json) : Prop where
  shallow : levels answer ≤ bounds.maxDepth - depth
  narrow : Everywhere (Narrow (bounds.maxItems + 1)) answer
  distinct : answer.WellFormed

section Kept

variable {u : Unicode} {root : Option Text} {bounds : DetailBounds}

theorem tame_str (depth : ℕ) (text : Text) : Tame bounds depth (.str text) :=
  ⟨Nat.zero_le _, trivial, trivial⟩

theorem tame_arr {depth : ℕ} {answers : List Json} (inside : depth < bounds.maxDepth)
    (few : answers.length ≤ bounds.maxItems + 1) (each : ∀ answer ∈ answers, Tame bounds (depth + 1) answer) :
    Tame bounds depth (.arr answers) where
  shallow := by
    have room : bounds.maxDepth - depth = bounds.maxDepth - (depth + 1) + 1 := by omega
    rw [room, levels_arr_le]
    exact fun answer member => (each answer member).shallow
  narrow := everywhere_arr.mpr ⟨few, fun answer member => (each answer member).narrow⟩
  distinct := Json.wellFormed_arr.mpr fun answer member => (each answer member).distinct

theorem tame_obj {depth : ℕ} {answers : Dict Text Json} (inside : depth < bounds.maxDepth)
    (few : answers.size ≤ bounds.maxItems + 1) (each : ∀ entry ∈ answers.entries, Tame bounds (depth + 1) entry.2) :
    Tame bounds depth (.obj answers.entries) where
  shallow := by
    have room : bounds.maxDepth - depth = bounds.maxDepth - (depth + 1) + 1 := by omega
    rw [room, levels_obj_le]
    exact fun entry member => (each entry member).shallow
  narrow := everywhere_obj.mpr ⟨few, fun entry member => (each entry member).narrow⟩
  distinct := Json.wellFormed_obj.mpr ⟨answers.nodup, fun entry member => (each entry member).distinct⟩

theorem length_redactItems_le (depth room : ℕ) (items : List Detail) :
    (redactItems u root bounds depth room items).length ≤ room + 1 := by
  induction items generalizing room with
  | nil => exact Nat.zero_le _
  | cons item rest ih =>
    cases room with
    | zero => exact le_rfl
    | succ room =>
      rw [redactItems, List.length_cons]
      exact Nat.succ_le_succ (ih room)

theorem length_redactEntries_le (depth room : ℕ) (items : List (Text × Detail)) :
    (redactEntries u root bounds depth room items).length ≤ room + 1 := by
  induction items generalizing room with
  | nil => exact Nat.zero_le _
  | cons item rest ih =>
    cases room with
    | zero => exact le_rfl
    | succ room =>
      rw [redactEntries, List.length_cons]
      exact Nat.succ_le_succ (ih room)

mutual
/-- Every answer is tame, whatever the tree. -/
theorem redactDetails_tame (depth : ℕ) (value : Detail) :
    Tame bounds depth (redactDetails u root bounds depth value) := by
  unfold redactDetails
  split
  · exact tame_str depth _
  · next inside =>
    rw [not_le] at inside
    cases value with
    | mapping items =>
      refine tame_obj inside ?_ fun entry member => ?_
      · have size := Dict.size_assign_le Dict.empty (redactEntries u root bounds depth bounds.maxItems items)
        have few := @length_redactEntries_le u root bounds depth bounds.maxItems items
        rw [Dict.size_empty] at size
        omega
      · rcases Dict.mem_entries_assign member with wrong | assigned
        · cases wrong
        · exact redactEntries_tame depth bounds.maxItems items entry assigned
    | sequence items =>
      exact tame_arr inside (length_redactItems_le depth bounds.maxItems items)
        (redactItems_tame depth bounds.maxItems items)
    | text value => exact tame_str depth _
    | null => exact ⟨Nat.zero_le _, trivial, trivial⟩
    | bool value => exact ⟨Nat.zero_le _, trivial, trivial⟩
    | int value => exact ⟨Nat.zero_le _, trivial, trivial⟩
    | float value => exact ⟨Nat.zero_le _, trivial, trivial⟩
    | other => exact tame_str depth _

theorem redactItems_tame (depth room : ℕ) (items : List Detail) :
    ∀ answer ∈ redactItems u root bounds depth room items, Tame bounds (depth + 1) answer := by
  cases items with
  | nil =>
    intro answer wrong
    cases wrong
  | cons item rest =>
    cases room with
    | zero => exact List.forall_mem_singleton.mpr (tame_str _ _)
    | succ room =>
      rw [redactItems]
      exact List.forall_mem_cons.mpr ⟨redactDetails_tame (depth + 1) item, redactItems_tame depth room rest⟩

theorem redactEntries_tame (depth room : ℕ) (items : List (Text × Detail)) :
    ∀ entry ∈ redactEntries u root bounds depth room items, Tame bounds (depth + 1) entry.2 := by
  cases items with
  | nil =>
    intro entry wrong
    cases wrong
  | cons item rest =>
    cases room with
    | zero => exact List.forall_mem_singleton.mpr ⟨Nat.zero_le _, trivial, trivial⟩
    | succ room =>
      obtain ⟨key, value⟩ := item
      rw [redactEntries]
      exact List.forall_mem_cons.mpr ⟨redactDetails_tame (depth + 1) value, redactEntries_tame depth room rest⟩
end

/-! ### The strings and the entries -/

/-- The loop writes the keys of the first items, and the marker's if there are more. -/
theorem fst_redactEntries (depth room : ℕ) (items : List (Text × Detail)) :
    (redactEntries u root bounds depth room items).map Prod.fst =
      (items.take room).map (fun item => redactText u item.1 root) ++
        if room < items.length then [truncatedKey] else [] := by
  induction items generalizing room with
  | nil => simp [redactEntries]
  | cons item rest ih =>
    cases room with
    | zero => rfl
    | succ room =>
      rw [redactEntries, List.map_cons, ih, List.take_succ_cons, List.map_cons, List.length_cons]
      simp only [Nat.add_lt_add_iff_right, List.cons_append]

theorem fst_redactEntries_mapping (depth : ℕ) (items : List (Text × Detail)) :
    (redactEntries u root bounds depth bounds.maxItems items).map Prod.fst = writtenKeys u root bounds items :=
  fst_redactEntries depth bounds.maxItems items

theorem length_faithfulEntries {depth room : ℕ} {items : List (Text × Detail)} {answers : JsonObject}
    (faithful : FaithfulEntries u root bounds depth room items answers) :
    answers.length = (redactEntries u root bounds depth room items).length := by
  induction items generalizing room answers with
  | nil => exact congrArg List.length faithful
  | cons item items ih =>
    cases room with
    | zero => exact faithful
    | succ room =>
      obtain ⟨answer, rest, rfl, -, later⟩ := faithful
      rw [redactEntries, List.length_cons, List.length_cons, ih later]

theorem short_str {most : ℕ} {text : Text} : Everywhere (Short most) (.str text) ↔ text.length ≤ most := Iff.rfl

mutual
/-- A tree's answer is short and faithful exactly when the tree fits. -/
theorem redactDetails_iff (depth : ℕ) (value : Detail) :
    Everywhere (Short bounds.maxString) (redactDetails u root bounds depth value) ∧
        Faithful u root bounds depth value (redactDetails u root bounds depth value) ↔
      Fits u root bounds depth value := by
  unfold redactDetails Faithful Fits
  split
  · exact and_iff_left trivial
  · next inside =>
    cases value with
    | mapping items =>
      have entries := redactEntries_iff depth bounds.maxItems items
      have keys := @fst_redactEntries_mapping u root bounds depth items
      have written : (∀ key ∈ writtenKeys u root bounds items, key.length ≤ bounds.maxString) ↔
          ∀ entry ∈ redactEntries u root bounds depth bounds.maxItems items, entry.1.length ≤ bounds.maxString := by
        rw [← keys, List.forall_mem_map]
      dsimp only
      rw [everywhere_obj, written, ← entries]
      constructor
      · rintro ⟨⟨short, each⟩, _, same, faithful⟩
        obtain rfl := Json.obj.inj same
        have full := length_faithfulEntries faithful
        have distinct : (writtenKeys u root bounds items).Nodup := by
          have once := Dict.nodup_of_size_assign (full.trans (Nat.zero_add _).symm)
          rw [Dict.keys_empty, List.nil_append, keys] at once
          exact once
        have all := Dict.entries_assign (d := Dict.empty)
          (l := redactEntries u root bounds depth bounds.maxItems items) (by rw [keys]; exact distinct)
        rw [all] at short each faithful
        exact ⟨distinct, short, each, faithful⟩
      · rintro ⟨distinct, short, each, faithful⟩
        have all := Dict.entries_assign (d := Dict.empty)
          (l := redactEntries u root bounds depth bounds.maxItems items) (by rw [keys]; exact distinct)
        rw [all]
        exact ⟨⟨short, each⟩, _, rfl, faithful⟩
    | sequence items =>
      have answers := redactItems_iff depth bounds.maxItems items
      dsimp only
      rw [everywhere_arr, ← answers]
      constructor
      · rintro ⟨⟨-, each⟩, _, same, faithful⟩
        obtain rfl := Json.arr.inj same
        exact ⟨each, faithful⟩
      · rintro ⟨each, faithful⟩
        exact ⟨⟨trivial, each⟩, _, rfl, faithful⟩
    | text value => exact iff_true_intro ⟨short_str.mpr (List.length_take_le _ _), rfl⟩
    | null => exact iff_true_intro ⟨trivial, rfl⟩
    | bool value => exact iff_true_intro ⟨trivial, rfl⟩
    | int value => exact iff_true_intro ⟨trivial, rfl⟩
    | float value => exact iff_true_intro ⟨trivial, rfl⟩
    | other => exact and_iff_left trivial

theorem redactItems_iff (depth room : ℕ) (items : List Detail) :
    (∀ answer ∈ redactItems u root bounds depth room items, Everywhere (Short bounds.maxString) answer) ∧
        FaithfulItems u root bounds depth room items (redactItems u root bounds depth room items) ↔
      FitsItems u root bounds depth room items := by
  cases items with
  | nil => exact iff_true_intro ⟨fun _ wrong => (nomatch wrong), rfl⟩
  | cons item rest =>
    cases room with
    | zero =>
      unfold redactItems FaithfulItems FitsItems
      rw [List.forall_mem_singleton]
      exact and_iff_left rfl
    | succ room =>
      have first := redactDetails_iff (depth + 1) item
      have later := redactItems_iff depth room rest
      unfold redactItems FaithfulItems FitsItems
      dsimp only
      rw [List.forall_mem_cons, ← first, ← later]
      constructor
      · rintro ⟨⟨short, each⟩, _, _, same, faithful, others⟩
        obtain ⟨rfl, rfl⟩ := List.cons.inj same
        exact ⟨⟨short, faithful⟩, each, others⟩
      · rintro ⟨⟨short, faithful⟩, each, others⟩
        exact ⟨⟨short, each⟩, _, _, rfl, faithful, others⟩

theorem redactEntries_iff (depth room : ℕ) (items : List (Text × Detail)) :
    (∀ entry ∈ redactEntries u root bounds depth room items, Everywhere (Short bounds.maxString) entry.2) ∧
        FaithfulEntries u root bounds depth room items (redactEntries u root bounds depth room items) ↔
      FitsEntries u root bounds depth room items := by
  cases items with
  | nil => exact iff_true_intro ⟨fun _ wrong => (nomatch wrong), rfl⟩
  | cons item rest =>
    cases room with
    | zero =>
      unfold redactEntries FaithfulEntries FitsEntries
      rw [List.forall_mem_singleton]
      exact iff_true_intro ⟨trivial, rfl⟩
    | succ room =>
      obtain ⟨key, value⟩ := item
      have first := redactDetails_iff (depth + 1) value
      have later := redactEntries_iff depth room rest
      unfold redactEntries FaithfulEntries FitsEntries
      dsimp only
      rw [List.forall_mem_cons, ← first, ← later]
      constructor
      · rintro ⟨⟨short, each⟩, _, _, same, faithful, others⟩
        obtain ⟨rfl, rfl⟩ := List.cons.inj same
        exact ⟨⟨short, faithful⟩, each, others⟩
      · rintro ⟨⟨short, faithful⟩, each, others⟩
        exact ⟨⟨short, each⟩, _, _, rfl, faithful, others⟩
end

/-- **Details are kept exactly when they fit.** For every tree and all bounds, the answer is shallow and narrow; its
keys and strings are short, and it has every entry and string of the tree in its place, exactly when no key that is
written is too long or written twice in its mapping, and the markers that are needed are not too long. -/
theorem redactDetails_kept_iff (u : Unicode) (root : Option Text) (bounds : DetailBounds) (value : Detail) :
    DetailsKept u root bounds value (redactDetails u root bounds 0 value) ↔ Fits u root bounds 0 value := by
  have tame := @redactDetails_tame u root bounds 0 value
  rw [← redactDetails_iff]
  constructor
  · intro kept
    exact ⟨kept.short, kept.faithful⟩
  · rintro ⟨short, faithful⟩
    exact ⟨tame.shallow, tame.narrow, short, tame.distinct, faithful⟩

end Kept

/-! ### Two keys, one placeholder -/

/-- Two home directories and what is in them. -/
def twoPaths : Detail := .mapping [("/home/a", .int 1), ("/home/b", .int 2)]

/-- Both keys become the placeholder of a path, and the first entry is gone. -/
theorem redactDetails_twoPaths :
    ¬ DetailsKept asciiOnly none defaultDetailBounds twoPaths
      (redactDetails asciiOnly none defaultDetailBounds 0 twoPaths) := by
  intro kept
  have fits := redactDetails_iff 0 twoPaths |>.mp ⟨kept.short, kept.faithful⟩
  have twice : ¬ (writtenKeys asciiOnly none defaultDetailBounds
      [("/home/a", .int 1), ("/home/b", .int 2)]).Nodup := by decide +kernel
  exact twice fits.1

end AxiomMcp.Security

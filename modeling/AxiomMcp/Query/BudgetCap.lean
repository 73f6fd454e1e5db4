/-
**When a packed response stays inside its cap.**

The packer checks the fit before it records what it cut, and not again where it takes its notes back. The
record may then cost more than the room that is left: the flag `truncated` where the document has none,
and a list of warnings where it has none.

* `trimmed` is the document with its collections cut, each to the longest prefix that fits; the binary
  search of the code finds that prefix, since a shorter prefix never takes more bytes (`trimOne_ok`).
* `packResponse_capped_iff` — **a packed document is within its cap if and only if the trimmed document
  still fits with the flag set and its warnings as a list**, or nothing had to be cut, or the packer
  raises.
-/

import AxiomMcp.Query.Budget
import AxiomMcp.Lib.Fallible
import Mathlib.Algebra.Order.BigOperators.Group.List
import Mathlib.Algebra.Order.Ring.Nat

namespace AxiomMcp.Query

open AxiomMcp.Lib

variable {py : Interpreter}

/-! ### Sizes of documents -/

/-- The byte size of a document. -/
def docSize (py : Interpreter) (document : Dict Text Json) : ℕ := (Json.obj document.entries).size py

/-- A document that can be printed and encoded. -/
def DocSendable (py : Interpreter) (document : Dict Text Json) : Prop :=
  (Json.obj document.entries).Sendable py

theorem encodedSize_ok {document : Dict Text Json} (sendable : DocSendable py document) :
    encodedSize py document = .ok (docSize py document) := by
  rw [encodedSize, Json.dumps, if_pos sendable.1]
  dsimp only
  rw [Utf8.encode_of_clean sendable.2]
  rfl

theorem sendable_of_encodedSize {document : Dict Text Json} {size : ℕ}
    (measured : encodedSize py document = .ok size) : DocSendable py document := by
  rw [encodedSize, Json.dumps] at measured
  by_cases digits : (Json.obj document.entries).digitsFit py = true
  · rw [if_pos digits] at measured
    dsimp only at measured
    by_cases clean : Utf8.Clean ((Json.obj document.entries).compactText py)
    · exact ⟨digits, clean⟩
    · rw [Utf8.encode_of_not_clean clean] at measured
      cases measured
  · rw [if_neg digits] at measured
    cases measured

theorem fits_ok {document : Dict Text Json} (sendable : DocSendable py document) (cap : ℕ) :
    fits py document cap = .ok (decide (docSize py document ≤ cap)) := by
  rw [fits, encodedSize_ok sendable]
  rfl

theorem sendable_set {document : Dict Text Json} {key : Text} {value : Json}
    (sendable : DocSendable py document) (clean : Utf8.Clean key) (sent : value.Sendable py) :
    DocSendable py (document.set key value) := by
  refine Json.sendable_obj.mpr fun item member => ?_
  rcases Dict.mem_entries_set member with rfl | old
  · exact ⟨clean, sent⟩
  · exact Json.sendable_obj.mp sendable item old

/-- What is stored under a key is sendable. -/
theorem sendable_get? {document : Dict Text Json} {key : Text} {value : Json}
    (sendable : DocSendable py document) (found : document.get? key = some value) :
    value.Sendable py :=
  (Json.sendable_obj.mp sendable _ (Dict.get?_eq_some.mp found)).2

/-- A smaller value under a key makes a smaller document. -/
theorem docSize_set_le {document : Dict Text Json} {key : Text} {small large : Json}
    (smaller : small.size py ≤ large.size py) :
    docSize py (document.set key small) ≤ docSize py (document.set key large) := by
  have item : Json.itemSize py (key, small) ≤ Json.itemSize py (key, large) :=
    Nat.add_le_add_left smaller _
  rw [docSize, docSize, Json.size_obj, Json.size_obj]
  by_cases stored : key ∈ document.keys
  · rw [Dict.entries_set_of_mem stored, Dict.entries_set_of_mem stored, List.map_map, List.map_map,
      List.length_map, List.length_map]
    have sums : (document.entries.map
        (Json.itemSize py ∘ fun item => if item.1 = key then (key, small) else item)).sum ≤
          (document.entries.map
            (Json.itemSize py ∘ fun item => if item.1 = key then (key, large) else item)).sum := by
      refine List.sum_le_sum fun other _ => ?_
      by_cases here : other.1 = key
      · simpa only [Function.comp_apply, if_pos here] using item
      · simp only [Function.comp_apply, if_neg here, le_refl]
    omega
  · rw [Dict.entries_set_of_notMem stored, Dict.entries_set_of_notMem stored, List.map_append,
      List.map_append, List.sum_append, List.sum_append, List.length_append, List.length_append]
    simp only [List.map_cons, List.map_nil, List.sum_cons, List.sum_nil, List.length_cons,
      List.length_nil]
    omega

/-- More members make a larger list. -/
theorem size_arr_le (items more : List Json) :
    (Json.arr items).size py ≤ (Json.arr (items ++ more)).size py := by
  rw [Json.size_arr, Json.size_arr, List.map_append, List.sum_append, List.length_append]
  omega

/-! ### Trimming -/

/-- A document with one collection cut to its longest prefix that fits, or to none. -/
def cutOne (py : Interpreter) (cap : ℕ) (packed : Dict Text Json) (key : Text) : Dict Text Json :=
  match packed.get? key with
  | some (.arr items) =>
    cutTo packed key items
      (Nat.findGreatest (fun count => docSize py (cutTo packed key items count) ≤ cap) items.length)
  | _ => packed

/-- A document with its trimmable collections cut, in order. -/
def trimmed (py : Interpreter) (cap : ℕ) (document : Dict Text Json) : Dict Text Json :=
  trimmable.foldl (cutOne py cap) document

/-- What the trimming loop keeps. -/
structure Trim.Sound (py : Interpreter) (trim : Trim) : Prop where
  sendable : DocSendable py trim.packed
  dropped : ∀ key ∈ trim.dropped.keys, Utf8.Clean key
  oversized : ∀ key ∈ trim.oversized, Utf8.Clean key

theorem sendable_cutTo {packed : Dict Text Json} {key : Text} {items : List Json}
    (sendable : DocSendable py packed) (clean : Utf8.Clean key)
    (found : packed.get? key = some (.arr items)) (count : ℕ) :
    DocSendable py (cutTo packed key items count) := by
  refine sendable_set sendable clean (Json.sendable_arr.mpr fun item member => ?_)
  exact Json.sendable_arr.mp (sendable_get? sendable found) item (List.mem_of_mem_take member)

/-- A shorter prefix takes no more bytes. -/
theorem docSize_cutTo_le {packed : Dict Text Json} {key : Text} {items : List Json} {m n : ℕ}
    (shorter : m ≤ n) :
    docSize py (cutTo packed key items m) ≤ docSize py (cutTo packed key items n) := by
  have split : items.take m ++ (items.take n).drop m = items.take n := by
    have same : (items.take n).take m = items.take m := by
      rw [List.take_take, Nat.min_eq_left shorter]
    rw [← same]
    exact List.take_append_drop m _
  refine docSize_set_le ?_
  rw [← split]
  exact size_arr_le _ _

/-- One collection: the code cuts it to the longest prefix that fits. -/
theorem trimOne_ok (cap : ℕ) {trim : Trim} {key : Text} (sound : trim.Sound py)
    (clean : Utf8.Clean key) : ∃ next, trimOne py cap trim key = .ok next ∧
      next.packed = cutOne py cap trim.packed key ∧ next.Sound py ∧
      (next.dropped.keys = [] → trim.dropped.keys = [] ∧ next.packed = trim.packed) := by
  have unchanged : cutOne py cap trim.packed key = trim.packed →
      ∃ next, (Except.ok trim : Except PackError Trim) = .ok next ∧
        next.packed = cutOne py cap trim.packed key ∧ next.Sound py ∧
        (next.dropped.keys = [] → trim.dropped.keys = [] ∧ next.packed = trim.packed) :=
    fun equal => ⟨trim, rfl, equal.symm, sound, fun none => ⟨none, rfl⟩⟩
  unfold trimOne
  split
  · next items found =>
    have cut : cutOne py cap trim.packed key = cutTo trim.packed key items
        (Nat.findGreatest (fun count => docSize py (cutTo trim.packed key items count) ≤ cap)
          items.length) := by
      rw [cutOne, found]
    by_cases none : items = []
    · rw [if_pos none]
      refine unchanged ?_
      rw [cut]
      subst none
      exact Dict.set_self found
    · rw [if_neg none, bisect_eq (fun count _ =>
          fits_ok (sendable_cutTo sound.sendable clean found count) cap)
        fun m n shorter _ accepted => (docSize_cutTo_le shorter).trans accepted]
      generalize Nat.findGreatest (fun count => docSize py (cutTo trim.packed key items count) ≤ cap)
        items.length = low at cut ⊢
      change ∃ next, (if low < items.length then _ else _) = _ ∧ _
      by_cases short : low < items.length
      · rw [if_pos short]
        refine ⟨_, rfl, cut.symm, ⟨sendable_cutTo sound.sendable clean found low, ?_, ?_⟩, ?_⟩
        · intro other member
          rcases Dict.mem_keys_set.mp member with old | rfl
          · exact sound.dropped other old
          · exact clean
        · intro other member
          dsimp only at member
          split at member
          · rcases List.mem_append.mp member with old | last
            · exact sound.oversized other old
            · exact List.mem_singleton.mp last ▸ clean
          · exact sound.oversized other member
        · intro empty
          have stored : key ∈ (trim.dropped.set key (items.length - low)).keys :=
            Dict.mem_keys_set.mpr (Or.inr rfl)
          dsimp only at empty
          rw [empty] at stored
          exact (List.not_mem_nil stored).elim
      · rw [if_neg short]
        refine unchanged ?_
        rw [cut, cutTo, List.take_of_length_le (not_lt.mp short)]
        exact Dict.set_self found
  · next other =>
    refine unchanged ?_
    unfold cutOne
    split
    · next items found => exact (other items found).elim
    · rfl

/-- All collections. -/
theorem trimAll_ok (cap : ℕ) (keys : List Text) : ∀ {trim : Trim}, trim.Sound py →
    (∀ key ∈ keys, Utf8.Clean key) → ∃ last, keys.foldlM (trimOne py cap) trim = .ok last ∧
      last.packed = keys.foldl (cutOne py cap) trim.packed ∧ last.Sound py ∧
      (last.dropped.keys = [] → trim.dropped.keys = [] ∧ last.packed = trim.packed) := by
  induction keys with
  | nil => exact fun {trim} sound _ => ⟨trim, rfl, rfl, sound, fun none => ⟨none, rfl⟩⟩
  | cons key rest ih =>
    intro trim sound clean
    obtain ⟨next, done, packed, sound', unchanged⟩ := trimOne_ok cap sound
      (clean key List.mem_cons_self)
    obtain ⟨last, later, packed', sound'', unchanged'⟩ := ih sound' fun other member =>
      clean other (List.mem_cons_of_mem _ member)
    refine ⟨last, ?_, ?_, sound'', fun none => ?_⟩
    · rw [List.foldlM_cons, done]
      exact later
    · rw [packed', List.foldl_cons, packed]
    · obtain ⟨noneHere, sameHere⟩ := unchanged' none
      obtain ⟨noneBefore, sameBefore⟩ := unchanged noneHere
      exact ⟨noneBefore, sameHere.trans sameBefore⟩

/-! ### The record -/

/-- Warnings made a list of are sendable. -/
theorem sendable_existing {packed : Dict Text Json} (sendable : DocSendable py packed)
    {existing : List Json} (listed : existingWarnings packed = .ok existing) :
    ∀ item ∈ existing, item.Sendable py := by
  have none : ∀ item ∈ ([] : List Json), item.Sendable py :=
    fun item member => (List.not_mem_nil member).elim
  unfold existingWarnings at listed
  split at listed
  · cases listed
    exact none
  · next value found =>
    have sent := sendable_get? sendable found
    split at listed
    · cases value with
      | null | bool | int | float => cases listed
      | str text =>
        cases listed
        intro item member
        obtain ⟨c, inside, rfl⟩ := List.mem_map.mp member
        refine Json.sendable_str.mpr fun d here => ?_
        exact Json.sendable_str.mp sent d (List.mem_singleton.mp here ▸ inside)
      | arr items =>
        cases listed
        exact Json.sendable_arr.mp sent
      | obj entries =>
        cases listed
        intro item member
        obtain ⟨entry, inside, rfl⟩ := List.mem_map.mp member
        exact Json.sendable_str.mpr (Json.sendable_obj.mp sent entry inside).1
    · cases listed
      exact none

/-- The notes are sendable. -/
theorem sendable_notes {cap : ℕ} {trim : Trim} (sound : trim.Sound py) :
    ∀ item ∈ (packNotes cap trim).map Json.str, item.Sendable py := by
  have comma : Utf8.Clean (", " : Text) := Utf8.clean_ofString ", "
  have literal : ∀ s : String, Utf8.Clean (s : Text) := Utf8.clean_ofString
  have number : ∀ n, Utf8.Clean (Text.ofNat n) := fun n => Utf8.clean_ofString _
  intro item member
  obtain ⟨note, inside, rfl⟩ := List.mem_map.mp member
  refine Json.sendable_str.mpr ?_
  rcases List.mem_append.mp inside with left | right
  · split at left
    · exact (List.not_mem_nil left).elim
    · rw [List.mem_singleton.mp left, Text.format, Utf8.clean_flatten]
      simp only [List.forall_mem_cons, literal, number, Utf8.clean_join comma, true_and]
      exact ⟨fun key here => sound.dropped key ((mem_sortedBy _ _).mp here),
        fun part none => (List.not_mem_nil none).elim⟩
  · split at right
    · exact (List.not_mem_nil right).elim
    · rw [List.mem_singleton.mp right, Text.format, Utf8.clean_flatten]
      simp only [List.forall_mem_cons, literal, number, Utf8.clean_join comma, true_and]
      exact ⟨fun key here => sound.oversized key ((mem_sortedBy _ _).mp here),
        fun part none => (List.not_mem_nil none).elim⟩

/-- A document with the flag set and a list of warnings. -/
def flaggedWith (packed : Dict Text Json) (warnings : List Json) : Dict Text Json :=
  (packed.set "truncated" (.bool true)).set "warnings" (.arr warnings)

theorem sendable_flaggedWith {packed : Dict Text Json} {warnings : List Json}
    (sendable : DocSendable py packed) (sent : ∀ item ∈ warnings, item.Sendable py) :
    DocSendable py (flaggedWith packed warnings) := by
  have flag : (Json.bool true).Sendable py := ⟨rfl, Utf8.clean_ofString "true"⟩
  exact sendable_set (sendable_set sendable (Utf8.clean_ofString _) flag) (Utf8.clean_ofString _)
    (Json.sendable_arr.mpr sent)

/-- Where something was cut, the record is the noted document if it fits, and else the document with
the flag and its warnings as a list. -/
theorem record_ok {cap : ℕ} {trim : Trim} (sound : trim.Sound py) (cut : trim.dropped.keys ≠ []) :
    record py cap trim = (existingWarnings trim.packed).map fun existing =>
      if docSize py (flaggedWith trim.packed (existing ++ (packNotes cap trim).map Json.str)) ≤ cap
      then flaggedWith trim.packed (existing ++ (packNotes cap trim).map Json.str)
      else flaggedWith trim.packed existing := by
  have notes : packNotes cap trim ≠ [] := by
    rw [packNotes, if_neg cut]
    exact List.cons_ne_nil _ _
  have listed : existingWarnings (flagged trim) = existingWarnings trim.packed := by
    rw [existingWarnings, existingWarnings, flagged, if_neg cut, Dict.get?_set, if_neg (by decide)]
  unfold record
  dsimp only
  rw [if_neg notes, listed]
  cases found : existingWarnings trim.packed with
  | error refused => rfl
  | ok existing =>
    have sent : ∀ item ∈ existing ++ (packNotes cap trim).map Json.str, item.Sendable py := by
      intro item member
      rcases List.mem_append.mp member with old | new
      · exact sendable_existing sound.sendable found item old
      · exact sendable_notes sound item new
    have noted : (flagged trim).set "warnings" (.arr (existing ++ (packNotes cap trim).map Json.str)) =
        flaggedWith trim.packed (existing ++ (packNotes cap trim).map Json.str) := by
      rw [flagged, if_neg cut, flaggedWith]
    change (fits py _ cap >>= fun _ => _) = _
    rw [noted, fits_ok (sendable_flaggedWith sound.sendable sent)]
    by_cases small : docSize py (flaggedWith trim.packed
        (existing ++ (packNotes cap trim).map Json.str)) ≤ cap
    · rw [decide_eq_true small]
      simp only [Except.map, if_pos small]
      rfl
    · rw [decide_eq_false small]
      simp only [Except.map, if_neg small]
      exact congrArg Except.ok (Dict.set_set _ _ _ _)

/-! ### The cap -/

/-- The document has to be cut, can be cut enough, and then grows over the cap by the record. -/
structure Overgrown (py : Interpreter) (document : Dict Text Json) (cap : ℕ) : Prop where
  sendable : DocSendable py document
  large : cap < docSize py document
  trims : docSize py (trimmed py cap document) ≤ cap
  grows : ∃ existing, existingWarnings (trimmed py cap document) = .ok existing ∧
    cap < docSize py (flaggedWith (trimmed py cap document) existing)

/-- Notes only add to a document. -/
theorem docSize_flaggedWith_le (packed : Dict Text Json) (existing notes : List Json) :
    docSize py (flaggedWith packed existing) ≤ docSize py (flaggedWith packed (existing ++ notes)) :=
  docSize_set_le (size_arr_le existing notes)

/-- What is packed of a document that is too large: it raises, or returns one document. -/
theorem packTrimmed_outcome {document : Dict Text Json} {cap : ℕ}
    (sendable : DocSendable py document) (large : cap < docSize py document) :
    (∃ raised, packTrimmed py document cap = .error raised ∧ ¬ Overgrown py document cap ∧
        (raised = .exceeded cap ∨ existingWarnings (trimmed py cap document) = .error raised)) ∨
      ∃ existing notes result, packTrimmed py document cap = .ok result ∧
        docSize py (trimmed py cap document) ≤ cap ∧
        existingWarnings (trimmed py cap document) = .ok existing ∧
        encodedSize py result.document = .ok result.byteSize ∧
        result.document =
          if docSize py (flaggedWith (trimmed py cap document) (existing ++ notes)) ≤ cap
          then flaggedWith (trimmed py cap document) (existing ++ notes)
          else flaggedWith (trimmed py cap document) existing := by
  have start : Trim.Sound py ⟨document, Dict.empty, []⟩ :=
    ⟨sendable, fun key none => (List.not_mem_nil none).elim,
      fun key none => (List.not_mem_nil none).elim⟩
  have literal : ∀ key ∈ trimmable, Utf8.Clean key := by
    simp only [trimmable, List.forall_mem_cons, Utf8.clean_ofString, true_and]
    exact fun key none => (List.not_mem_nil none).elim
  obtain ⟨trim, done, packed, sound, unchanged⟩ := trimAll_ok cap trimmable start literal
  change trim.packed = trimmed py cap document at packed
  have called : packTrimmed py document cap = packAfter py cap trim := by
    rw [packTrimmed, done]
    rfl
  rw [called, packAfter, fits_ok sound.sendable, ← packed]
  by_cases small : docSize py trim.packed ≤ cap
  · have cut : trim.dropped.keys ≠ [] := by
      intro none
      rw [(unchanged none).2] at small
      exact not_le.mpr large small
    rw [decide_eq_true small, record_ok sound cut]
    cases listed : existingWarnings trim.packed with
    | error raised =>
      refine Or.inl ⟨raised, rfl, fun beyond => ?_, Or.inr rfl⟩
      obtain ⟨existing, found, _⟩ := beyond.grows
      rw [← packed, listed] at found
      cases found
    | ok existing =>
      have sent := sendable_existing sound.sendable listed
      have noted : ∀ item ∈ existing ++ (packNotes cap trim).map Json.str, item.Sendable py := by
        intro item member
        rcases List.mem_append.mp member with old | new
        · exact sent item old
        · exact sendable_notes sound item new
      have final : DocSendable py
          (if docSize py (flaggedWith trim.packed (existing ++ (packNotes cap trim).map Json.str)) ≤ cap
            then flaggedWith trim.packed (existing ++ (packNotes cap trim).map Json.str)
            else flaggedWith trim.packed existing) := by
        split
        · exact sendable_flaggedWith sound.sendable noted
        · exact sendable_flaggedWith sound.sendable sent
      refine Or.inr ⟨existing, (packNotes cap trim).map Json.str,
        ⟨_, docSize py _, cap, !trim.dropped.keys.isEmpty, trim.dropped, packNotes cap trim⟩, ?_,
        small, rfl, encodedSize_ok final, rfl⟩
      change (encodedSize py _ >>= fun _ => _) = _
      rw [encodedSize_ok final]
      rfl
  · rw [decide_eq_false small]
    refine Or.inl ⟨.exceeded cap, rfl, fun beyond => ?_, Or.inl rfl⟩
    have trims := beyond.trims
    rw [← packed] at trims
    exact small trims

/-- **A packed document is within its cap unless the record outgrows it.** -/
theorem packResponse_capped_iff (py : Interpreter) (document : Dict Text Json) {maxBytes : Option ℤ}
    {cap : ℕ}
    (admitted : boundedInt maxBytes "max_bytes" minBytes Query.maxBytes defaultMaxBytes = .ok cap) :
    (∀ result, packResponse py document maxBytes = .ok result →
      encodedSize py result.document = .ok result.byteSize ∧ result.byteSize ≤ cap) ↔
      ¬ Overgrown py document cap := by
  have called : packResponse py document maxBytes = (do
      if ← fits py document cap then
        let byteSize ← encodedSize py document
        return ⟨document, byteSize, cap, false, Dict.empty, []⟩
      else packTrimmed py document cap) := by
    rw [packResponse, admitted]
    rfl
  rw [called]
  by_cases sendable : DocSendable py document
  · rw [fits_ok sendable]
    by_cases small : docSize py document ≤ cap
    · rw [decide_eq_true small]
      refine iff_of_true (fun result done => ?_) fun beyond => not_le.mpr beyond.large small
      have packed : result = ⟨document, docSize py document, cap, false, Dict.empty, []⟩ := by
        change (encodedSize py document >>= fun _ => _) = _ at done
        obtain ⟨byteSize, measured, same⟩ := bind_eq_ok.mp done
        rw [encodedSize_ok sendable] at measured
        cases measured
        exact (Except.ok.inj same).symm
      rw [packed]
      exact ⟨encodedSize_ok sendable, small⟩
    · rw [decide_eq_false small]
      change (∀ result, packTrimmed py document cap = .ok result → _) ↔ _
      rcases packTrimmed_outcome sendable (not_le.mp small) with
        ⟨raised, done, fine, _⟩ | ⟨existing, notes, result, done, trims, listed, measured, packed⟩
      · refine iff_of_true (fun result returned => ?_) fine
        rw [done] at returned
        cases returned
      · rw [done]
        have size : result.byteSize = docSize py result.document := by
          have sent := sendable_of_encodedSize measured
          rw [encodedSize_ok sent] at measured
          exact (Except.ok.inj measured).symm
        constructor
        · rintro capped ⟨_, _, _, existing', listed', grows⟩
          rw [listed] at listed'
          cases listed'
          have within := (capped result rfl).2
          have notesTooLarge : ¬ docSize py
              (flaggedWith (trimmed py cap document) (existing ++ notes)) ≤ cap :=
            fun noted => not_le.mpr grows ((docSize_flaggedWith_le _ _ _).trans noted)
          rw [size, packed, if_neg notesTooLarge] at within
          exact not_le.mpr grows within
        · rintro fine _ ⟨rfl⟩
          refine ⟨measured, ?_⟩
          rw [size, packed]
          split
          · next noted => exact noted
          · by_contra beyond
            exact fine ⟨sendable, not_le.mp small, trims, existing, listed, not_le.mp beyond⟩
  · refine iff_of_true (fun result done => ?_) fun beyond => sendable beyond.sendable
    obtain ⟨fitted, measured, _⟩ := bind_eq_ok.mp done
    obtain ⟨size, measured', _⟩ := map_eq_ok.mp measured
    exact (sendable (sendable_of_encodedSize measured')).elim

/-- A document without flag and warnings, whose first node alone takes all of 512 bytes. -/
def brimful : Dict Text Json :=
  ⟨[("nodes", .arr [.str (List.replicate 498 (codePoint 'a')), .int 0])], List.nodup_singleton _⟩

theorem packResponse_capped_brimful :
    (∀ result, packResponse .ascii brimful (some 512) = .ok result →
      encodedSize .ascii result.document = .ok result.byteSize ∧ result.byteSize ≤ 512) ↔
      ¬ Overgrown .ascii brimful 512 :=
  packResponse_capped_iff .ascii brimful rfl

/-- The packed document takes 543 of its 512 bytes. -/
theorem packResponse_overruns : ∃ result,
    packResponse .ascii brimful (some 512) = .ok result ∧ result.byteSize = 543 := by
  have measured : (packResponse .ascii brimful (some 512)).toOption.map BudgetResult.byteSize =
      some 543 := by decide +kernel
  cases packed : packResponse .ascii brimful (some 512) with
  | error raised =>
    rw [packed] at measured
    cases measured
  | ok result =>
    rw [packed] at measured
    exact ⟨result, rfl, Option.some.inj measured⟩

end AxiomMcp.Query

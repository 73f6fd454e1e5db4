/-
**Trimming is exact and minimal.**

The packer cuts the trimmable collections in order. `keepAll` is a document with each of them cut to a number of
members; `Cuts` says which numbers the trimming loop arrives at:

* a collection is touched only after all earlier ones were cut to nothing;
* the collection cut last keeps the longest prefix with which the document fits;
* what is counted as dropped is what was removed.

`trim_cuts` proves this for the loop: once a document fits, no later collection is touched (`trimOne_fits`).
`packResponse_exact` states it of the packed document, with the notes that are recorded behind the warnings.
-/

import AxiomMcp.Query.BudgetCap

namespace AxiomMcp.Query

open AxiomMcp.Lib

variable {py : Interpreter}

/-! ### Cut collections -/

/-- The members of a collection; none where there is no list. -/
def itemsOf (document : Dict Text Json) (key : Text) : List Json :=
  match document.get? key with
  | some (.arr items) => items
  | _ => []

/-- One collection cut to a number of members. -/
def keepOne (kept : Text → ℕ) (document : Dict Text Json) (key : Text) : Dict Text Json :=
  match document.get? key with
  | some (.arr items) => cutTo document key items (kept key)
  | _ => document

/-- The collections of a document cut to some numbers of members. -/
def keepAll (keys : List Text) (kept : Text → ℕ) (document : Dict Text Json) : Dict Text Json :=
  keys.foldl (keepOne kept) document

section Keep

variable {document : Dict Text Json} {keys : List Text} {kept : Text → ℕ} {key : Text} {items : List Json}

theorem itemsOf_of_get? (found : document.get? key = some (.arr items)) : itemsOf document key = items := by
  unfold itemsOf
  rw [found]

theorem keepOne_of_get? (found : document.get? key = some (.arr items)) :
    keepOne kept document key = cutTo document key items (kept key) := by
  unfold keepOne
  rw [found]

/-- A collection without members stays as it is. -/
theorem keepOne_of_empty (empty : itemsOf document key = []) : keepOne kept document key = document := by
  unfold itemsOf at empty
  unfold keepOne
  split
  · next items found =>
    rw [found] at empty
    dsimp only at empty
    subst empty
    rw [cutTo, List.take_nil]
    exact Dict.set_self found
  · rfl

/-- Cutting one collection leaves the others. -/
theorem get?_keepOne (other : Text) : (keepOne kept document key).get? other =
    if other = key then (document.get? key).map fun value =>
      match value with
      | .arr items => .arr (items.take (kept key))
      | value => value
    else document.get? other := by
  unfold keepOne
  split
  · next items found =>
    rw [cutTo, Dict.get?_set, found]
    rfl
  · next absent =>
    by_cases here : other = key
    · rw [if_pos here, here]
      cases found : document.get? key with
      | none => rfl
      | some value =>
        cases value with
        | arr items => exact (absent items found).elim
        | _ => rfl
    · rw [if_neg here]

theorem itemsOf_keepOne (other : Text) (different : other ≠ key) :
    itemsOf (keepOne kept document key) other = itemsOf document other := by
  unfold itemsOf
  rw [get?_keepOne, if_neg different]

/-- The cut collections hold the first members, and everything else is as before. -/
theorem get?_keepAll (distinct : keys.Nodup) (other : Text) : (keepAll keys kept document).get? other =
    if other ∈ keys then (document.get? other).map fun value =>
      match value with
      | .arr items => .arr (items.take (kept other))
      | value => value
    else document.get? other := by
  induction keys generalizing document with
  | nil => rfl
  | cons key rest ih =>
    obtain ⟨fresh, distinct⟩ := List.nodup_cons.mp distinct
    change (keepAll rest kept (keepOne kept document key)).get? other = _
    rw [ih distinct, get?_keepOne]
    by_cases here : other = key
    · subst here
      rw [if_neg fresh, if_pos rfl, if_pos List.mem_cons_self]
    · rw [if_neg here]
      by_cases later : other ∈ rest
      · rw [if_pos later, if_pos (List.mem_cons_of_mem _ later)]
      · rw [if_neg later, if_neg fun member => (List.mem_cons.mp member).elim here later]

/-- Two numberings that agree on the collections cut the same. -/
theorem keepAll_congr {kept' : Text → ℕ} (same : ∀ key ∈ keys, kept key = kept' key) :
    keepAll keys kept document = keepAll keys kept' document := by
  induction keys generalizing document with
  | nil => rfl
  | cons key rest ih =>
    have one : keepOne kept document key = keepOne kept' document key := by
      unfold keepOne
      rw [same key List.mem_cons_self]
    change keepAll rest kept (keepOne kept document key) = keepAll rest kept' (keepOne kept' document key)
    rw [one, ih fun other member => same other (List.mem_cons_of_mem _ member)]

/-- Collections kept whole are kept. -/
theorem keepAll_whole (whole : ∀ key ∈ keys, kept key = (itemsOf document key).length) :
    keepAll keys kept document = document := by
  induction keys with
  | nil => rfl
  | cons key rest ih =>
    have one : keepOne kept document key = document := by
      unfold keepOne
      split
      · next items found =>
        rw [whole key List.mem_cons_self, itemsOf_of_get? found, cutTo, List.take_length]
        exact Dict.set_self found
      · rfl
    change keepAll rest kept (keepOne kept document key) = document
    rw [one]
    exact ih fun other member => whole other (List.mem_cons_of_mem _ member)

end Keep

/-! ### The trimming loop -/

/-- Which numbers of members the loop over some collections arrives at, from a document that does not fit. -/
structure Cuts (py : Interpreter) (cap : ℕ) (keys : List Text) (document : Dict Text Json)
    (kept : Text → ℕ) : Prop where
  within : ∀ key ∈ keys, kept key ≤ (itemsOf document key).length
  /-- A collection is touched only after all earlier ones were cut to nothing. -/
  order : ∀ before key after, keys = before ++ key :: after → kept key < (itemsOf document key).length →
    ∀ earlier ∈ before, kept earlier = 0
  /-- The collection cut last keeps the longest prefix with which the document fits. -/
  longest : docSize py (keepAll keys kept document) ≤ cap →
    ∀ before key after, keys = before ++ key :: after → kept key < (itemsOf document key).length →
      (∀ later ∈ after, kept later = (itemsOf document later).length) →
      ∀ count, kept key < count → count ≤ (itemsOf document key).length →
        cap < docSize py (keepAll keys (Function.update kept key count) document)

section Loop

variable {cap : ℕ} {trim : Trim} {key : Text}

/-- Where the document fits, a collection is not touched. -/
theorem trimOne_fits (sound : trim.Sound py) (clean : Utf8.Clean key) (small : docSize py trim.packed ≤ cap) :
    trimOne py cap trim key = .ok trim := by
  unfold trimOne
  split
  · next items found =>
    by_cases none : items = []
    · rw [if_pos none]
    · have all : Nat.findGreatest (fun count => docSize py (cutTo trim.packed key items count) ≤ cap)
          items.length = items.length := by
        refine Nat.findGreatest_eq_iff.mpr ⟨le_rfl, fun _ => ?_, fun n above below => ?_⟩
        · rw [cutTo, List.take_length, Dict.set_self found]
          exact small
        · omega
      rw [if_neg none, bisect_eq (fun count _ =>
          fits_ok (sendable_cutTo sound.sendable clean found count) cap)
        fun m n shorter _ accepted => (docSize_cutTo_le shorter).trans accepted, all, ok_bind,
        if_neg (lt_irrefl _)]
      rfl
  · rfl

theorem trimAll_fits {keys : List Text} (sound : trim.Sound py) (clean : ∀ key ∈ keys, Utf8.Clean key)
    (small : docSize py trim.packed ≤ cap) : keys.foldlM (trimOne py cap) trim = .ok trim := by
  induction keys with
  | nil => rfl
  | cons key rest ih =>
    rw [List.foldlM_cons, trimOne_fits sound (clean key List.mem_cons_self) small]
    exact ih fun other member => clean other (List.mem_cons_of_mem _ member)

/-- A collection without members is not touched. -/
theorem trimOne_empty (empty : itemsOf trim.packed key = []) : trimOne py cap trim key = .ok trim := by
  unfold itemsOf at empty
  unfold trimOne
  split
  · next items found =>
    rw [found] at empty
    rw [if_pos empty]
  · rfl

/-- Where the document does not fit, a collection with members is cut, to the longest prefix that fits or to
nothing. -/
theorem trimOne_cuts {items : List Json} (sound : trim.Sound py) (clean : Utf8.Clean key)
    (large : cap < docSize py trim.packed) (found : trim.packed.get? key = some (.arr items))
    (members : items ≠ []) : ∃ low next, trimOne py cap trim key = .ok next ∧ low < items.length ∧
      next.packed = cutTo trim.packed key items low ∧
      next.dropped = trim.dropped.set key (items.length - low) ∧ next.Sound py ∧
      (low ≠ 0 → docSize py next.packed ≤ cap) ∧
      ∀ count, low < count → count ≤ items.length →
        cap < docSize py (cutTo trim.packed key items count) := by
  obtain ⟨next, done, _, sound', _⟩ := trimOne_ok cap sound clean
  have called := done
  unfold trimOne at called
  rw [found] at called
  dsimp only at called
  rw [if_neg members, bisect_eq (fun count _ =>
      fits_ok (sendable_cutTo sound.sendable clean found count) cap)
    fun m n shorter _ accepted => (docSize_cutTo_le shorter).trans accepted, ok_bind] at called
  obtain ⟨inside, passes, none⟩ := Nat.findGreatest_eq_iff.mp
    (rfl : Nat.findGreatest (fun count => docSize py (cutTo trim.packed key items count) ≤ cap)
      items.length = _)
  generalize Nat.findGreatest (fun count => docSize py (cutTo trim.packed key items count) ≤ cap)
    items.length = low at called inside passes none
  have short : low < items.length := by
    refine lt_of_le_of_ne inside fun whole => ?_
    have fit := passes (by
      rw [whole]
      exact fun zero => members (List.eq_nil_of_length_eq_zero zero))
    rw [whole, cutTo, List.take_length, Dict.set_self found] at fit
    omega
  rw [if_pos short] at called
  obtain rfl := Except.ok.inj called
  exact ⟨low, _, done, short, rfl, rfl, sound', passes,
    fun count above below => not_le.mp (none above below)⟩

end Loop

/-! ### Which numbers the loop arrives at -/

section Numbers

variable {cap : ℕ} {key : Text} {rest : List Text} {document : Dict Text Json}

/-- A first collection that is cut and lets the document fit, the others whole. -/
theorem cuts_fitting {low : ℕ} (fresh : key ∉ rest) (short : low < (itemsOf document key).length)
    (large : ∀ count, low < count → count ≤ (itemsOf document key).length →
      cap < docSize py (keepOne (fun _ => count) document key)) :
    Cuts py cap (key :: rest) document
      (Function.update (fun other => (itemsOf document other).length) key low) := by
  have whole : ∀ other ∈ rest, ∀ count,
      Function.update (fun other => (itemsOf document other).length) key count other =
        (itemsOf document other).length := by
    intro other member count
    exact Function.update_of_ne (ne_of_mem_of_not_mem member fresh) _ _
  constructor
  · intro other member
    rcases List.mem_cons.mp member with rfl | later
    · rw [Function.update_self]
      exact short.le
    · exact (whole other later low).le
  · intro before target after split cut
    cases before with
    | nil => exact fun earlier none => (List.not_mem_nil none).elim
    | cons first before =>
      rw [List.cons_append] at split
      obtain ⟨rfl, rfl⟩ := List.cons.inj split
      rw [whole target (List.mem_append_right _ List.mem_cons_self)] at cut
      exact (lt_irrefl _ cut).elim
  · intro _ before target after split cut _ count above below
    cases before with
    | nil =>
      obtain ⟨rfl, rfl⟩ := List.cons.inj split
      rw [Function.update_self] at above
      rw [Function.update_idem]
      have first : keepAll (key :: rest)
          (Function.update (fun other => (itemsOf document other).length) key count) document =
          keepOne (fun _ => count) document key := by
        change keepAll rest _ (keepOne _ document key) = _
        have one : keepOne (Function.update (fun other => (itemsOf document other).length) key count)
            document key = keepOne (fun _ => count) document key := by
          unfold keepOne
          rw [Function.update_self]
        rw [one]
        refine keepAll_whole fun other member => ?_
        rw [whole other member, itemsOf_keepOne other (ne_of_mem_of_not_mem member fresh)]
      rw [first]
      exact large count above below
    | cons first before =>
      rw [List.cons_append] at split
      obtain ⟨rfl, rfl⟩ := List.cons.inj split
      rw [whole target (List.mem_append_right _ List.mem_cons_self)] at cut
      exact (lt_irrefl _ cut).elim

/-- A first collection that is cut to nothing, or has no members, before the others. -/
theorem cuts_nothing {kept : Text → ℕ} (fresh : key ∉ rest)
    (later : Cuts py cap rest (keepOne (fun _ => 0) document key) kept)
    (large : ∀ count, 0 < count → count ≤ (itemsOf document key).length →
      cap < docSize py (keepOne (fun _ => count) document key)) :
    Cuts py cap (key :: rest) document (Function.update kept key 0) := by
  have other_kept : ∀ other ∈ rest, ∀ count, Function.update kept key count other = kept other :=
    fun other member count => Function.update_of_ne (ne_of_mem_of_not_mem member fresh) _ _
  have other_items : ∀ other ∈ rest,
      itemsOf (keepOne (fun _ => 0) document key) other = itemsOf document other :=
    fun other member => itemsOf_keepOne other (ne_of_mem_of_not_mem member fresh)
  have first : ∀ (numbers : Text → ℕ) count, numbers key = count →
      keepAll (key :: rest) numbers document =
        keepAll rest numbers (keepOne (fun _ => count) document key) := by
    rintro numbers _ rfl
    rfl
  constructor
  · intro other member
    rcases List.mem_cons.mp member with rfl | inside
    · rw [Function.update_self]
      exact Nat.zero_le _
    · rw [other_kept other inside, ← other_items other inside]
      exact later.within other inside
  · intro before target after split cut earlier member
    cases before with
    | nil => exact (List.not_mem_nil member).elim
    | cons head before =>
      rw [List.cons_append] at split
      obtain ⟨rfl, rfl⟩ := List.cons.inj split
      have inside : target ∈ before ++ target :: after := List.mem_append_right _ List.mem_cons_self
      rcases List.mem_cons.mp member with rfl | old
      · exact Function.update_self _ _ _
      · rw [other_kept earlier (List.mem_append_left _ old)]
        rw [other_kept target inside, ← other_items target inside] at cut
        exact later.order before target after rfl cut earlier old
  · intro small before target after split cut whole count above below
    cases before with
    | nil =>
      obtain ⟨rfl, rfl⟩ := List.cons.inj split
      rw [Function.update_self] at above
      rw [Function.update_idem, first _ count (Function.update_self _ _ _)]
      have same : keepAll rest (Function.update kept key count) (keepOne (fun _ => count) document key) =
          keepOne (fun _ => count) document key := by
        refine keepAll_whole fun other member => ?_
        rw [itemsOf_keepOne other (ne_of_mem_of_not_mem member fresh), other_kept other member,
          ← whole other member, other_kept other member]
      rw [same]
      exact large count above below
    | cons head before =>
      rw [List.cons_append] at split
      obtain ⟨rfl, rfl⟩ := List.cons.inj split
      have inside : target ∈ before ++ target :: after := List.mem_append_right _ List.mem_cons_self
      have different : target ≠ key := ne_of_mem_of_not_mem inside fresh
      rw [first _ 0 (Function.update_self _ _ _),
        keepAll_congr fun other member => other_kept other member 0] at small
      rw [other_kept target inside] at above
      rw [other_kept target inside, ← other_items target inside] at cut
      rw [← other_items target inside] at below
      have exact_later := later.longest small before target after rfl cut (fun other member => by
        have there : other ∈ before ++ target :: after :=
          List.mem_append_right _ (List.mem_cons_of_mem _ member)
        rw [other_items other there, ← whole other member, other_kept other there]) count above below
      have agree : ∀ other ∈ before ++ target :: after,
          Function.update (Function.update kept key 0) target count other =
            Function.update kept target count other := by
        intro other member
        by_cases here : other = target
        · rw [here, Function.update_self, Function.update_self]
        · rw [Function.update_of_ne here, Function.update_of_ne here, other_kept other member]
      rw [first _ 0 (by rw [Function.update_of_ne different.symm, Function.update_self]),
        keepAll_congr agree]
      exact exact_later

/-- What the loop over some collections makes of a document that does not fit. -/
structure Trims (py : Interpreter) (cap : ℕ) (keys : List Text) (trim last : Trim) (kept : Text → ℕ) :
    Prop where
  packed : last.packed = keepAll keys kept trim.packed
  cuts : Cuts py cap keys trim.packed kept
  /-- What is counted as dropped is what was removed. -/
  dropped : ∀ key, last.dropped.get? key =
    if key ∈ keys ∧ kept key < (itemsOf trim.packed key).length
    then some ((itemsOf trim.packed key).length - kept key)
    else trim.dropped.get? key
  sound : last.Sound py

theorem trim_cuts {keys : List Text} (distinct : keys.Nodup) {trim : Trim} (sound : trim.Sound py)
    (clean : ∀ key ∈ keys, Utf8.Clean key) (large : cap < docSize py trim.packed) :
    ∃ last kept, keys.foldlM (trimOne py cap) trim = .ok last ∧ Trims py cap keys trim last kept := by
  induction keys generalizing trim with
  | nil =>
    refine ⟨trim, fun _ => 0, rfl, rfl, ⟨?_, ?_, ?_⟩, fun key => ?_, sound⟩
    · exact fun key none => (List.not_mem_nil none).elim
    · exact fun before key after split => by simp at split
    · exact fun _ before key after split => by simp at split
    · rw [if_neg fun inside => List.not_mem_nil inside.1]
  | cons key rest ih =>
    obtain ⟨fresh, distinct⟩ := List.nodup_cons.mp distinct
    have clean' : ∀ other ∈ rest, Utf8.Clean other :=
      fun other member => clean other (List.mem_cons_of_mem _ member)
    have different : ∀ {other}, other ∈ rest → other ≠ key :=
      fun member => ne_of_mem_of_not_mem member fresh
    by_cases empty : itemsOf trim.packed key = []
    · -- Without members the collection is passed over.
      obtain ⟨last, kept, done, trims⟩ := ih distinct sound clean' large
      have same : keepOne (fun _ => 0) trim.packed key = trim.packed := keepOne_of_empty empty
      refine ⟨last, Function.update kept key 0, ?_, ?_, ?_, fun other => ?_, trims.sound⟩
      · rw [List.foldlM_cons, trimOne_empty empty]
        exact done
      · change _ = keepAll rest _ (keepOne _ trim.packed key)
        rw [keepOne_of_empty empty, trims.packed]
        exact keepAll_congr fun other member => (Function.update_of_ne (different member) _ _).symm
      · refine cuts_nothing fresh (by rw [same]; exact trims.cuts) fun count above below => ?_
        rw [empty] at below
        exact (not_le.mpr above below).elim
      · rw [trims.dropped]
        by_cases here : other = key
        · subst here
          rw [if_neg fun inside => fresh inside.1, if_neg]
          rw [empty]
          exact fun inside => Nat.not_lt_zero _ inside.2
        · rw [Function.update_of_ne here]
          simp only [List.mem_cons, here, false_or]
    · -- A collection with members is cut.
      obtain ⟨items, found⟩ : ∃ items, trim.packed.get? key = some (.arr items) := by
        unfold itemsOf at empty
        split at empty
        · next items found => exact ⟨items, found⟩
        · exact (empty rfl).elim
      have listed : itemsOf trim.packed key = items := itemsOf_of_get? found
      obtain ⟨low, next, one, short, packed, dropped, sound', stops, longest⟩ :=
        trimOne_cuts sound (clean key List.mem_cons_self) large found (listed ▸ empty)
      have large' : ∀ count, low < count → count ≤ (itemsOf trim.packed key).length →
          cap < docSize py (keepOne (fun _ => count) trim.packed key) := by
        intro count above below
        rw [keepOne_of_get? found]
        rw [listed] at below
        exact longest count above below
      have first : ∀ numbers : Text → ℕ, numbers key = low →
          keepOne numbers trim.packed key = next.packed := by
        intro numbers here
        rw [keepOne_of_get? found, here, packed]
      by_cases small : docSize py next.packed ≤ cap
      · -- The document fits: no later collection is touched.
        refine ⟨next, Function.update (fun other => (itemsOf trim.packed other).length) key low,
          ?_, ?_, cuts_fitting fresh (by rw [listed]; exact short) large', fun other => ?_, sound'⟩
        · rw [List.foldlM_cons, one]
          exact trimAll_fits sound' clean' small
        · change _ = keepAll rest _ (keepOne _ trim.packed key)
          rw [first _ (Function.update_self _ _ _)]
          refine (keepAll_whole fun other member => ?_).symm
          rw [Function.update_of_ne (different member), ← first (fun _ => low) rfl,
            itemsOf_keepOne other (different member)]
        · rw [dropped, Dict.get?_set]
          by_cases here : other = key
          · subst here
            rw [if_pos rfl, Function.update_self, listed, if_pos ⟨List.mem_cons_self, short⟩]
          · rw [if_neg here, Function.update_of_ne here, if_neg fun inside => lt_irrefl _ inside.2]
      · -- Nothing is left of the collection, and the next one is cut.
        have nothing : low = 0 := by
          by_contra some
          exact small (stops some)
        subst nothing
        obtain ⟨last, kept, done, trims⟩ := ih distinct sound' clean' (not_le.mp small)
        have start : next.packed = keepOne (fun _ => 0) trim.packed key := (first _ rfl).symm
        have cuts := trims.cuts
        rw [start] at cuts
        refine ⟨last, Function.update kept key 0, ?_, ?_, cuts_nothing fresh cuts large', fun other => ?_,
          trims.sound⟩
        · rw [List.foldlM_cons, one]
          exact done
        · change _ = keepAll rest _ (keepOne _ trim.packed key)
          rw [first _ (Function.update_self _ _ _), trims.packed]
          exact keepAll_congr fun other member => (Function.update_of_ne (different member) _ _).symm
        · rw [trims.dropped, dropped, Dict.get?_set]
          by_cases here : other = key
          · subst here
            rw [if_neg fun inside => fresh inside.1, if_pos rfl, Function.update_self, listed,
              if_pos ⟨List.mem_cons_self, short⟩]
          · rw [Function.update_of_ne here, if_neg here, start, itemsOf_keepOne other here]
            simp only [List.mem_cons, here, false_or]

end Numbers

/-! ### The packed document -/

/-- A document whose collections are lists. -/
def ListValued (document : Dict Text Json) : Prop :=
  ∀ key ∈ trimmable, ∀ value, document.get? key = some value → ∃ items, value = .arr items

/-- What a document that does not fit is packed to: `kept` members of each collection. -/
structure ExactlyTrimmed (py : Interpreter) (cap : ℕ) (document : Dict Text Json) (result : BudgetResult)
    (kept : Text → ℕ) : Prop where
  truncated : result.truncated = true
  /-- The collections are prefixes of the originals. -/
  collections : ∀ key ∈ trimmable, key ≠ "warnings" → result.document.get? key =
    (document.get? key).map fun _ => .arr ((itemsOf document key).take (kept key))
  /-- The warnings are a prefix of the originals, followed only by the notes of the packer. -/
  warnings : ∃ notes, (notes = [] ∨ notes = result.warnings) ∧ result.document.get? "warnings" =
    some (.arr ((itemsOf document "warnings").take (kept "warnings") ++ notes.map .str))
  flag : result.document.get? "truncated" = some (.bool true)
  others : ∀ key, key ∉ trimmable → key ≠ "truncated" → result.document.get? key = document.get? key
  /-- What is counted as dropped is what was removed. -/
  dropped : ∀ key, result.dropped.get? key =
    if key ∈ trimmable ∧ kept key < (itemsOf document key).length
    then some ((itemsOf document key).length - kept key)
    else none
  /-- A collection is touched only after all earlier ones were cut to nothing. -/
  order : ∀ before key after, trimmable = before ++ key :: after →
    kept key < (itemsOf document key).length → ∀ earlier ∈ before, kept earlier = 0
  fitting : fits py (keepAll trimmable kept document) cap = .ok true
  /-- The collection cut last keeps the longest prefix with which the document fits. -/
  longest : ∀ before key after, trimmable = before ++ key :: after →
    kept key < (itemsOf document key).length →
    (∀ later ∈ after, kept later = (itemsOf document later).length) →
    ∀ count, kept key < count → count ≤ (itemsOf document key).length →
      fits py (keepAll trimmable (Function.update kept key count) document) cap = .ok false

section Packed

variable {cap : ℕ} {document : Dict Text Json} {kept : Text → ℕ}

theorem trimmable_clean : ∀ key ∈ trimmable, Utf8.Clean key := by
  simp only [trimmable, List.forall_mem_cons, Utf8.clean_ofString, true_and]
  exact fun key none => (List.not_mem_nil none).elim

theorem trimmable_nodup : trimmable.Nodup := by decide

theorem sendable_keepAll {keys : List Text} (clean : ∀ key ∈ keys, Utf8.Clean key)
    (sendable : DocSendable py document) : DocSendable py (keepAll keys kept document) := by
  induction keys generalizing document with
  | nil => exact sendable
  | cons key rest ih =>
    refine ih (fun other member => clean other (List.mem_cons_of_mem _ member)) ?_
    unfold keepOne
    split
    · next items found => exact sendable_cutTo sendable (clean key List.mem_cons_self) found _
    · exact sendable

/-- The collections of a document with lists, cut. -/
theorem get?_keepAll_lists (lists : ListValued document) {key : Text} (member : key ∈ trimmable) :
    (keepAll trimmable kept document).get? key =
      (document.get? key).map fun _ => .arr ((itemsOf document key).take (kept key)) := by
  rw [get?_keepAll trimmable_nodup, if_pos member]
  cases found : document.get? key with
  | none => rfl
  | some value =>
    obtain ⟨items, rfl⟩ := lists key member value found
    rw [itemsOf_of_get? found]
    rfl

/-- The list of warnings of a cut document. -/
theorem existingWarnings_keepAll (lists : ListValued document) :
    existingWarnings (keepAll trimmable kept document) =
      .ok ((itemsOf document "warnings").take (kept "warnings")) := by
  unfold existingWarnings
  rw [get?_keepAll_lists lists (by decide)]
  cases found : document.get? "warnings" with
  | none =>
    have none_listed : itemsOf document "warnings" = [] := by
      unfold itemsOf
      rw [found]
    rw [none_listed, List.take_nil]
    rfl
  | some value =>
    generalize (itemsOf document "warnings").take (kept "warnings") = items
    cases items <;> rfl

theorem get?_flaggedWith (packed : Dict Text Json) (existing : List Json) (key : Text) :
    (flaggedWith packed existing).get? key =
      if key = "warnings" then some (.arr existing)
      else if key = "truncated" then some (.bool true) else packed.get? key := by
  rw [flaggedWith, Dict.get?_set, Dict.get?_set]

/-- The packing of a document that is too large: either the metadata alone does not fit, or it is trimmed
exactly. -/
theorem packTrimmed_exact {result : BudgetResult} (lists : ListValued document)
    (sendable : DocSendable py document) (large : cap < docSize py document)
    (packed : packTrimmed py document cap = .ok result) :
    ∃ kept, ExactlyTrimmed py cap document result kept := by
  have start : Trim.Sound py ⟨document, Dict.empty, []⟩ :=
    ⟨sendable, fun key none => (List.not_mem_nil none).elim, fun key none => (List.not_mem_nil none).elim⟩
  obtain ⟨last, kept, done, trims⟩ := trim_cuts trimmable_nodup start trimmable_clean large
  obtain ⟨last', done', _, _, unchanged⟩ := trimAll_ok cap trimmable start trimmable_clean
  obtain rfl : last = last' := Except.ok.inj (done.symm.trans done')
  have cutDoc : last.packed = keepAll trimmable kept document := trims.packed
  have measured : ∀ numbers : Text → ℕ, fits py (keepAll trimmable numbers document) cap =
      .ok (decide (docSize py (keepAll trimmable numbers document) ≤ cap)) :=
    fun numbers => fits_ok (sendable_keepAll trimmable_clean sendable) cap
  have called : packAfter py cap last = .ok result := by
    rw [packTrimmed, done] at packed
    exact packed
  rw [packAfter, cutDoc, measured kept] at called
  by_cases small : docSize py (keepAll trimmable kept document) ≤ cap
  · have cut : last.dropped.keys ≠ [] := by
      intro none
      have same := (unchanged none).2
      rw [cutDoc] at same
      rw [same] at small
      exact not_le.mpr large small
    rw [decide_eq_true small] at called
    change (record py cap last >>= fun _ => _) = _ at called
    rw [record_ok trims.sound cut, cutDoc, existingWarnings_keepAll lists] at called
    obtain ⟨noted, recorded, called⟩ := bind_eq_ok.mp called
    obtain ⟨byteSize, sized, called⟩ := bind_eq_ok.mp called
    obtain rfl := Except.ok.inj called
    obtain ⟨notes, which, shape⟩ : ∃ notes, (notes = [] ∨ notes = packNotes cap last) ∧
        noted = flaggedWith (keepAll trimmable kept document)
          ((itemsOf document "warnings").take (kept "warnings") ++ notes.map .str) := by
      have recorded := Except.ok.inj recorded
      dsimp only at recorded
      split at recorded
      · exact ⟨_, Or.inr rfl, recorded.symm⟩
      · refine ⟨[], Or.inl rfl, ?_⟩
        rw [List.map_nil, List.append_nil]
        exact recorded.symm
    subst shape
    refine ⟨kept, ?_, ?_, ⟨notes, which, ?_⟩, ?_, ?_, fun key => ?_, trims.cuts.order, ?_, ?_⟩
    · change (!last.dropped.keys.isEmpty) = true
      rw [List.isEmpty_eq_false_iff.mpr cut]
      rfl
    · intro key member different
      have unflagged : key ≠ "truncated" := by
        rintro rfl
        exact absurd member (by decide)
      rw [get?_flaggedWith, if_neg different, if_neg unflagged]
      exact get?_keepAll_lists lists member
    · rw [get?_flaggedWith, if_pos rfl]
    · rw [get?_flaggedWith, if_neg (by decide), if_pos rfl]
    · intro key other unflagged
      have different : key ≠ "warnings" := by
        rintro rfl
        exact other (by decide)
      rw [get?_flaggedWith, if_neg different, if_neg unflagged, get?_keepAll trimmable_nodup, if_neg other]
    · exact trims.dropped key
    · rw [measured kept, decide_eq_true small]
    · intro before key after split short whole count above below
      rw [measured, decide_eq_false (not_le.mpr
        (trims.cuts.longest small before key after split short whole count above below))]
  · rw [decide_eq_false small] at called
    cases called

end Packed

/-- What the packer answers tells its cap. -/
theorem packAfter_maxBytes {cap : ℕ} {trim : Trim} {result : BudgetResult}
    (packed : packAfter py cap trim = .ok result) : result.maxBytes = cap := by
  unfold packAfter at packed
  obtain ⟨fit, _, packed⟩ := bind_eq_ok.mp packed
  split at packed
  · cases packed
  · obtain ⟨noted, _, packed⟩ := bind_eq_ok.mp packed
    obtain ⟨byteSize, _, packed⟩ := bind_eq_ok.mp packed
    cases packed
    rfl

/-- **Trimming is exact and minimal: a document that fits is returned as it is; of one that does not, the
collections keep prefixes, in order, the last one the longest that fits, and nothing else changes.** -/
theorem packResponse_exact (py : Interpreter) (document : Dict Text Json) (maxBytes : Option ℤ)
    (result : BudgetResult) (lists : ListValued document)
    (accepted : packResponse py document maxBytes = .ok result) :
    ∃ cap fit, boundedInt maxBytes "max_bytes" minBytes Query.maxBytes defaultMaxBytes = .ok cap ∧
      result.maxBytes = cap ∧ fits py document cap = .ok fit ∧
      (fit = true → result.document = document ∧ result.truncated = false ∧
        result.dropped = Dict.empty ∧ result.warnings = []) ∧
      (fit = false → ∃ kept, ExactlyTrimmed py cap document result kept) := by
  unfold packResponse at accepted
  obtain ⟨cap, admitted, accepted⟩ := bind_eq_ok.mp accepted
  have admitted := mapError_eq_ok.mp admitted
  obtain ⟨fit, measured, accepted⟩ := bind_eq_ok.mp accepted
  cases fit with
  | true =>
    rw [if_pos rfl] at accepted
    obtain ⟨byteSize, _, accepted⟩ := bind_eq_ok.mp accepted
    cases accepted
    exact ⟨cap, true, admitted, rfl, measured, fun _ => ⟨rfl, rfl, rfl, rfl⟩, fun unfit => by cases unfit⟩
  | false =>
    rw [if_neg Bool.false_ne_true] at accepted
    have sendable : DocSendable py document := by
      obtain ⟨size, sized, _⟩ := map_eq_ok.mp measured
      exact sendable_of_encodedSize sized
    have large : cap < docSize py document := by
      rw [fits_ok sendable] at measured
      exact not_le.mp (of_decide_eq_false (Except.ok.inj measured))
    refine ⟨cap, false, admitted, ?_, measured, (fun fit => by cases fit),
      fun _ => packTrimmed_exact lists sendable large accepted⟩
    obtain ⟨trim, _, packed⟩ := bind_eq_ok.mp accepted
    exact packAfter_maxBytes packed

/-- A document of more than 700 bytes, with nodes and edges. -/
def overfull : Dict Text Json :=
  ⟨[("nodes", .arr [.str (List.replicate 100 (codePoint 'a'))]),
    ("edges", .arr [.str (List.replicate 300 (codePoint 'b')), .str (List.replicate 300 (codePoint 'c'))])],
    by decide⟩

theorem overfull_lists : ListValued overfull := by
  intro key member value found
  have stored := Dict.get?_eq_some.mp found
  simp only [overfull, List.mem_cons, List.not_mem_nil, or_false, Prod.mk.injEq] at stored
  rcases stored with ⟨_, rfl⟩ | ⟨_, rfl⟩
  · exact ⟨_, rfl⟩
  · exact ⟨_, rfl⟩

/-- All nodes and one edge are cut. -/
theorem packResponse_exact_overfull : ∃ result, packResponse .ascii overfull (some 512) = .ok result ∧
    ∃ cap fit, boundedInt (some 512) "max_bytes" minBytes Query.maxBytes defaultMaxBytes = .ok cap ∧
      result.maxBytes = cap ∧ fits .ascii overfull cap = .ok fit ∧
      (fit = true → result.document = overfull ∧ result.truncated = false ∧
        result.dropped = Dict.empty ∧ result.warnings = []) ∧
      (fit = false → ∃ kept, ExactlyTrimmed .ascii cap overfull result kept) := by
  have counted : (packResponse .ascii overfull (some 512)).toOption.map
      (fun result => result.dropped.entries) =
        some [(("nodes" : Text), 1), ("edges", 1)] := by decide +kernel
  cases packed : packResponse .ascii overfull (some 512) with
  | error raised =>
    rw [packed] at counted
    cases counted
  | ok result =>
    exact ⟨result, rfl, packResponse_exact .ascii overfull (some 512) result overfull_lists packed⟩

end AxiomMcp.Query

/-
**A diff as a patch.**

A reader of a diff drops what was removed, takes what was added and replaces each modified item by its
`after` with its id and project (`patch`). One kind of item at a time:

* `mem_onlyIn`, `mem_modified`: what a diff lists;
* `patch_perm`: patching the baseline gives, for every item of the head, its document, or the baseline's where
  Python takes the two facts as equal;
* `rebuilds_iff`: **the head is rebuilt exactly if and only if facts that are equal in Python are the same
  JSON**: `True == 1 == 1.0`, so a value that changes its type only is not reported;
* `diffKind_swap`, `diffKind_self`, `changed_perm`: the diff of the exchanged sides, of a side with itself, and
  the documents of the head among what it lists.
-/

import AxiomMcp.Query.Changes
import AxiomMcp.Lib.JsonEqual

namespace AxiomMcp.Query

open AxiomMcp.Lib

/-! ### Applying a diff -/

/-- The baseline's documents with the reported changes applied. -/
def patch (identity : Text → JsonObject) (diff : KindDiff) (documents : List JsonObject) : List JsonObject :=
  (documents.filter fun document => decide (idOf document ∉ diff.removed.map idOf) &&
      decide (idOf document ∉ diff.modified.map fun change => some change.id)) ++
    (diff.added ++ diff.modified.map fun change => identity change.id ++ change.after)

/-- A document as a JSON value, whatever the order of its keys. -/
def canonical (document : JsonObject) : Json := Json.sorted (.obj document)

/-- Patching the baseline's documents gives exactly the head's. -/
def Rebuilds (identity : Text → JsonObject) (diff : KindDiff) (baseline head : List JsonObject) : Prop :=
  ((patch identity diff baseline).map canonical).Perm (head.map canonical)

/-- The diff of the exchanged sides. -/
def KindDiff.swap (diff : KindDiff) : KindDiff where
  added := diff.removed
  removed := diff.added
  modified := diff.modified.map fun change => ⟨change.id, change.after, change.before⟩

/-- A diff that reports an item as added or modified. -/
def KindDiff.reports (diff : KindDiff) (id : Text) : Bool :=
  decide (some id ∈ diff.added.map idOf) || decide (id ∈ diff.modified.map Modification.id)

section Kind

variable {α : Type} (document : α → JsonObject) (itemId : α → Text) (identity : Text → JsonObject)

/-- How the items of a side are told by their documents. -/
structure Documented (items : List α) : Prop where
  ids : (items.map itemId).Nodup
  shows : ∀ item ∈ items, idOf (document item) = some (itemId item)
  rebuilds : ∀ item ∈ items, identity (itemId item) ++ fact (document item) = document item
  formed : ∀ item ∈ items, (Json.obj (document item)).WellFormed

/-- Facts of an item on both sides that are equal in Python are those of the same document. -/
def Unconfused (head baseline : List α) : Prop :=
  ∀ after ∈ head, ∀ before ∈ baseline, itemId before = itemId after →
    Json.objectEq (fact (document before)) (fact (document after)) = true →
      Json.Same (.obj (document before)) (.obj (document after))

/-- What a patch of the baseline gives for an item of the head. -/
def patched (baseline : List α) (after : α) : JsonObject :=
  match baseline.find? fun before => decide (itemId before = itemId after) with
  | none => document after
  | some before =>
    if Json.objectEq (fact (document before)) (fact (document after)) then document before
    else document after

variable {document itemId identity} {head baseline items : List α}

theorem Documented.eq_of_id (documented : Documented document itemId identity items) {a b : α}
    (left : a ∈ items) (right : b ∈ items) (same : itemId a = itemId b) : a = b :=
  List.inj_on_of_nodup_map documented.ids left right same

theorem Documented.fact_formed (documented : Documented document itemId identity items) {item : α}
    (member : item ∈ items) : (Json.obj (fact (document item))).WellFormed := by
  obtain ⟨distinct, values⟩ := Json.wellFormed_obj.mp (documented.formed item member)
  refine Json.wellFormed_obj.mpr ⟨distinct.sublist (List.filter_sublist.map _), fun entry kept => ?_⟩
  exact values entry (List.mem_filter.mp kept).1

/-- The id of a document is that of its JSON value. -/
theorem idOf_congr {a b : JsonObject} (left : (Json.obj a).WellFormed) (right : (Json.obj b).WellFormed)
    (same : canonical a = canonical b) {id : Text} (shown : idOf a = some id) : idOf b = some id := by
  have lookups := (Json.same_obj (Json.wellFormed_obj.mp left).1 (Json.wellFormed_obj.mp right).1).mp same "id"
  unfold idOf Json.text? Json.field? at shown ⊢
  dsimp only at shown ⊢
  cases found : Json.get? a "id" with
  | none =>
    rw [found] at shown
    cases shown
  | some value =>
    rw [found] at shown lookups
    cases value with
    | str text =>
      cases shown
      obtain ⟨other, stored, sorts⟩ := Option.map_eq_some_iff.mp lookups.symm
      cases other <;> cases sorts
      rw [stored]
    | _ => cases shown

/-! ### What a diff lists -/

theorem mem_onlyIn {side other : List α} (ids : (side.map itemId).Nodup) {listed : JsonObject} :
    listed ∈ onlyIn document (Dict.ofList itemId side) (Dict.ofList itemId other) ↔
      ∃ item ∈ side, itemId item ∉ other.map itemId ∧ document item = listed := by
  unfold onlyIn
  rw [List.mem_filterMap]
  simp only [mem_sortedBy, List.mem_filter, Option.map_eq_some_iff]
  constructor
  · rintro ⟨key, ⟨_, absent⟩, item, found, rfl⟩
    obtain ⟨member, rfl⟩ := (Dict.get?_ofList ids).mp found
    refine ⟨item, member, fun present => ?_, rfl⟩
    rw [Bool.not_eq_true', ← Bool.not_eq_true, Dict.has_iff, Dict.mem_keys_ofList] at absent
    exact absent (List.mem_map.mp present)
  · rintro ⟨item, member, absent, rfl⟩
    refine ⟨itemId item, ⟨Dict.mem_keys_ofList.mpr ⟨item, member, rfl⟩, ?_⟩, item,
      (Dict.get?_ofList ids).mpr ⟨member, rfl⟩, rfl⟩
    rw [Bool.not_eq_true', ← Bool.not_eq_true, Dict.has_iff, Dict.mem_keys_ofList]
    exact fun present => absent (List.mem_map.mpr present)

theorem mem_modified (headIds : (head.map itemId).Nodup) (baselineIds : (baseline.map itemId).Nodup)
    {change : Modification} : change ∈ (diffKind document itemId head baseline).modified ↔
      ∃ after ∈ head, ∃ before ∈ baseline, itemId before = itemId after ∧
        Json.objectEq (fact (document before)) (fact (document after)) = false ∧
          ⟨itemId after, fact (document before), fact (document after)⟩ = change := by
  unfold diffKind
  rw [List.mem_filterMap]
  constructor
  · rintro ⟨key, _, found⟩
    unfold modification at found
    split at found
    · next before after inBaseline inHead =>
      obtain ⟨member, same⟩ := (Dict.get?_ofList baselineIds).mp inBaseline
      obtain ⟨member', rfl⟩ := (Dict.get?_ofList headIds).mp inHead
      split at found
      · cases found
      · next different => exact ⟨after, member', before, member, same, Bool.eq_false_iff.mpr different,
          Option.some.inj found⟩
    · cases found
  · rintro ⟨after, member', before, member, same, different, rfl⟩
    have inHead := (Dict.get?_ofList headIds).mpr ⟨member', rfl⟩
    have inBaseline := (Dict.get?_ofList baselineIds).mpr ⟨member, same⟩
    refine ⟨itemId after, ?_, ?_⟩
    · rw [mem_sortedBy, List.mem_filter, Dict.has_iff]
      exact ⟨Dict.mem_keys_ofList.mpr ⟨after, member', rfl⟩,
        Dict.mem_keys_ofList.mpr ⟨before, member, same⟩⟩
    · unfold modification
      rw [inHead, inBaseline]
      exact if_neg (Bool.eq_false_iff.mp different)

/-- Values made of keys one by one are distinct when they show their keys. -/
theorem nodup_filterMap_of_key {κ β : Type} {keys : List κ} (distinct : keys.Nodup) {f : κ → Option β}
    {shown : β → Option κ} (shows : ∀ key value, f key = some value → shown value = some key) :
    ((keys.filterMap f).map shown).Nodup := by
  induction keys with
  | nil => exact List.nodup_nil
  | cons key rest ih =>
    obtain ⟨fresh, distinct⟩ := List.nodup_cons.mp distinct
    cases found : f key with
    | none =>
      rw [List.filterMap_cons_none found]
      exact ih distinct
    | some value =>
      rw [List.filterMap_cons_some found, List.map_cons, shows key value found, List.nodup_cons]
      refine ⟨fun again => fresh ?_, ih distinct⟩
      obtain ⟨other, member, same⟩ := List.mem_map.mp again
      obtain ⟨key', inside, made⟩ := List.mem_filterMap.mp member
      obtain rfl := Option.some.inj ((shows key' other made).symm.trans same)
      exact inside

theorem onlyIn_ids {side other : List α} (documented : Documented document itemId identity side) :
    ((onlyIn document (Dict.ofList itemId side) (Dict.ofList itemId other)).map idOf).Nodup := by
  refine nodup_filterMap_of_key (sortedBy_nodup _ _ ((Dict.keys_nodup _).filter _)) fun key listed found => ?_
  obtain ⟨item, stored, rfl⟩ := Option.map_eq_some_iff.mp found
  obtain ⟨member, rfl⟩ := (Dict.get?_ofList documented.ids).mp stored
  exact documented.shows item member

/-- The documents of the head that a diff lists. -/
def changedDocuments (identity : Text → JsonObject) (diff : KindDiff) : List JsonObject :=
  diff.added ++ diff.modified.map fun change => identity change.id ++ change.after

/-- Documents with distinct ids are distinct. -/
theorem Documented.nodup_documents (documented : Documented document itemId identity head) :
    (head.map document).Nodup := by
  refine List.Nodup.of_map idOf ?_
  rw [List.map_map]
  have shown : head.map (idOf ∘ document) = head.map (some ∘ itemId) :=
    List.map_congr_left fun item member => documented.shows item member
  rw [shown, ← List.map_map]
  exact documented.ids.map (Option.some_injective _)

/-- An item of the head comes out of a patch as itself, or as the baseline's that Python takes as equal. -/
theorem patched_cases (after : α) :
    ((itemId after ∉ baseline.map itemId ∨ ∃ before ∈ baseline, itemId before = itemId after ∧
        Json.objectEq (fact (document before)) (fact (document after)) = false) ∧
          patched document itemId baseline after = document after) ∨
      ∃ before ∈ baseline, itemId before = itemId after ∧
        Json.objectEq (fact (document before)) (fact (document after)) = true ∧
          patched document itemId baseline after = document before := by
  unfold patched
  cases found : baseline.find? fun before => decide (itemId before = itemId after) with
  | none =>
    refine Or.inl ⟨Or.inl fun present => ?_, rfl⟩
    obtain ⟨before, inBaseline, same⟩ := List.mem_map.mp present
    exact List.find?_eq_none.mp found before inBaseline (decide_eq_true same)
  | some before =>
    have inBaseline := List.mem_of_find?_eq_some found
    have same : itemId before = itemId after := by simpa using List.find?_some found
    cases equal : Json.objectEq (fact (document before)) (fact (document after)) with
    | true => exact Or.inr ⟨before, inBaseline, same, equal, if_pos equal⟩
    | false => exact Or.inl ⟨Or.inr ⟨before, inBaseline, same, equal⟩, if_neg (Bool.eq_false_iff.mp equal)⟩

section Sides

variable (atHead : Documented document itemId identity head)
  (atBaseline : Documented document itemId identity baseline)

include atHead atBaseline

theorem mem_changed {listed : JsonObject} :
    listed ∈ changedDocuments identity (diffKind document itemId head baseline) ↔
      ∃ after ∈ head, document after = listed ∧ (itemId after ∉ baseline.map itemId ∨
        ∃ before ∈ baseline, itemId before = itemId after ∧
          Json.objectEq (fact (document before)) (fact (document after)) = false) := by
  unfold changedDocuments
  rw [List.mem_append, List.mem_map]
  constructor
  · rintro (added | ⟨change, modified, rfl⟩)
    · obtain ⟨after, member, absent, rfl⟩ := (mem_onlyIn atHead.ids).mp added
      exact ⟨after, member, rfl, Or.inl absent⟩
    · obtain ⟨after, member, before, member', same, different, rfl⟩ :=
        (mem_modified atHead.ids atBaseline.ids).mp modified
      exact ⟨after, member, (atHead.rebuilds _ member).symm, Or.inr ⟨before, member', same, different⟩⟩
  · rintro ⟨after, member, rfl, absent | ⟨before, member', same, different⟩⟩
    · exact Or.inl ((mem_onlyIn atHead.ids).mpr ⟨after, member, absent, rfl⟩)
    · exact Or.inr ⟨_, (mem_modified atHead.ids atBaseline.ids).mpr
        ⟨after, member, before, member', same, different, rfl⟩, atHead.rebuilds _ member⟩

/-- Each document is listed once. -/
theorem changed_ids :
    ((changedDocuments identity (diffKind document itemId head baseline)).map idOf).Nodup := by
  unfold changedDocuments
  rw [List.map_append, List.map_map, List.nodup_append]
  refine ⟨onlyIn_ids atHead, ?_, ?_⟩
  · refine nodup_filterMap_of_key (sortedBy_nodup _ _ ((Dict.keys_nodup _).filter _)) fun key change found => ?_
    unfold modification at found
    split at found
    · next before after inBaseline inHead =>
      obtain ⟨member, rfl⟩ := (Dict.get?_ofList atHead.ids).mp inHead
      split at found
      · cases found
      · cases found
        rw [Function.comp_apply, atHead.rebuilds _ member]
        exact atHead.shows after member
    · cases found
  · intro id added other modified same
    obtain ⟨listed, member, rfl⟩ := List.mem_map.mp added
    obtain ⟨after, inHead, absent, rfl⟩ := (mem_onlyIn atHead.ids).mp member
    obtain ⟨change, member', rfl⟩ := List.mem_map.mp modified
    obtain ⟨after', inHead', before, inBaseline, named, _, rfl⟩ :=
      (mem_modified atHead.ids atBaseline.ids).mp member'
    rw [Function.comp_apply, atHead.rebuilds _ inHead', atHead.shows after inHead,
      atHead.shows after' inHead'] at same
    exact absent (List.mem_map.mpr ⟨before, inBaseline, named.trans (Option.some.inj same).symm⟩)

/-- What a diff reports is what it lists of the head. -/
theorem reports_iff {after : α} (member : after ∈ head) :
    (diffKind document itemId head baseline).reports (itemId after) = true ↔
      itemId after ∉ baseline.map itemId ∨ ∃ before ∈ baseline, itemId before = itemId after ∧
        Json.objectEq (fact (document before)) (fact (document after)) = false := by
  unfold KindDiff.reports
  rw [Bool.or_eq_true, decide_eq_true_iff, decide_eq_true_iff, List.mem_map, List.mem_map]
  refine or_congr ⟨?_, fun absent => ?_⟩ ⟨?_, ?_⟩
  · rintro ⟨listed, added, shown⟩
    obtain ⟨other, inHead, absent, rfl⟩ := (mem_onlyIn atHead.ids).mp added
    rw [atHead.shows other inHead] at shown
    exact Option.some.inj shown ▸ absent
  · exact ⟨document after, (mem_onlyIn atHead.ids).mpr ⟨after, member, absent, rfl⟩, atHead.shows after member⟩
  · rintro ⟨change, modified, named⟩
    obtain ⟨other, inHead, before, inBaseline, same, different, rfl⟩ :=
      (mem_modified atHead.ids atBaseline.ids).mp modified
    obtain rfl := atHead.eq_of_id inHead member named
    exact ⟨before, inBaseline, same, different⟩
  · rintro ⟨before, inBaseline, same, different⟩
    exact ⟨_, (mem_modified atHead.ids atBaseline.ids).mpr
      ⟨after, member, before, inBaseline, same, different, rfl⟩, rfl⟩

/-- **What a diff lists of the head are the head's documents of the items it reports.** -/
theorem changed_perm :
    (changedDocuments identity (diffKind document itemId head baseline)).Perm
      ((head.filter fun after => (diffKind document itemId head baseline).reports (itemId after)).map
        document) := by
  refine (List.perm_ext_iff_of_nodup ((changed_ids atHead atBaseline).of_map _)
    (atHead.nodup_documents.sublist (List.filter_sublist.map _))).mpr fun listed => ?_
  rw [mem_changed atHead atBaseline, List.mem_map]
  constructor
  · rintro ⟨after, member, rfl, changed⟩
    exact ⟨after, List.mem_filter.mpr ⟨member, (reports_iff atHead atBaseline member).mpr changed⟩, rfl⟩
  · rintro ⟨after, kept, rfl⟩
    obtain ⟨member, reported⟩ := List.mem_filter.mp kept
    exact ⟨after, member, rfl, (reports_iff atHead atBaseline member).mp reported⟩

/-! ### What a patch gives -/

/-- What a patch keeps of the baseline. -/
theorem mem_kept {before : α} (inBaseline : before ∈ baseline) :
    (decide (idOf (document before) ∉ (diffKind document itemId head baseline).removed.map idOf) &&
      decide (idOf (document before) ∉ (diffKind document itemId head baseline).modified.map
        fun change => some change.id)) = true ↔
      ∃ after ∈ head, itemId before = itemId after ∧
        Json.objectEq (fact (document before)) (fact (document after)) = true := by
  rw [Bool.and_eq_true, decide_eq_true_iff, decide_eq_true_iff, atBaseline.shows before inBaseline]
  constructor
  · rintro ⟨stays, unmodified⟩
    have present : itemId before ∈ head.map itemId := by
      by_contra absent
      exact stays (List.mem_map.mpr ⟨_, (mem_onlyIn atBaseline.ids).mpr
        ⟨before, inBaseline, absent, rfl⟩, atBaseline.shows before inBaseline⟩)
    obtain ⟨after, inHead, same⟩ := List.mem_map.mp present
    refine ⟨after, inHead, same.symm, ?_⟩
    by_contra different
    refine unmodified (List.mem_map.mpr ⟨_, (mem_modified atHead.ids atBaseline.ids).mpr
      ⟨after, inHead, before, inBaseline, same.symm, Bool.eq_false_iff.mpr different, rfl⟩, ?_⟩)
    exact congrArg some same
  · rintro ⟨after, inHead, same, equal⟩
    constructor
    · intro removed
      obtain ⟨listed, member, shown⟩ := List.mem_map.mp removed
      obtain ⟨other, inside, absent, rfl⟩ := (mem_onlyIn atBaseline.ids).mp member
      rw [atBaseline.shows other inside] at shown
      rw [Option.some.inj shown, same] at absent
      exact absent (List.mem_map.mpr ⟨after, inHead, rfl⟩)
    · intro modified
      obtain ⟨change, member, named⟩ := List.mem_map.mp modified
      obtain ⟨other, inside, before', inBaseline', same', different, rfl⟩ :=
        (mem_modified atHead.ids atBaseline.ids).mp member
      have named : itemId other = itemId before := Option.some.inj named
      obtain rfl := atHead.eq_of_id inside inHead (named.trans same)
      obtain rfl := atBaseline.eq_of_id inBaseline' inBaseline (same'.trans named)
      rw [equal] at different
      cases different

/-- The documents of a patch: those of the baseline it keeps and those of the head that changed. -/
theorem mem_patch {listed : JsonObject} :
    listed ∈ patch identity (diffKind document itemId head baseline) (baseline.map document) ↔
      (∃ before ∈ baseline, document before = listed ∧ ∃ after ∈ head, itemId before = itemId after ∧
        Json.objectEq (fact (document before)) (fact (document after)) = true) ∨
      listed ∈ changedDocuments identity (diffKind document itemId head baseline) := by
  unfold patch
  rw [List.mem_append, List.mem_filter, List.mem_map]
  refine or_congr ⟨?_, ?_⟩ Iff.rfl
  · rintro ⟨⟨before, inBaseline, rfl⟩, kept⟩
    exact ⟨before, inBaseline, rfl, (mem_kept atHead atBaseline inBaseline).mp kept⟩
  · rintro ⟨before, inBaseline, rfl, equal⟩
    exact ⟨⟨before, inBaseline, rfl⟩, (mem_kept atHead atBaseline inBaseline).mpr equal⟩

/-- A patch gives each id once. -/
theorem patch_ids :
    ((patch identity (diffKind document itemId head baseline) (baseline.map document)).map idOf).Nodup := by
  have shown : (baseline.map document).map idOf = (baseline.map itemId).map some := by
    rw [List.map_map, List.map_map]
    exact List.map_congr_left fun item member => atBaseline.shows item member
  have distinct : ((baseline.map document).map idOf).Nodup :=
    shown ▸ atBaseline.ids.map (Option.some_injective _)
  unfold patch
  rw [List.map_append, List.nodup_append]
  refine ⟨distinct.sublist (List.filter_sublist.map _), changed_ids atHead atBaseline, ?_⟩
  intro id kept other changed same
  obtain ⟨listed, member, rfl⟩ := List.mem_map.mp kept
  obtain ⟨inside, stays⟩ := List.mem_filter.mp member
  obtain ⟨before, inBaseline, rfl⟩ := List.mem_map.mp inside
  obtain ⟨after, inHead, named, equal⟩ := (mem_kept atHead atBaseline inBaseline).mp stays
  obtain ⟨listed', member', rfl⟩ := List.mem_map.mp changed
  obtain ⟨after', inHead', rfl, differs⟩ := (mem_changed atHead atBaseline).mp member'
  rw [atBaseline.shows before inBaseline, atHead.shows after' inHead'] at same
  obtain rfl := atHead.eq_of_id inHead inHead' (named.symm.trans (Option.some.inj same))
  rcases differs with absent | ⟨before', inBaseline', named', different⟩
  · exact absent (List.mem_map.mpr ⟨before, inBaseline, named⟩)
  · obtain rfl := atBaseline.eq_of_id inBaseline inBaseline' (named.trans named'.symm)
    rw [equal] at different
    cases different

/-- What a patch gives for an item shows the id of the item. -/
theorem patched_shows {after : α} (member : after ∈ head) :
    idOf (patched document itemId baseline after) = some (itemId after) := by
  rcases @patched_cases _ document itemId baseline after with ⟨_, own⟩ | ⟨before, inBaseline, same, _, kept⟩
  · rw [own, atHead.shows after member]
  · rw [kept, atBaseline.shows before inBaseline, same]

/-- **Patching the baseline gives one document for each item of the head**: its own, or the baseline's where
Python takes the facts as equal. -/
theorem patch_perm : (patch identity (diffKind document itemId head baseline) (baseline.map document)).Perm
    (head.map (patched document itemId baseline)) := by
  have distinct : ((head.map (patched document itemId baseline)).map idOf).Nodup := by
    have shown : (head.map (patched document itemId baseline)).map idOf = (head.map itemId).map some := by
      rw [List.map_map, List.map_map]
      exact List.map_congr_left fun item member => patched_shows atHead atBaseline member
    exact shown ▸ atHead.ids.map (Option.some_injective _)
  refine (List.perm_ext_iff_of_nodup ((patch_ids atHead atBaseline).of_map _) (distinct.of_map _)).mpr
    fun listed => ?_
  rw [mem_patch atHead atBaseline, mem_changed atHead atBaseline, List.mem_map]
  constructor
  · rintro (⟨before, inBaseline, rfl, after, inHead, same, equal⟩ | ⟨after, inHead, rfl, differs⟩)
    · refine ⟨after, inHead, ?_⟩
      rcases @patched_cases _ document itemId baseline after with
        ⟨differs, _⟩ | ⟨before', inBaseline', same', _, kept⟩
      · rcases differs with absent | ⟨before', inBaseline', same', different⟩
        · exact (absent (List.mem_map.mpr ⟨before, inBaseline, same⟩)).elim
        · obtain rfl := atBaseline.eq_of_id inBaseline inBaseline' (same.trans same'.symm)
          rw [equal] at different
          cases different
      · rw [kept, atBaseline.eq_of_id inBaseline inBaseline' (same.trans same'.symm)]
    · refine ⟨after, inHead, ?_⟩
      rcases @patched_cases _ document itemId baseline after with ⟨_, own⟩ | ⟨before, inBaseline, same, equal, _⟩
      · exact own
      · rcases differs with absent | ⟨before', inBaseline', same', different⟩
        · exact (absent (List.mem_map.mpr ⟨before, inBaseline, same⟩)).elim
        · obtain rfl := atBaseline.eq_of_id inBaseline inBaseline' (same.trans same'.symm)
          rw [equal] at different
          cases different
  · rintro ⟨after, inHead, rfl⟩
    rcases @patched_cases _ document itemId baseline after with
      ⟨differs, own⟩ | ⟨before, inBaseline, same, equal, kept⟩
    · exact Or.inr ⟨after, inHead, own.symm, differs⟩
    · exact Or.inl ⟨before, inBaseline, kept.symm, after, inHead, same, equal⟩

/-- **The head is rebuilt exactly if and only if facts that are equal in Python are the same JSON.** -/
theorem rebuilds_iff :
    Rebuilds identity (diffKind document itemId head baseline) (baseline.map document) (head.map document) ↔
      Unconfused document itemId head baseline := by
  have perm := (patch_perm atHead atBaseline).map canonical
  rw [List.map_map] at perm
  unfold Rebuilds
  rw [List.map_map]
  constructor
  · intro precise after inHead before inBaseline same equal
    have stays : canonical (document before) ∈ head.map (canonical ∘ document) := by
      refine precise.mem_iff.mp (List.mem_map_of_mem ((mem_patch atHead atBaseline).mpr (Or.inl ?_)))
      exact ⟨before, inBaseline, rfl, after, inHead, same, equal⟩
    obtain ⟨other, inside, alike⟩ := List.mem_map.mp stays
    have shown := idOf_congr (atHead.formed other inside) (atBaseline.formed before inBaseline) alike
      (atHead.shows other inside)
    rw [atBaseline.shows before inBaseline] at shown
    obtain rfl := atHead.eq_of_id inside inHead ((Option.some.inj shown).symm.trans same)
    exact alike.symm
  · intro unconfused
    refine perm.trans (List.Perm.of_eq (List.map_congr_left fun after inHead => ?_))
    rcases @patched_cases _ document itemId baseline after with ⟨_, own⟩ | ⟨before, inBaseline, same, equal, kept⟩
    · exact congrArg canonical own
    · exact (congrArg canonical kept).trans (unconfused after inHead before inBaseline same equal)

/-! ### The sides exchanged, and one side twice -/

/-- Exchanging the sides exchanges what was added with what was removed, and before with after. -/
theorem diffKind_swap :
    diffKind document itemId baseline head = (diffKind document itemId head baseline).swap := by
  have shared : sortedBy id ((Dict.ofList itemId baseline).keys.filter (Dict.ofList itemId head).has) =
      sortedBy id ((Dict.ofList itemId head).keys.filter (Dict.ofList itemId baseline).has) := by
    refine sortedBy_eq_of_perm ?_ fun _ _ _ _ same => same
    rw [List.perm_ext_iff_of_nodup ((Dict.keys_nodup _).filter _) ((Dict.keys_nodup _).filter _)]
    intro key
    rw [List.mem_filter, List.mem_filter, Dict.has_iff, Dict.has_iff, and_comm]
  unfold diffKind KindDiff.swap
  rw [KindDiff.mk.injEq]
  refine ⟨rfl, rfl, ?_⟩
  rw [List.map_filterMap, shared]
  refine List.filterMap_congr fun key _ => ?_
  unfold modification
  cases inHead : (Dict.ofList itemId head).get? key with
  | none => cases (Dict.ofList itemId baseline).get? key <;> rfl
  | some after =>
    cases inBaseline : (Dict.ofList itemId baseline).get? key with
    | none => rfl
    | some before =>
      obtain ⟨member, _⟩ := (Dict.get?_ofList atHead.ids).mp inHead
      obtain ⟨member', _⟩ := (Dict.get?_ofList atBaseline.ids).mp inBaseline
      dsimp only
      rw [Json.objectEq_comm (atHead.fact_formed member) (atBaseline.fact_formed member')]
      split_ifs <;> rfl

end Sides

/-- A side does not differ from itself. -/
theorem diffKind_self (documented : Documented document itemId identity items) :
    diffKind document itemId items items = ⟨[], [], []⟩ := by
  have nothing : onlyIn document (Dict.ofList itemId items) (Dict.ofList itemId items) = [] := by
    refine List.eq_nil_iff_forall_not_mem.mpr fun listed member => ?_
    obtain ⟨item, inside, absent, _⟩ := (mem_onlyIn documented.ids).mp member
    exact absent (List.mem_map.mpr ⟨item, inside, rfl⟩)
  have unmodified : (diffKind document itemId items items).modified = [] := by
    refine List.eq_nil_iff_forall_not_mem.mpr fun change member => ?_
    obtain ⟨after, inside, before, inside', same, different, _⟩ :=
      (mem_modified documented.ids documented.ids).mp member
    obtain rfl := documented.eq_of_id inside' inside same
    have equal := Json.pyEq_refl _ (documented.fact_formed inside)
    exact Bool.false_ne_true (different.symm.trans equal)
  exact KindDiff.mk.injEq .. ▸ ⟨nothing, nothing, unmodified⟩

end Kind

end AxiomMcp.Query

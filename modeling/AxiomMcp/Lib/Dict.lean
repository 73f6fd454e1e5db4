/-
**Python's `dict`: keys once, in the order they were first stored.**

`Dict κ α` carries the proof that no key occurs twice, so a lookup has one answer and the size counts
keys.

* `get?`, `has`, `set` (`d[k] = v`, in place when the key is there), `setDefault`;
* `inKeyOrder` is `tuple(d[k] for k in sorted(d))`;
* `firstBy` keeps the first member with each key;
* `indexBy` files a list under a key (`d.setdefault(key(a), []).append(a)` over all `a`), and
  **looking a key up gives back the members filed under it, in order** (`getList_indexBy`).
-/

import AxiomMcp.Lib.Sorted
import Mathlib.Data.List.Nodup

namespace AxiomMcp.Lib

/-- A Python `dict`. -/
structure Dict (κ α : Type) where
  /-- The items, in insertion order. -/
  entries : List (κ × α)
  /-- A key is stored once. -/
  nodup : (entries.map Prod.fst).Nodup

namespace Dict

variable {κ α β : Type}

/-- `{}` -/
def empty : Dict κ α := ⟨[], List.nodup_nil⟩

/-- `list(d)` -/
def keys (d : Dict κ α) : List κ := d.entries.map Prod.fst

/-- `list(d.values())` -/
def values (d : Dict κ α) : List α := d.entries.map Prod.snd

/-- `len(d)` -/
def size (d : Dict κ α) : ℕ := d.entries.length

@[simp] theorem size_empty : (empty : Dict κ α).size = 0 := rfl

@[simp] theorem keys_empty : (empty : Dict κ α).keys = [] := rfl

@[simp] theorem length_keys (d : Dict κ α) : d.keys.length = d.size := List.length_map _

@[simp] theorem length_values (d : Dict κ α) : d.values.length = d.size := List.length_map _

theorem keys_nodup (d : Dict κ α) : d.keys.Nodup := d.nodup

@[ext] theorem ext {d e : Dict κ α} (same : d.entries = e.entries) : d = e := by
  cases d
  cases e
  cases same
  rfl

variable [DecidableEq κ]

/-- `d.get(k)` -/
def get? (d : Dict κ α) (k : κ) : Option α := d.entries.lookup k

/-- `k in d` -/
def has (d : Dict κ α) (k : κ) : Bool := decide (k ∈ d.keys)

@[simp] theorem has_iff {d : Dict κ α} {k : κ} : d.has k = true ↔ k ∈ d.keys := decide_eq_true_iff

@[simp] theorem get?_empty (k : κ) : (empty : Dict κ α).get? k = none := rfl

omit [DecidableEq κ] in
private theorem fst_mem_map {k : κ} {v : α} {l : List (κ × α)} (member : (k, v) ∈ l) :
    k ∈ l.map Prod.fst :=
  List.mem_map.mpr ⟨(k, v), member, rfl⟩

private theorem lookup_iff {l : List (κ × α)} (distinct : (l.map Prod.fst).Nodup) {k : κ} {v : α} :
    l.lookup k = some v ↔ (k, v) ∈ l := by
  induction l with
  | nil => simp
  | cons head tail ih =>
    obtain ⟨key, value⟩ := head
    rw [List.map_cons, List.nodup_cons] at distinct
    by_cases same : k = key
    · subst same
      rw [List.lookup_cons_self, List.mem_cons]
      constructor
      · rintro ⟨rfl⟩
        exact Or.inl rfl
      · rintro (equal | member)
        · cases equal
          rfl
        · exact (distinct.1 (fst_mem_map member)).elim
    · rw [List.lookup_cons, beq_false_of_ne same, ih distinct.2, List.mem_cons]
      constructor
      · exact Or.inr
      · rintro (equal | member)
        · cases equal
          exact (same rfl).elim
        · exact member

/-- A lookup finds exactly the stored item. -/
theorem get?_eq_some {d : Dict κ α} {k : κ} {v : α} : d.get? k = some v ↔ (k, v) ∈ d.entries :=
  lookup_iff d.nodup

theorem get?_isSome {d : Dict κ α} {k : κ} : (d.get? k).isSome = true ↔ k ∈ d.keys := by
  rw [Option.isSome_iff_exists, keys, List.mem_map]
  constructor
  · rintro ⟨v, found⟩
    exact ⟨(k, v), get?_eq_some.mp found, rfl⟩
  · rintro ⟨⟨key, v⟩, member, rfl⟩
    exact ⟨v, get?_eq_some.mpr member⟩

theorem get?_eq_none {d : Dict κ α} {k : κ} : d.get? k = none ↔ k ∉ d.keys := by
  rw [← get?_isSome, Option.not_isSome_iff_eq_none]

theorem has_eq (d : Dict κ α) (k : κ) : d.has k = (d.get? k).isSome := by
  rw [Bool.eq_iff_iff, has_iff, get?_isSome]

theorem mem_values {d : Dict κ α} {v : α} : v ∈ d.values ↔ ∃ k, d.get? k = some v := by
  rw [values, List.mem_map]
  constructor
  · rintro ⟨⟨k, value⟩, member, rfl⟩
    exact ⟨k, get?_eq_some.mpr member⟩
  · rintro ⟨k, found⟩
    exact ⟨(k, v), get?_eq_some.mp found, rfl⟩

/-! ### Storing -/

/-- `d[k] = v` -/
def set (d : Dict κ α) (k : κ) (v : α) : Dict κ α :=
  if stored : k ∈ d.keys then
    ⟨d.entries.map fun item => if item.1 = k then (k, v) else item, by
      have same : (d.entries.map fun item => if item.1 = k then (k, v) else item).map Prod.fst =
          d.entries.map Prod.fst := by
        rw [List.map_map]
        refine List.map_congr_left fun item _ => ?_
        by_cases here : item.1 = k
        · simp [here]
        · simp [here]
      rw [same]
      exact d.nodup⟩
  else
    ⟨d.entries ++ [(k, v)], by
      rw [List.map_append, List.nodup_append]
      refine ⟨d.nodup, List.nodup_singleton k, ?_⟩
      intro a inside b last equal
      rw [List.map_singleton, List.mem_singleton] at last
      subst last
      exact stored (equal ▸ inside)⟩

/-- `d.setdefault(k, v)` -/
def setDefault (d : Dict κ α) (k : κ) (v : α) : Dict κ α :=
  if k ∈ d.keys then d else d.set k v

theorem entries_set_of_notMem {d : Dict κ α} {k : κ} (fresh : k ∉ d.keys) (v : α) :
    (d.set k v).entries = d.entries ++ [(k, v)] := by
  rw [set, dif_neg fresh]

theorem entries_set_of_mem {d : Dict κ α} {k : κ} (stored : k ∈ d.keys) (v : α) :
    (d.set k v).entries = d.entries.map fun item => if item.1 = k then (k, v) else item := by
  rw [set, dif_pos stored]

theorem keys_set_of_notMem {d : Dict κ α} {k : κ} (fresh : k ∉ d.keys) (v : α) :
    (d.set k v).keys = d.keys ++ [k] := by
  rw [keys, entries_set_of_notMem fresh, List.map_append]
  rfl

theorem size_set_of_notMem {d : Dict κ α} {k : κ} (fresh : k ∉ d.keys) (v : α) :
    (d.set k v).size = d.size + 1 := by
  rw [size, entries_set_of_notMem fresh, List.length_append]
  rfl

theorem keys_set_of_mem {d : Dict κ α} {k : κ} (stored : k ∈ d.keys) (v : α) :
    (d.set k v).keys = d.keys := by
  rw [set, dif_pos stored, keys, keys, List.map_map]
  refine List.map_congr_left fun item _ => ?_
  by_cases here : item.1 = k
  · simp [here]
  · simp [here]

theorem mem_keys_set {d : Dict κ α} {k j : κ} {v : α} :
    j ∈ (d.set k v).keys ↔ j ∈ d.keys ∨ j = k := by
  by_cases stored : k ∈ d.keys
  · rw [keys_set_of_mem stored]
    constructor
    · exact Or.inl
    · rintro (old | rfl)
      · exact old
      · exact stored
  · rw [keys_set_of_notMem stored, List.mem_append, List.mem_singleton]

theorem get?_set {d : Dict κ α} {k j : κ} {v : α} :
    (d.set k v).get? j = if j = k then some v else d.get? j := by
  by_cases here : j = k
  · subst here
    rw [if_pos rfl, get?_eq_some]
    by_cases stored : j ∈ d.keys
    · obtain ⟨item, member, equal⟩ := List.mem_map.mp stored
      rw [set, dif_pos stored, List.mem_map]
      exact ⟨item, member, if_pos equal⟩
    · rw [entries_set_of_notMem stored]
      exact List.mem_append_right _ (List.mem_singleton.mpr rfl)
  · rw [if_neg here]
    refine Option.ext fun w => ?_
    rw [get?_eq_some, get?_eq_some]
    by_cases stored : k ∈ d.keys
    · rw [set, dif_pos stored, List.mem_map]
      constructor
      · rintro ⟨item, member, equal⟩
        by_cases same : item.1 = k
        · rw [if_pos same] at equal
          exact (here (Prod.mk.inj equal).1.symm).elim
        · rw [if_neg same] at equal
          exact equal ▸ member
      · intro member
        exact ⟨(j, w), member, if_neg here⟩
    · rw [entries_set_of_notMem stored, List.mem_append, List.mem_singleton]
      constructor
      · rintro (old | new)
        · exact old
        · exact (here (Prod.mk.inj new).1).elim
      · exact Or.inl

theorem mem_entries_set {d : Dict κ α} {k : κ} {v : α} {item : κ × α}
    (member : item ∈ (d.set k v).entries) : item = (k, v) ∨ item ∈ d.entries := by
  have found := get?_eq_some.mpr member
  rw [get?_set] at found
  by_cases here : item.1 = k
  · rw [if_pos here] at found
    exact Or.inl (Prod.ext here (Option.some.inj found).symm)
  · rw [if_neg here] at found
    exact Or.inr (get?_eq_some.mp found)

/-- Storing what is there changes nothing. -/
theorem set_self {d : Dict κ α} {k : κ} {v : α} (found : d.get? k = some v) : d.set k v = d := by
  have stored : k ∈ d.keys := get?_isSome.mp (by rw [found]; rfl)
  refine Dict.ext ?_
  rw [entries_set_of_mem stored]
  refine (List.map_congr_left fun item member => ?_).trans (List.map_id _)
  by_cases here : item.1 = k
  · have value : d.get? k = some item.2 := get?_eq_some.mpr (here ▸ member)
    rw [found] at value
    rw [if_pos here, Option.some.inj value, ← here]
    rfl
  · exact if_neg here

/-- The later of two values stored under one key is kept. -/
theorem set_set (d : Dict κ α) (k : κ) (v w : α) : (d.set k v).set k w = d.set k w := by
  have stored : k ∈ (d.set k v).keys := mem_keys_set.mpr (Or.inr rfl)
  refine Dict.ext ?_
  rw [entries_set_of_mem stored]
  by_cases old : k ∈ d.keys
  · rw [entries_set_of_mem old, entries_set_of_mem old, List.map_map]
    refine List.map_congr_left fun item _ => ?_
    by_cases here : item.1 = k
    · simp [here]
    · simp [here]
  · rw [entries_set_of_notMem old, entries_set_of_notMem old, List.map_append, List.map_singleton,
      if_pos rfl]
    have others : d.entries.map (fun item => if item.1 = k then (k, w) else item) = d.entries := by
      refine (List.map_congr_left fun item member => ?_).trans (List.map_id _)
      exact if_neg fun here => old (List.mem_map.mpr ⟨item, member, here⟩)
    rw [others]

theorem setDefault_of_mem {d : Dict κ α} {k : κ} (stored : k ∈ d.keys) (v : α) :
    d.setDefault k v = d := if_pos stored

theorem setDefault_of_notMem {d : Dict κ α} {k : κ} (fresh : k ∉ d.keys) (v : α) :
    d.setDefault k v = d.set k v := if_neg fresh

theorem mem_keys_setDefault {d : Dict κ α} {k j : κ} {v : α} :
    j ∈ (d.setDefault k v).keys ↔ j ∈ d.keys ∨ j = k := by
  by_cases stored : k ∈ d.keys
  · rw [setDefault_of_mem stored]
    constructor
    · exact Or.inl
    · rintro (old | rfl)
      · exact old
      · exact stored
  · rw [setDefault_of_notMem stored, mem_keys_set]

theorem get?_setDefault {d : Dict κ α} {k j : κ} {v : α} :
    (d.setDefault k v).get? j = if j = k then some ((d.get? k).getD v) else d.get? j := by
  by_cases stored : k ∈ d.keys
  · rw [setDefault_of_mem stored]
    by_cases here : j = k
    · subst here
      obtain ⟨w, found⟩ := Option.isSome_iff_exists.mp (get?_isSome.mpr stored)
      rw [if_pos rfl, found]
      rfl
    · rw [if_neg here]
  · rw [setDefault_of_notMem stored, get?_set, get?_eq_none.mpr stored]
    rfl

/-! ### Building -/

/-- `{key(a): a for a in l}` -/
def ofList (key : α → κ) (l : List α) : Dict κ α :=
  l.foldl (fun d a => d.set (key a) a) empty

/-- `{a.key: a}` over distinct keys keeps every item. -/
theorem foldl_set_entries (key : α → κ) (l : List α) (d : Dict κ α)
    (distinct : (d.keys ++ l.map key).Nodup) :
    (l.foldl (fun d a => d.set (key a) a) d).entries = d.entries ++ l.map fun a => (key a, a) := by
  induction l generalizing d with
  | nil => simp
  | cons a tail ih =>
    have fresh : key a ∉ d.keys := by
      intro stored
      have apart := (List.nodup_append.mp distinct).2.2
      exact apart _ stored _ List.mem_cons_self rfl
    rw [List.foldl_cons, ih]
    · rw [entries_set_of_notMem fresh, List.append_assoc]
      rfl
    · rw [keys_set_of_notMem fresh, List.append_assoc]
      exact distinct

theorem entries_ofList {key : α → κ} {l : List α} (distinct : (l.map key).Nodup) :
    (ofList key l).entries = l.map fun a => (key a, a) := by
  rw [ofList, foldl_set_entries key l empty (by simpa using distinct)]
  rfl

theorem get?_ofList {key : α → κ} {l : List α} (distinct : (l.map key).Nodup) {k : κ} {a : α} :
    (ofList key l).get? k = some a ↔ a ∈ l ∧ key a = k := by
  rw [get?_eq_some, entries_ofList distinct, List.mem_map]
  constructor
  · rintro ⟨b, member, equal⟩
    cases equal
    exact ⟨member, rfl⟩
  · rintro ⟨member, rfl⟩
    exact ⟨a, member, rfl⟩

/-- What is found under a key is an item of that key. -/
theorem mem_of_get?_ofList {key : α → κ} {l : List α} {k : κ} {a : α} (found : (ofList key l).get? k = some a) :
    a ∈ l ∧ key a = k := by
  have general : ∀ d : Dict κ α, (l.foldl (fun d a => d.set (key a) a) d).get? k = some a →
      d.get? k = some a ∨ a ∈ l ∧ key a = k := by
    clear found
    induction l with
    | nil => exact fun _ stored => .inl stored
    | cons b rest ih =>
      intro d stored
      rcases ih (d.set (key b) b) stored with old | ⟨member, same⟩
      · rw [get?_set] at old
        split at old
        · next here =>
          obtain rfl := Option.some.inj old
          exact .inr ⟨List.mem_cons_self, here.symm⟩
        · exact .inl old
      · exact .inr ⟨List.mem_cons_of_mem _ member, same⟩
  exact (general empty found).resolve_left (by simp)

/-- Values told apart by their keys are looked up the same in every order. -/
theorem get?_ofList_perm {key : α → κ} {l m : List α} (distinct : (l.map key).Nodup)
    (same : l.Perm m) (k : κ) : (ofList key l).get? k = (ofList key m).get? k := by
  have distinct' : (m.map key).Nodup := (same.map key).nodup_iff.mp distinct
  refine Option.ext fun a => ?_
  rw [get?_ofList distinct, get?_ofList distinct', same.mem_iff]

/-- The dictionary after some assignments in order. -/
def assign (d : Dict κ α) (l : List (κ × α)) : Dict κ α := l.foldl (fun d item => d.set item.1 item.2) d

theorem entries_assign {d : Dict κ α} {l : List (κ × α)} (distinct : (d.keys ++ l.map Prod.fst).Nodup) :
    (d.assign l).entries = d.entries ++ l := by
  induction l generalizing d with
  | nil => rw [List.append_nil, assign, List.foldl_nil]
  | cons item rest ih =>
    have fresh : item.1 ∉ d.keys := by
      intro stored
      have apart := (List.nodup_append.mp distinct).2.2
      exact apart _ stored _ List.mem_cons_self rfl
    have next : ((d.set item.1 item.2).keys ++ rest.map Prod.fst).Nodup := by
      rw [keys_set_of_notMem fresh, List.append_assoc]
      exact distinct
    have first := ih next
    rw [entries_set_of_notMem fresh, List.append_assoc] at first
    exact first

theorem size_assign_le (d : Dict κ α) (l : List (κ × α)) : (d.assign l).size ≤ d.size + l.length := by
  induction l generalizing d with
  | nil => exact le_rfl
  | cons item rest ih =>
    have later := ih (d.set item.1 item.2)
    have once : (d.set item.1 item.2).size ≤ d.size + 1 := by
      by_cases stored : item.1 ∈ d.keys
      · rw [← length_keys, keys_set_of_mem stored, length_keys]
        exact Nat.le_succ _
      · exact (size_set_of_notMem stored _).le
    have whole : (d.assign (item :: rest)).size = ((d.set item.1 item.2).assign rest).size := rfl
    rw [whole, List.length_cons]
    omega

/-- A key that is assigned twice costs an item. -/
theorem nodup_of_size_assign {d : Dict κ α} {l : List (κ × α)} (full : (d.assign l).size = d.size + l.length) :
    (d.keys ++ l.map Prod.fst).Nodup := by
  induction l generalizing d with
  | nil =>
    rw [List.map_nil, List.append_nil]
    exact d.keys_nodup
  | cons item rest ih =>
    have whole : (d.assign (item :: rest)).size = ((d.set item.1 item.2).assign rest).size := rfl
    have later := size_assign_le (d.set item.1 item.2) rest
    rw [whole, List.length_cons] at full
    by_cases stored : item.1 ∈ d.keys
    · have same : (d.set item.1 item.2).size = d.size := by
        rw [← length_keys, keys_set_of_mem stored, length_keys]
      omega
    · have grown := size_set_of_notMem stored item.2
      have distinct := ih (d := d.set item.1 item.2) (by omega)
      rw [keys_set_of_notMem stored, List.append_assoc] at distinct
      exact distinct

/-- An item of the outcome was there, or is one of the assignments. -/
theorem mem_entries_assign {d : Dict κ α} {l : List (κ × α)} {item : κ × α} (member : item ∈ (d.assign l).entries) :
    item ∈ d.entries ∨ item ∈ l := by
  induction l generalizing d with
  | nil => exact Or.inl member
  | cons first rest ih =>
    rcases ih member with stored | later
    · rcases mem_entries_set stored with rfl | old
      · exact Or.inr List.mem_cons_self
      · exact Or.inl old
    · exact Or.inr (List.mem_cons_of_mem _ later)

/-- `{k: f(v) for k, v in d.items()}` -/
def mapValues {β : Type} (f : α → β) (d : Dict κ α) : Dict κ β :=
  ⟨d.entries.map fun item => (item.1, f item.2), by
    rw [List.map_map]
    exact d.nodup⟩

theorem get?_mapValues {β : Type} (f : α → β) (d : Dict κ α) (k : κ) :
    (d.mapValues f).get? k = (d.get? k).map f := by
  refine Option.ext fun b => ?_
  rw [get?_eq_some, mapValues, List.mem_map, Option.map_eq_some_iff]
  simp only [get?_eq_some]
  constructor
  · rintro ⟨⟨j, v⟩, member, same⟩
    cases same
    exact ⟨v, member, rfl⟩
  · rintro ⟨v, member, rfl⟩
    exact ⟨(k, v), member, rfl⟩

omit [DecidableEq κ] in
/-- The keys of stores one after another. -/
theorem mem_keys_foldl (store : Dict κ α → κ → α → Dict κ α)
    (stores : ∀ d k v j, j ∈ (store d k v).keys ↔ j ∈ d.keys ∨ j = k) (key : α → κ) (l : List α)
    {j : κ} : ∀ {d : Dict κ α}, j ∈ (l.foldl (fun d a => store d (key a) a) d).keys ↔
      j ∈ d.keys ∨ ∃ a ∈ l, key a = j := by
  induction l with
  | nil => simp
  | cons a rest ih =>
    intro d
    rw [List.foldl_cons, ih, stores, or_assoc, List.exists_mem_cons_iff]
    simp only [eq_comm]

theorem mem_keys_ofList {key : α → κ} {l : List α} {j : κ} :
    j ∈ (ofList key l).keys ↔ ∃ a ∈ l, key a = j := by
  rw [ofList, mem_keys_foldl set fun _ _ _ _ => mem_keys_set]
  simp

omit [DecidableEq κ] in
theorem values_eq_nil {d : Dict κ α} : d.values = [] ↔ ∀ k, k ∉ d.keys := by
  rw [← List.eq_nil_iff_forall_not_mem, values, keys, List.map_eq_nil_iff, List.map_eq_nil_iff]

/-- `d.setdefault(key(a), a)` over all `a`: of several members with one key the first is kept. -/
def firstBy (key : α → κ) (l : List α) : Dict κ α :=
  l.foldl (fun d a => d.setDefault (key a) a) empty

theorem get?_firstBy (key : α → κ) (l : List α) (k : κ) :
    (firstBy key l).get? k = l.find? fun a => key a = k := by
  have general : ∀ d : Dict κ α, (l.foldl (fun d a => d.setDefault (key a) a) d).get? k =
      (d.get? k).orElse fun _ => l.find? fun a => key a = k := by
    induction l with
    | nil =>
      intro d
      cases found : d.get? k <;> simp [found]
    | cons a tail ih =>
      intro d
      rw [List.foldl_cons, ih, get?_setDefault]
      by_cases here : k = key a
      · subst here
        cases d.get? (key a) <;> simp
      · have other : ¬ key a = k := fun same => here same.symm
        rw [if_neg here, List.find?_cons_of_neg (by simpa using other)]
  exact general empty

theorem mem_values_firstBy {key : α → κ} {l : List α} {a : α} :
    a ∈ (firstBy key l).values ↔ l.find? (fun b => key b = key a) = some a := by
  rw [mem_values]
  simp only [get?_firstBy]
  constructor
  · rintro ⟨k, found⟩
    have named : key a = k := by simpa using List.find?_some found
    rw [named]
    exact found
  · exact fun found => ⟨key a, found⟩

/-- The only member of a list that passes is the one found. -/
theorem find?_of_unique {p : α → Bool} {l : List α} {a : α} (member : a ∈ l) (passes : p a = true)
    (only : ∀ b ∈ l, p b = true → b = a) : l.find? p = some a := by
  cases found : l.find? p with
  | none => exact (List.find?_eq_none.mp found a member passes).elim
  | some b => rw [only b (List.mem_of_find?_eq_some found) (List.find?_some found)]

/-- Where the key tells members apart, the first with a key does not depend on their order or number. -/
theorem get?_firstBy_congr {key : α → κ} {l m : List α}
    (apart : ∀ a ∈ l, ∀ b ∈ l, key a = key b → a = b) (same : ∀ a, a ∈ l ↔ a ∈ m) (k : κ) :
    (firstBy key l).get? k = (firstBy key m).get? k := by
  have found : ∀ {n : List α}, (∀ a, a ∈ n ↔ a ∈ l) → ∀ a,
      n.find? (fun b => key b = k) = some a ↔ a ∈ l ∧ key a = k := by
    intro n listed a
    constructor
    · intro here
      exact ⟨(listed a).mp (List.mem_of_find?_eq_some here), by simpa using List.find?_some here⟩
    · rintro ⟨member, rfl⟩
      exact find?_of_unique ((listed a).mpr member) (by simp) fun b other equal =>
        apart b ((listed b).mp other) a member (of_decide_eq_true equal)
  rw [get?_firstBy, get?_firstBy]
  refine Option.ext fun a => ?_
  rw [found fun b => Iff.rfl, found fun b => (same b).symm]

/-! ### Filing under a key -/

/-- `d.get(k, ())` of a dictionary of lists. -/
def getList (d : Dict κ (List α)) (k : κ) : List α := (d.get? k).getD []

/-- `d.setdefault(k, []).append(a)` -/
def append (d : Dict κ (List α)) (k : κ) (a : α) : Dict κ (List α) :=
  d.set k (d.getList k ++ [a])

theorem getList_append (d : Dict κ (List α)) (k j : κ) (a : α) :
    (d.append k a).getList j = d.getList j ++ if j = k then [a] else [] := by
  unfold append
  rw [getList, get?_set]
  by_cases here : j = k
  · rw [if_pos here, if_pos here, here]
    rfl
  · rw [if_neg here, if_neg here, List.append_nil]
    rfl

/-- File every member under its key; a member without a key is left out. -/
def indexBy (key : α → Option κ) (l : List α) : Dict κ (List α) :=
  l.foldl (fun d a => match key a with
    | some k => d.append k a
    | none => d) empty

/-- Under a key stand the members filed there, in order. -/
theorem getList_indexBy (key : α → Option κ) (l : List α) (k : κ) :
    (indexBy key l).getList k = l.filter fun a => key a = some k := by
  have general : ∀ d : Dict κ (List α),
      (l.foldl (fun d a => match key a with
        | some k => d.append k a
        | none => d) d).getList k = d.getList k ++ l.filter fun a => key a = some k := by
    induction l with
    | nil => simp
    | cons a tail ih =>
      intro d
      rw [List.foldl_cons, ih, List.filter_cons]
      cases filed : key a with
      | none => simp
      | some j =>
        rw [getList_append]
        by_cases here : k = j
        · subst here
          simp
        · have other : ¬ j = k := fun same => here same.symm
          simp [here, other]
  exact general empty

/-! ### Values in key order -/

/-- `tuple(d[k] for k in sorted(d))` -/
def inKeyOrder [LinearOrder κ] (d : Dict κ α) : List α :=
  (sortedBy id d.keys).filterMap d.get?

theorem mem_inKeyOrder [LinearOrder κ] {d : Dict κ α} {v : α} :
    v ∈ d.inKeyOrder ↔ ∃ k, d.get? k = some v := by
  rw [inKeyOrder, List.mem_filterMap]
  constructor
  · rintro ⟨k, _, found⟩
    exact ⟨k, found⟩
  · rintro ⟨k, found⟩
    refine ⟨k, ?_, found⟩
    rw [mem_sortedBy, ← get?_isSome, found]
    rfl

theorem map_get?_keys (d : Dict κ α) : d.keys.filterMap d.get? = d.values := by
  have each : ∀ item ∈ d.entries, d.get? item.1 = some item.2 := fun item member =>
    get?_eq_some.mpr member
  rw [keys, values, List.filterMap_map, ← List.filterMap_eq_map]
  exact List.filterMap_congr each

theorem inKeyOrder_perm [LinearOrder κ] (d : Dict κ α) : d.inKeyOrder.Perm d.values := by
  rw [← map_get?_keys]
  exact (sortedBy_perm id d.keys).filterMap _

theorem inKeyOrder_firstBy_eq_nil [LinearOrder κ] {key : α → κ} {l : List α} :
    (firstBy key l).inKeyOrder = [] ↔ l = [] := by
  constructor
  · intro empty
    cases l with
    | nil => rfl
    | cons a tail =>
      have found : (firstBy key (a :: tail)).get? (key a) = some a := by
        rw [get?_firstBy, List.find?_cons_of_pos (by simp)]
      have member := mem_inKeyOrder.mpr ⟨key a, found⟩
      rw [empty] at member
      exact (List.not_mem_nil member).elim
  · rintro rfl
    rfl

@[simp] theorem length_inKeyOrder [LinearOrder κ] (d : Dict κ α) :
    d.inKeyOrder.length = d.size := by
  rw [(inKeyOrder_perm d).length_eq, length_values]

/-- Two dictionaries with the same lookups list the same values in key order. -/
theorem inKeyOrder_congr [LinearOrder κ] {d e : Dict κ α} (same : ∀ k, d.get? k = e.get? k) :
    d.inKeyOrder = e.inKeyOrder := by
  have lookups : d.get? = e.get? := funext same
  have keys : d.keys.Perm e.keys := by
    rw [List.perm_ext_iff_of_nodup d.keys_nodup e.keys_nodup]
    intro k
    rw [← get?_isSome, ← get?_isSome, same]
  have sorted : sortedBy id d.keys = sortedBy id e.keys :=
    sortedBy_eq_of_perm keys fun _ _ _ _ equal => equal
  rw [inKeyOrder, inKeyOrder, sorted, lookups]

/-- Two dictionaries with the same lookups hold the same values. -/
theorem values_perm_of_lookups [LinearOrder κ] {d e : Dict κ α}
    (same : ∀ k, d.get? k = e.get? k) : d.values.Perm e.values := by
  have sorted := inKeyOrder_congr same
  exact (inKeyOrder_perm d).symm.trans (sorted ▸ inKeyOrder_perm e)

/-- Two dictionaries with the same lookups list the same chosen keys in order. -/
theorem sortedKeys_congr [LinearOrder κ] {d e : Dict κ α} {kept kept' : κ → Bool}
    (same : ∀ k, d.get? k = e.get? k) (agree : ∀ k, kept k = kept' k) :
    sortedBy id (d.keys.filter kept) = sortedBy id (e.keys.filter kept') := by
  refine sortedBy_eq_of_perm ?_ fun _ _ _ _ equal => equal
  rw [List.perm_ext_iff_of_nodup (d.keys_nodup.filter _) (e.keys_nodup.filter _)]
  intro k
  rw [List.mem_filter, List.mem_filter, ← get?_isSome, ← get?_isSome, same, agree]

end Dict

end AxiomMcp.Lib

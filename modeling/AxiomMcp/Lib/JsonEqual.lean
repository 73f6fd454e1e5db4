/-
**Python's `==` on JSON values is reflexive and symmetric.**

* `pyEqItems_iff`, `pyEqEntries_iff`: arrays are equal member by member, and an object lies in another when
  every item of it is there;
* `pyEq_refl`, `pyEq_symm`: on values that hold each key once. Objects are compared in one direction after
  their lengths, so symmetry counts the keys.
-/

import AxiomMcp.Lib.JsonRound

namespace AxiomMcp.Lib

namespace Json

theorem pyEqItems_iff {as bs : List Json} :
    pyEqItems as bs = true ↔ List.Forall₂ (fun a b => pyEq a b = true) as bs := by
  induction as generalizing bs with
  | nil => cases bs <;> simp [pyEqItems]
  | cons a as ih =>
    cases bs with
    | nil => simp [pyEqItems]
    | cons b bs => simp [pyEqItems, ih]

theorem pyEqEntries_iff {entries other : JsonObject} :
    pyEqEntries entries other = true ↔
      ∀ item ∈ entries, ∃ value, get? other item.1 = some value ∧ pyEq item.2 value = true := by
  induction entries with
  | nil => simp [pyEqEntries]
  | cons item rest ih =>
    obtain ⟨key, a⟩ := item
    rw [pyEqEntries, Bool.and_eq_true, ih, List.forall_mem_cons]
    refine and_congr_left fun _ => ?_
    cases get? other key <;> simp

theorem pyEq_arr {as bs : List Json} : pyEq (.arr as) (.arr bs) = pyEqItems as bs := by
  rw [pyEq]

theorem pyEq_obj {a b : JsonObject} : pyEq (.obj a) (.obj b) = true ↔
    a.length = b.length ∧ pyEqEntries a b = true := by
  rw [pyEq, Bool.and_eq_true, beq_iff_eq]

theorem floatEq_comm (x y : PyFloat) : x.pyEq y = y.pyEq x := by
  unfold PyFloat.pyEq
  rw [Bool.and_comm (!x.isNaN), Bool.and_comm (x.units == 0), BEq.comm]

theorem pyEq_refl : ∀ value : Json, value.WellFormed → pyEq value value = true := by
  intro value
  induction value using induct with
  | null => exact fun _ => rfl
  | bool value => simp [pyEq, asInt?]
  | int value => simp [pyEq, asInt?]
  | float value => cases number : value.isNaN <;> simp [pyEq, PyFloat.pyEq, number]
  | str value => simp [pyEq]
  | arr items ih =>
    intro formed
    rw [pyEq_arr, pyEqItems_iff, List.forall₂_same]
    exact fun item member => ih item member (wellFormed_arr.mp formed item member)
  | obj entries ih =>
    intro formed
    obtain ⟨distinct, members⟩ := wellFormed_obj.mp formed
    refine pyEq_obj.mpr ⟨rfl, pyEqEntries_iff.mpr fun item member => ?_⟩
    exact ⟨item.2, (get?_eq_some distinct).mpr member, ih item member (members item member)⟩

/-- An object as long as another one that holds all its items holds all items of the other. -/
theorem pyEqEntries_symm {a b : JsonObject} (distinctA : (a.map Prod.fst).Nodup)
    (distinctB : (b.map Prod.fst).Nodup) (length : a.length = b.length)
    (symm : ∀ item ∈ a, ∀ value, pyEq item.2 value = true → (∃ key, (key, value) ∈ b) →
      pyEq value item.2 = true)
    (inside : pyEqEntries a b = true) : pyEqEntries b a = true := by
  have found := pyEqEntries_iff.mp inside
  have keys : (a.map Prod.fst) ⊆ b.map Prod.fst := by
    intro key member
    obtain ⟨item, here, rfl⟩ := List.mem_map.mp member
    obtain ⟨value, there, _⟩ := found item here
    exact List.mem_map.mpr ⟨_, (get?_eq_some distinctB).mp there, rfl⟩
  have perm : (a.map Prod.fst).Perm (b.map Prod.fst) :=
    (List.subperm_of_subset distinctA keys).perm_of_length_le (by simp [length])
  refine pyEqEntries_iff.mpr fun item member => ?_
  obtain ⟨other, here, same⟩ :=
    List.mem_map.mp (perm.mem_iff.mpr (List.mem_map.mpr ⟨item, member, rfl⟩))
  refine ⟨other.2, (get?_eq_some distinctA).mpr (same ▸ here), ?_⟩
  obtain ⟨value, there, equal⟩ := found other here
  rw [same] at there
  have stored : get? b item.1 = some item.2 := (get?_eq_some distinctB).mpr member
  obtain rfl := Option.some.inj (there.symm.trans stored)
  exact symm other here _ equal ⟨item.1, member⟩

theorem pyEq_symm : ∀ a b : Json, a.WellFormed → b.WellFormed → pyEq a b = true → pyEq b a = true := by
  intro a
  induction a using induct with
  | null => rintro (_ | _ | _ | _ | _ | _ | _) _ _ <;> simp [pyEq, asInt?]
  | bool value =>
    rintro (_ | _ | _ | _ | _ | _ | _) _ _ <;> simp [pyEq, asInt?]
    · exact Eq.symm
    · exact Eq.symm
  | int value =>
    rintro (_ | _ | _ | _ | _ | _ | _) _ _ <;> simp [pyEq, asInt?]
    · exact Eq.symm
    · exact Eq.symm
  | float value =>
    rintro (_ | _ | _ | other | _ | _ | _) _ _ <;> simp [pyEq, asInt?]
    rw [floatEq_comm, and_comm]
    exact id
  | str value =>
    rintro (_ | _ | _ | _ | _ | _ | _) _ _ <;> simp [pyEq, asInt?]
    exact Eq.symm
  | arr items ih =>
    rintro (_ | _ | _ | _ | _ | others | _) formed formed' <;> try simp [pyEq, asInt?]
    rw [pyEqItems_iff, pyEqItems_iff]
    rw [wellFormed_arr] at formed formed'
    intro equal
    induction equal with
    | nil => exact .nil
    | cons same _ rest =>
      rw [List.forall_mem_cons] at formed formed' ih
      exact .cons (ih.1 _ formed.1 formed'.1 same) (rest ih.2 formed.2 formed'.2)
  | obj entries ih =>
    rintro (_ | _ | _ | _ | _ | _ | others) formed formed' <;> try simp [pyEq, asInt?]
    rw [wellFormed_obj] at formed formed'
    intro length inside
    refine ⟨length.symm, pyEqEntries_symm formed.1 formed'.1 length ?_ inside⟩
    rintro item member value equal ⟨key, there⟩
    exact ih item member value (formed.2 item member) (formed'.2 _ there) equal

theorem normalEntries_eq {entries : JsonObject} (distinct : (entries.map Prod.fst).Nodup)
    (each : ∀ item ∈ entries, normal item.2 = item.2) : normalEntries entries = entries := by
  induction entries with
  | nil => rfl
  | cons item rest ih =>
    obtain ⟨key, value⟩ := item
    obtain ⟨fresh, distinct⟩ := List.nodup_cons.mp distinct
    rw [List.forall_mem_cons] at each
    rw [normalEntries, ih distinct each.2, each.1]
    congr 1
    refine List.filter_eq_self.mpr fun other member => decide_eq_true fun same => ?_
    exact fresh (List.mem_map.mpr ⟨other, member, same⟩)

/-- A value that holds each key once is kept as it is. -/
theorem normal_eq (value : Json) : value.WellFormed → normal value = value := by
  induction value using induct with
  | arr items ih =>
    intro formed
    rw [wellFormed_arr] at formed
    rw [normal]
    congr 1
    induction items with
    | nil => rfl
    | cons item rest inner =>
      rw [List.forall_mem_cons] at formed ih
      rw [normalItems, ih.1 formed.1, inner ih.2 formed.2]
  | obj entries ih =>
    intro formed
    rw [wellFormed_obj] at formed
    exact congrArg Json.obj (normalEntries_eq formed.1 fun item member => ih item member (formed.2 item member))
  | _ => exact fun _ => rfl

/-- An object whose items are those of another one, in any order, is the same. -/
theorem same_of_items {a b : JsonObject} (left : (a.map Prod.fst).Nodup) (right : (b.map Prod.fst).Nodup)
    (inside : ∀ item ∈ a, ∃ value, get? b item.1 = some value ∧ Same item.2 value)
    (only : ∀ key ∈ b.map Prod.fst, key ∈ a.map Prod.fst) : Same (.obj a) (.obj b) := by
  refine (same_obj left right).mpr fun key => ?_
  by_cases listed : key ∈ a.map Prod.fst
  · obtain ⟨⟨key, here⟩, member, rfl⟩ := List.mem_map.mp listed
    obtain ⟨there, found, same⟩ := inside _ member
    rw [(get?_eq_some left).mpr member, found]
    exact congrArg some same
  · have absent {entries : JsonObject} (distinct : (entries.map Prod.fst).Nodup)
        (missing : key ∉ entries.map Prod.fst) : get? entries key = none := by
      refine Option.eq_none_iff_forall_ne_some.mpr fun value found => missing ?_
      exact List.mem_map_of_mem ((get?_eq_some distinct).mp found)
    rw [absent left listed, absent right fun member => listed (only key member)]

/-- Two dictionaries are equal in either order. -/
theorem objectEq_comm {a b : JsonObject} (left : (Json.obj a).WellFormed) (right : (Json.obj b).WellFormed) :
    objectEq a b = objectEq b a :=
  Bool.eq_iff_iff.mpr ⟨pyEq_symm _ _ left right, pyEq_symm _ _ right left⟩

end Json

end AxiomMcp.Lib

/-
**The catalog generation id and the vector it stands for.**

`GraphSet.pins` are the pairs of project and generation a scope pins; `SamePins` compares them as sets. The id is a
digest of `generations`, the pairs in the order of their projects.

* `generations_eq_iff`: two scopes list the same generations exactly if they pin the same pairs, in any order of
  their members and whatever is missing;
* `generationsPayload_injective`: the framing of the list keeps its pairs apart;
* `generationId_eq_iff`: **without a collision two scopes have one id exactly if they pin the same pairs**.
-/

import AxiomMcp.Query.CursorRuns
import AxiomMcp.Query.Envelope

namespace AxiomMcp.Query

open AxiomMcp.Lib

/-- The pairs of project and generation a scope pins. -/
def GraphSet.pins (scope : GraphSet) : List (Text × Text) :=
  scope.members.map fun graph => (graph.projectId, graph.generationId)

/-- Two scopes pin the same generations of the same projects. -/
def SamePins (a b : GraphSet) : Prop := ∀ pair, pair ∈ a.pins ↔ pair ∈ b.pins

/-- What is hashed for the id of a scope. -/
def GraphSet.hashed (py : Interpreter) (scope : GraphSet) : Bytes :=
  (encoded py (generationsPayload scope)).getD []

/-! ### Generations -/

section Generations

variable {a b scope : GraphSet}

theorem mem_generations {pair : Text × Text} : pair ∈ scope.generations ↔ pair ∈ scope.pins := by
  rw [GraphSet.generations, GraphSet.pins, List.mem_map, List.mem_map]
  exact exists_congr fun graph => and_congr_left fun _ => GraphSet.mem_graphs

/-- The projects of the generations, in order. -/
theorem generations_projects (scope : GraphSet) :
    scope.generations.map Prod.fst = scope.projectIds := by
  have each : ∀ projects : List Text, (∀ projectId ∈ projects, projectId ∈ scope.projectIds) →
      (projects.filterMap scope.graph?).map Graph.projectId = projects := by
    intro projects pinned
    induction projects with
    | nil => rfl
    | cons projectId rest ih =>
      obtain ⟨graph, member, same⟩ := GraphSet.mem_projectIds.mp (pinned projectId List.mem_cons_self)
      have found : scope.graph? projectId = some graph := GraphSet.graph?_eq_some.mpr ⟨member, same⟩
      rw [List.filterMap_cons_some found, List.map_cons, same,
        ih fun other inside => pinned other (List.mem_cons_of_mem _ inside)]
  rw [GraphSet.generations, List.map_map]
  exact each scope.projectIds fun _ member => member

theorem generations_sorted (scope : GraphSet) : sortedBy Prod.fst scope.generations = scope.generations := by
  refine sortedBy_of_pairwise ?_
  have ordered := sortedBy_pairwise id (scope.members.map Graph.projectId)
  change (scope.projectIds).Pairwise _ at ordered
  rw [← generations_projects, List.pairwise_map] at ordered
  exact ordered

/-- A project is listed once. -/
theorem generations_distinct (scope : GraphSet) : (scope.generations.map Prod.fst).Nodup := by
  rw [generations_projects]
  exact sortedBy_nodup id _ scope.projects_nodup

theorem generations_nodup (scope : GraphSet) : scope.generations.Nodup := (generations_distinct scope).of_map _

/-- Which generations a scope lists is which pairs it pins. -/
theorem generations_eq_iff : a.generations = b.generations ↔ SamePins a b := by
  constructor
  · intro same pair
    rw [← mem_generations, same, mem_generations]
  · intro same
    have perm : a.generations.Perm b.generations :=
      (List.perm_ext_iff_of_nodup (generations_nodup a) (generations_nodup b)).mpr fun pair => by
        rw [mem_generations, mem_generations]
        exact same pair
    rw [← generations_sorted a, ← generations_sorted b]
    exact sortedBy_eq_of_perm perm fun one here other there =>
      List.inj_on_of_nodup_map (generations_distinct a) here there

/-- The generations of a scope are its pairs, in the order of their projects. -/
theorem generations_eq (scope : GraphSet) : scope.generations = sortedBy Prod.fst scope.pins := by
  have distinct : (scope.pins.map Prod.fst).Nodup := by
    rw [GraphSet.pins, List.map_map]
    exact scope.projects_nodup
  have perm : scope.generations.Perm scope.pins :=
    (List.perm_ext_iff_of_nodup (generations_nodup scope) (distinct.of_map _)).mpr fun _ => mem_generations
  rw [← generations_sorted]
  exact sortedBy_eq_of_perm perm fun one here other there =>
    List.inj_on_of_nodup_map (generations_distinct scope) here there

end Generations

/-! ### The framed list -/

section Framing

variable {py : Interpreter} {sha256 : Bytes → Text} {a b scope : GraphSet}

/-- The keys of what a catalog generation id is the digest of. -/
def generationsKeys : List Text := ["schema_version", "generations"]

theorem generationsKeys_nodup : generationsKeys.Nodup := by decide

/-- One generation, as it is framed. -/
def pairJson (pair : Text × Text) : Json := .arr [.str pair.1, .str pair.2]

theorem pairJson_injective {one other : Text × Text} (same : pairJson one = pairJson other) : one = other := by
  have items := Json.arr.inj same
  simp only [List.cons.injEq, Json.str.injEq, and_true] at items
  exact Prod.ext items.1 items.2

theorem sorted_pairJson (pair : Text × Text) : (pairJson pair).sorted = pairJson pair := by
  rw [pairJson, Json.sorted_arr]
  rfl

/-- The framing keeps the pairs apart. -/
theorem generationsPayload_injective (same : Json.Same (generationsPayload a) (generationsPayload b)) :
    a.generations = b.generations := by
  unfold generationsPayload at same
  have keyed := (Json.same_obj (by exact generationsKeys_nodup) (by exact generationsKeys_nodup)).mp same
    "generations"
  have listed : (Json.arr (a.generations.map pairJson)).sorted = (Json.arr (b.generations.map pairJson)).sorted :=
    Option.some.inj keyed
  rw [Json.sorted_arr, Json.sorted_arr, List.map_map, List.map_map] at listed
  have plain : Json.sorted ∘ pairJson = pairJson := funext sorted_pairJson
  rw [plain] at listed
  exact List.map_injective_iff.mpr (fun _ _ => pairJson_injective) (Json.arr.inj listed)

theorem generationsPayload_json (py : Interpreter) (scope : GraphSet) :
    (generationsPayload scope).WellFormed ∧ (generationsPayload scope).FloatsRead py := by
  have pair : ∀ item ∈ scope.generations.map pairJson, item.WellFormed ∧ item.FloatsRead py := by
    intro item member
    obtain ⟨pair, _, rfl⟩ := List.mem_map.mp member
    refine ⟨Json.wellFormed_arr.mpr fun text inside => ?_, Json.floatsRead_arr.mpr fun text inside => ?_⟩
    · rcases List.mem_pair.mp inside with rfl | rfl <;> trivial
    · rcases List.mem_pair.mp inside with rfl | rfl <;> trivial
  refine object_json rfl generationsKeys_nodup fun item member => ?_
  rcases List.mem_pair.mp member with rfl | rfl
  · exact ⟨trivial, trivial⟩
  · exact ⟨Json.wellFormed_arr.mpr fun item inside => (pair item inside).1,
      Json.floatsRead_arr.mpr fun item inside => (pair item inside).2⟩

/-- A digest has a text. -/
theorem clean_sha256 {value : Text} (digest : isSha256 value = true) : Utf8.Clean value := by
  have hex : ∀ text : Text, (text.length == 64 && text.all fun c =>
      Text.isDigitAscii c || (0x61 ≤ c.val && c.val ≤ 0x66)) = true → Utf8.Clean text := by
    intro text matched c inside
    have small : c.val < 0xd800 := by
      have one := List.all_eq_true.mp (Bool.and_eq_true_iff.mp matched).2 c inside
      simp only [Text.isDigitAscii, Bool.or_eq_true, Bool.and_eq_true, decide_eq_true_eq] at one
      omega
    unfold CodePoint.isSurrogate
    rw [Bool.and_eq_false_iff, decide_eq_false_iff_not]
    exact Or.inl (by omega)
  unfold isSha256 Text.matchesToEnd at digest
  rcases Bool.or_eq_true_iff.mp digest with whole | line
  · exact hex value whole
  · obtain ⟨ends, body⟩ := Bool.and_eq_true_iff.mp line
    have last : value.getLast? = some (codePoint '\n') := by simpa using ends
    obtain ⟨front, rfl⟩ := List.getLast?_eq_some_iff.mp last
    rw [List.dropLast_concat] at body
    exact Utf8.clean_append.mpr ⟨hex front body, Utf8.clean_ofString "\n"⟩

theorem sendable_schemaVersion (py : Interpreter) : (Json.int envelopeSchemaVersion).Sendable py := by
  refine ⟨?_, Utf8.clean_ofString _⟩
  have one : (Text.ofNat envelopeSchemaVersion.natAbs).length = 1 := by decide
  rw [Json.digitsFit, one, Bool.or_eq_true, beq_iff_eq, decide_eq_true_iff]
  omega

/-- What an id is the digest of always has bytes. -/
theorem generationsPayload_encodes (py : Interpreter) (scope : GraphSet) :
    encoded py (generationsPayload scope) = some (scope.hashed py) := by
  have pair : ∀ item ∈ scope.generations.map pairJson, item.Sendable py := by
    intro item member
    obtain ⟨pair, inside, rfl⟩ := List.mem_map.mp member
    obtain ⟨graph, _, rfl⟩ := List.mem_map.mp (mem_generations.mp inside)
    refine Json.sendable_arr.mpr fun text part => ?_
    rcases List.mem_pair.mp part with rfl | rfl
    · exact Json.sendable_str.mpr (clean_identifier graph.projectId_identifier)
    · exact Json.sendable_str.mpr (clean_sha256 graph.generationId_digest)
  have sendable : (generationsPayload scope).Sendable py := by
    refine Json.sendable_obj.mpr fun item member => ?_
    rcases List.mem_pair.mp member with rfl | rfl
    · exact ⟨Utf8.clean_ofString _, sendable_schemaVersion py⟩
    · exact ⟨Utf8.clean_ofString _, Json.sendable_arr.mpr pair⟩
  have encodes := encoded_eq_some.mpr ⟨sendable.1, Utf8.encode_of_clean sendable.2⟩
  rw [GraphSet.hashed, encodes]
  rfl

/-- **Without a collision two scopes have one id exactly if they pin the same pairs.** -/
theorem generationId_eq_iff (free : CollisionFree sha256 [a.hashed py, b.hashed py]) :
    catalogGenerationId py sha256 a = catalogGenerationId py sha256 b ↔ SamePins a b := by
  rw [← generations_eq_iff]
  constructor
  · intro same
    have bytes : a.hashed py = b.hashed py :=
      free _ List.mem_cons_self _ (List.mem_cons_of_mem _ List.mem_cons_self) same
    have here := generationsPayload_encodes py a
    have there := generationsPayload_encodes py b
    rw [bytes] at here
    have formed := generationsPayload_json py a
    have formed' := generationsPayload_json py b
    exact generationsPayload_injective
      (encoded_injective ⟨formed.1, formed'.1⟩ ⟨formed.2, formed'.2⟩ here there)
  · intro same
    have payload : generationsPayload a = generationsPayload b := by
      rw [generationsPayload, generationsPayload, same]
    rw [catalogGenerationId, catalogGenerationId, payload]

end Framing

end AxiomMcp.Query

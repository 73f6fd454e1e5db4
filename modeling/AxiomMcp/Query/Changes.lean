/-
**What changed between two pinned scopes.**

`changes` compares the members of a head with those of a baseline, project by project: `diffKind` matches
the facts of the two sides by id and lists those added, removed and modified. A fact is modified when its
document without id and project differs (`fact`).

The comparison is refused where it would not be a fact: without a baseline, over different projects, or
where the two sides do not declare one schema major (`schemaOf`).
-/

import AxiomMcp.Query.Traversal

namespace AxiomMcp.Query

open AxiomMcp.Lib

/-! ### Facts and their difference -/

/-- `_fact(item)`: the document without the identity fields. -/
def fact (document : JsonObject) : JsonObject :=
  document.filter fun item => decide (item.1 ∉ (["id", "project_id"] : List Text))

/-- `{"id": key, "before": before, "after": after}` -/
structure Modification where
  id : Text
  before : JsonObject
  after : JsonObject

/-- The facts of one kind that differ between the two sides of a project. -/
structure KindDiff where
  added : List JsonObject
  removed : List JsonObject
  modified : List Modification

section Diff

variable {α : Type} (document : α → JsonObject)

/-- The documents of a side under the ids the other side does not have, in the order of the ids. -/
def onlyIn (side other : Dict Text α) : List JsonObject :=
  (sortedBy id (side.keys.filter fun key => !other.has key)).filterMap fun key =>
    (side.get? key).map document

/-- The modification of one id, where both sides have it and their facts differ. -/
def modification (head baseline : Dict Text α) (key : Text) : Option Modification :=
  match baseline.get? key, head.get? key with
  | some before, some after =>
    if Json.objectEq (fact (document before)) (fact (document after)) then none
    else some ⟨key, fact (document before), fact (document after)⟩
  | _, _ => none

/-- `_diff_kind(head_items, baseline_items)` -/
def diffKind (idOf : α → Text) (headItems baselineItems : List α) : KindDiff :=
  let head := Dict.ofList idOf headItems
  let baseline := Dict.ofList idOf baselineItems
  {
    added := onlyIn document head baseline
    removed := onlyIn document baseline head
    modified := (sortedBy id (head.keys.filter baseline.has)).filterMap
      (modification document head baseline) }

end Diff

/-- The differences of one project. -/
structure ProjectDiff where
  nodes : KindDiff
  edges : KindDiff

/-- How many facts differ, over all projects. -/
structure Totals where
  addedNodes : ℕ := 0
  removedNodes : ℕ := 0
  modifiedNodes : ℕ := 0
  addedEdges : ℕ := 0
  removedEdges : ℕ := 0
  modifiedEdges : ℕ := 0

/-- The totals with one more project. -/
def Totals.add (totals : Totals) (diff : ProjectDiff) : Totals where
  addedNodes := totals.addedNodes + diff.nodes.added.length
  removedNodes := totals.removedNodes + diff.nodes.removed.length
  modifiedNodes := totals.modifiedNodes + diff.nodes.modified.length
  addedEdges := totals.addedEdges + diff.edges.added.length
  removedEdges := totals.removedEdges + diff.edges.removed.length
  modifiedEdges := totals.modifiedEdges + diff.edges.modified.length

/-! ### The comparison -/

/-- Whether the two sides were compared, or why not. -/
inductive ChangeStatus
  | ok | missingBaseline | incompatibleScope | unknownSchema | incompatibleSchema
  deriving DecidableEq, Repr

/-- The name of a status. -/
def ChangeStatus.name : ChangeStatus → Text
  | .ok => "ok"
  | .missingBaseline => "missing_baseline"
  | .incompatibleScope => "incompatible_scope"
  | .unknownSchema => "unknown_schema"
  | .incompatibleSchema => "incompatible_schema"

/-- The difference between a head and a baseline, or why none was computed. -/
structure ChangeResult where
  status : ChangeStatus
  operation : Text
  comparable : Bool
  headGenerations : List (Text × Text)
  baselineGenerations : List (Text × Text)
  headSchema : Option ℤ
  baselineSchema : Option ℤ
  projects : List (Text × ProjectDiff)
  /-- Empty where nothing was compared. -/
  totals : Option Totals
  warnings : List Text

/-- `_schema_of(scope)`: the schema major all members share. -/
def schemaOf (scope : GraphSet) : Option ℤ :=
  match (scope.graphs.map Graph.schemaMajor).dedup with
  | [major] => major
  | _ => none

/-- The answer of a comparison that is refused. -/
def refusedChanges (status : ChangeStatus) (head : GraphSet) (baseline : Option GraphSet)
    (warning : Text) : ChangeResult where
  status := status
  operation := "changes"
  comparable := false
  headGenerations := head.generations
  baselineGenerations := (baseline.map GraphSet.generations).getD []
  headSchema := schemaOf head
  baselineSchema := baseline.bind schemaOf
  projects := []
  totals := none
  warnings := [warning]

/-- `', '.join(projects) or 'none'` -/
def projectNames (projects : List Text) : Text :=
  if projects = [] then "none" else Text.join ", " projects

/-- The differences of one project, which both sides pin. -/
def diffProject (head baseline : GraphSet) (project : Text) :
    Except QueryModelError (Text × ProjectDiff) := do
  let headGraph ← head.graph project
  let baselineGraph ← baseline.graph project
  return (project, {
    nodes := diffKind Node.asDocument Node.id headGraph.nodes baselineGraph.nodes
    edges := diffKind Edge.asDocument Edge.id headGraph.edges baselineGraph.edges })

/-- The answer of two sides that can be compared. -/
def compareScopes (head baseline : GraphSet) : Except QueryModelError ChangeResult := do
  let projects ← head.projectIds.mapM (diffProject head baseline)
  return {
    status := .ok
    operation := "changes"
    comparable := true
    headGenerations := head.generations
    baselineGenerations := baseline.generations
    headSchema := schemaOf head
    baselineSchema := schemaOf baseline
    projects := projects
    totals := some (projects.foldl (fun totals item => totals.add item.2) {})
    warnings := [] }

/-- The chosen members of the head. Unlike `narrowScope` it leaves out the missing members. -/
def chooseHead (head : GraphSet) (projectIds : Option (List Text)) :
    Except QueryModelError GraphSet :=
  match projectIds with
  | none => .ok head
  | some projectIds => do
    let chosen ← identifiers "project_id" projectIds
    GraphSet.init (chosen.map head.graph) []

/-- The comparison of a head with a baseline, refused where it is not valid. -/
def changesBetween (head baseline : GraphSet) : Except QueryModelError ChangeResult :=
  if head.projectIds ≠ baseline.projectIds then
    .ok (refusedChanges .incompatibleScope head (some baseline)
      (Text.format ["incompatible_scope: the two generations do not pin the same projects (head=",
        projectNames head.projectIds, ", baseline=", projectNames baseline.projectIds,
        "); a diff across different member sets is not a fact"]))
  else
    match schemaOf head, schemaOf baseline with
    | some headSchema, some baselineSchema =>
      if headSchema ≠ baselineSchema then
        .ok (refusedChanges .incompatibleSchema head (some baseline)
          (Text.format ["incompatible_schema: head schema major ", Text.ofInt headSchema,
            " does not match baseline ", Text.ofInt baselineSchema,
            "; a cross-major diff is not comparable"]))
      else compareScopes head baseline
    | _, _ =>
      .ok (refusedChanges .unknownSchema head (some baseline)
        (Text.format ["unknown_schema: at least one side does not declare a schema major; the fact ",
          "shapes of an unknown schema cannot be compared field by field"]))

/-- `changes(head, baseline, project_ids=...)` -/
def changes (head : GraphSet) (baseline : Option GraphSet) (projectIds : Option (List Text)) :
    Except QueryModelError ChangeResult := do
  let head ← chooseHead head projectIds
  match baseline with
  | none =>
    return refusedChanges .missingBaseline head none
      (Text.format ["missing_baseline: changes requires a baseline generation to compare against; ",
        "no diff was computed"])
  | some baseline => changesBetween head baseline

/-! ### What a difference depends on -/

variable {α : Type} {document : α → JsonObject} {idOf : α → Text}

/-- The difference of two sides does not depend on the order of their items. -/
theorem diffKind_perm {head head' baseline baseline' : List α}
    (headIds : (head.map idOf).Nodup) (baselineIds : (baseline.map idOf).Nodup)
    (sameHead : head.Perm head') (sameBaseline : baseline.Perm baseline') :
    diffKind document idOf head baseline = diffKind document idOf head' baseline' := by
  have heads := Dict.get?_ofList_perm headIds sameHead
  have baselines := Dict.get?_ofList_perm baselineIds sameBaseline
  have inHead : ∀ key, (Dict.ofList idOf head).has key = (Dict.ofList idOf head').has key :=
    fun key => by rw [Dict.has_eq, Dict.has_eq, heads]
  have inBaseline : ∀ key,
      (Dict.ofList idOf baseline).has key = (Dict.ofList idOf baseline').has key :=
    fun key => by rw [Dict.has_eq, Dict.has_eq, baselines]
  unfold diffKind onlyIn
  dsimp only
  congr 1
  · rw [Dict.sortedKeys_congr heads fun key => by rw [inBaseline]]
    simp only [heads]
  · rw [Dict.sortedKeys_congr baselines fun key => by rw [inHead]]
    simp only [baselines]
  · rw [Dict.sortedKeys_congr heads inBaseline]
    refine List.filterMap_congr fun key _ => ?_
    rw [modification, modification, heads, baselines]

end AxiomMcp.Query

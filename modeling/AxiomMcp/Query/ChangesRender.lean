/-
**The document of a comparison.**

`ChangeResult.asDocument` renders each project's change as a mapping of kinds to lists of facts. The change of a
project is one level deeper: `nodes` and `edges` are mappings of the groups `added`, `removed` and `modified`, so
what is iterated are the names of the groups, and `dict("added")` raises.

* `renderFacts_groups` — the groups of one kind raise a `ValueError`, whatever they hold;
* `asDocument_iff` — a result is rendered exactly where it lists no project;
* `changes_unrendered` — **no comparable result is rendered**: a comparison is over at least one project.
-/

import AxiomMcp.Query.Changes
import AxiomMcp.Query.Documents

namespace AxiomMcp.Query

open AxiomMcp.Lib

/-! ### The code -/

/-- What `_diff_kind` returns, as a value. -/
def KindDiff.value (diff : KindDiff) : Json :=
  .obj [("added", .arr (diff.added.map .obj)), ("removed", .arr (diff.removed.map .obj)),
    ("modified", .arr (diff.modified.map fun change =>
      .obj [("id", .str change.id), ("before", .obj change.before), ("after", .obj change.after)]))]

/-- The change of one project, as a value. -/
def ProjectDiff.value (diff : ProjectDiff) : JsonObject :=
  [("nodes", diff.nodes.value), ("edges", diff.edges.value)]

/-- The totals as a mapping. -/
def Totals.value (totals : Totals) : JsonObject :=
  [("added_nodes", .int totals.addedNodes), ("removed_nodes", .int totals.removedNodes),
    ("modified_nodes", .int totals.modifiedNodes), ("added_edges", .int totals.addedEdges),
    ("removed_edges", .int totals.removedEdges), ("modified_edges", .int totals.modifiedEdges)]

/-- `[list(item) for item in generations]` -/
def generationsValue (generations : List (Text × Text)) : Json :=
  .arr (generations.map fun item => .arr [.str item.1, .str item.2])

/-- A schema major, or `None`. -/
def schemaValue : Option ℤ → Json
  | some major => .int major
  | none => .null

section Code

variable (py : Interpreter)

/-- `[dict(fact) for fact in facts]` -/
def renderFacts (facts : Json) : Except GraphFault Json := do
  let items ← iterated facts
  let documents ← items.mapM (dictOf py)
  return .arr (documents.map .obj)

/-- `{kind: [dict(fact) for fact in facts] for kind, facts in change.items()}` -/
def renderChange (change : JsonObject) : Except GraphFault Json := do
  let kinds ← change.mapM fun item => (renderFacts py item.2).map fun facts => (item.1, facts)
  return .obj kinds

/-- `ChangeResult.as_document()` -/
def ChangeResult.asDocument (result : ChangeResult) : Except GraphFault JsonObject := do
  let projects ← result.projects.mapM fun item =>
    (renderChange py item.2.value).map fun change => (item.1, change)
  return [("status", .str result.status.name), ("operation", .str result.operation),
    ("comparable", .bool result.comparable),
    ("head_generations", generationsValue result.headGenerations),
    ("baseline_generations", generationsValue result.baselineGenerations),
    ("schema", .obj [("head", schemaValue result.headSchema), ("baseline", schemaValue result.baselineSchema)]),
    ("projects", .obj projects), ("totals", .obj ((result.totals.map Totals.value).getD [])),
    ("warnings", texts result.warnings)]

/-- The result is rendered as a document that lists, for each project, every fact added, removed and modified,
with its values. -/
def ChangeResult.Rendered (result : ChangeResult) : Prop :=
  ∃ document, result.asDocument py = .ok document ∧
    Json.get? document "projects" = some (.obj (result.projects.map fun item => (item.1, .obj item.2.value)))

end Code

/-! ### What is rendered -/

variable {py : Interpreter}

/-- The groups of a kind are iterated by their names, of which `dict` makes nothing. -/
theorem renderFacts_groups (diff : KindDiff) : renderFacts py diff.value = .error .valueError := by
  have name : dictOf py (.str "added") = .error .valueError := rfl
  have groups : iterated diff.value = .ok [.str "added", .str "removed", .str "modified"] := rfl
  unfold renderFacts
  rw [groups, ok_bind, List.mapM_cons, name]
  rfl

theorem renderChange_groups (diff : ProjectDiff) : renderChange py diff.value = .error .valueError := by
  unfold renderChange ProjectDiff.value
  rw [List.mapM_cons, renderFacts_groups]
  rfl

/-- **A result is rendered exactly where it lists no project.** -/
theorem asDocument_iff (result : ChangeResult) :
    (∃ document, result.asDocument py = .ok document) ↔ result.projects = [] := by
  unfold ChangeResult.asDocument
  cases projects : result.projects with
  | nil => exact iff_of_true ⟨_, rfl⟩ rfl
  | cons item rest =>
    refine iff_of_false ?_ (List.cons_ne_nil _ _)
    rintro ⟨document, rendered⟩
    rw [List.mapM_cons, renderChange_groups] at rendered
    cases rendered

/-- A scope with a schema major pins a project. -/
theorem projectIds_of_schema {scope : GraphSet} {major : ℤ} (known : schemaOf scope = some major) :
    scope.projectIds ≠ [] := by
  intro none
  have graphs : scope.graphs = [] := by
    unfold GraphSet.graphs
    rw [none]
    rfl
  unfold schemaOf at known
  rw [graphs] at known
  cases known

/-- A comparison that was made lists a project. -/
theorem projects_of_comparable {head baseline : GraphSet} {result : ChangeResult}
    (answered : changesBetween head baseline = .ok result) (comparable : result.comparable = true) :
    result.projects ≠ [] := by
  unfold changesBetween at answered
  split at answered
  · cases answered
    cases comparable
  · split at answered
    · next major _ known _ =>
      split at answered
      · cases answered
        cases comparable
      · obtain ⟨projects, each, answered⟩ := bind_eq_ok.mp answered
        obtain rfl := Except.ok.inj answered
        intro none
        have listed := (mapM_ok.mp each).length_eq
        dsimp only at none
        rw [none, List.length_nil] at listed
        exact projectIds_of_schema known (List.eq_nil_of_length_eq_zero listed)
    · cases answered
      cases comparable

/-- **No comparable result is rendered**, whatever was compared and selected. -/
theorem changes_unrendered (py : Interpreter) (head baseline : GraphSet) (projectIds : Option (List Text))
    (result : ChangeResult) (answered : changes head (some baseline) projectIds = .ok result)
    (comparable : result.comparable = true) :
    result.asDocument py = .error .valueError ∧ ¬ result.Rendered py := by
  obtain ⟨chosen, _, compared⟩ := bind_eq_ok.mp answered
  have projects := projects_of_comparable compared comparable
  have raised : result.asDocument py = .error .valueError := by
    unfold ChangeResult.asDocument
    obtain ⟨item, rest, listed⟩ := List.exists_cons_of_ne_nil projects
    rw [listed, List.mapM_cons, renderChange_groups]
    rfl
  refine ⟨raised, ?_⟩
  rintro ⟨document, rendered, _⟩
  cases raised.symm.trans rendered

/-! ### One function more -/

/-- A project of schema major 1 with some functions. -/
def versioned (nodes : List Node)
    (valid : (∀ node ∈ nodes, node.projectId = "p") ∧ (nodes.map Node.id).Nodup) : GraphSet :=
  plainScope [{ plainGraph "p" nodes [] none
      ⟨by decide, valid.1, valid.2, List.nodup_nil, fun _ none => (List.not_mem_nil none).elim⟩ with
    schemaMajor := some 1 }] ⟨List.nodup_singleton _, by
      rw [List.flatMap_singleton]
      exact valid.2⟩

/-- One function, and none. -/
def oneFunction : GraphSet :=
  versioned [plainNode "p" "f" 'a']
    ⟨fun node member => by rw [List.mem_singleton.mp member]; rfl, List.nodup_singleton _⟩

def noFunction : GraphSet := versioned [] ⟨fun _ none => (List.not_mem_nil none).elim, List.nodup_nil⟩

theorem changes_unrendered_function : ∃ result, changes oneFunction (some noFunction) none = .ok result ∧
    result.asDocument .ascii = .error .valueError ∧ ¬ result.Rendered .ascii := by
  have answered : changes oneFunction (some noFunction) none = .ok _ := rfl
  exact ⟨_, answered, changes_unrendered .ascii _ _ _ _ answered rfl⟩

/-- The function that was added is not rendered. -/
theorem changes_document_raises : ¬ ∀ (py : Interpreter) (head baseline : GraphSet)
    (projectIds : Option (List Text)) (result : ChangeResult),
    changes head (some baseline) projectIds = .ok result → result.comparable = true → result.Rendered py := by
  intro all
  obtain ⟨document, rendered, _⟩ := all .ascii oneFunction noFunction none _ rfl rfl
  have projects := (asDocument_iff _).mp ⟨document, rendered⟩
  exact absurd projects (List.cons_ne_nil _ _)

end AxiomMcp.Query

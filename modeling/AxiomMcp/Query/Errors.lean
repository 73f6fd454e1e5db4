/-
**What a query refuses, and the argument checks all operations share.**

`QueryModelError` lists the refusals of the query package with the values their messages print.
`exceptionClass` is the Python class each is raised as, which is what a caller can catch, and `message`
is the text it carries.

`boundedInt`, `choice` and `choiceList` are the three argument checks. A bound out of range is an
error and never a clamp (`boundedInt_ok`); a list of contract values comes back sorted and without
repetition, so normalising it again changes nothing (`choiceList_normal`).
-/

import AxiomMcp.Lib.Json
import AxiomMcp.Lib.Sorted

namespace AxiomMcp.Query

open AxiomMcp.Lib

/-! ### Refusals -/

/-- The Python classes under `QueryModelError`. -/
inductive ExceptionClass
  | queryModelError
  | limitRejected
  | targetNotFound
  | targetAmbiguous
  deriving DecidableEq, Repr

/-- A refused query input, with the values its message prints. -/
inductive QueryModelError
  /-- A bound or a choice that is required and absent. -/
  | required (name : Text)
  /-- A bound outside its canonical range. -/
  | outOfRange (name : Text) (value low high : ℤ)
  /-- A single choice outside its allowlist. -/
  | notOneOf (name : Text) (allowed : List Text) (value : Text)
  /-- A member of a list of choices outside the allowlist. -/
  | notAllowed (name item : Text)
  /-- An empty list of resolutions. -/
  | noResolution
  /-- An empty projection. -/
  | noProjection
  /-- A search text without a visible character. -/
  | emptyQuery
  /-- An empty text where one is required. -/
  | emptyText (what value : Text)
  /-- A text that is not a lowercase SHA-256 digest. -/
  | notDigest (what value : Text)
  /-- A text that is not an identifier. -/
  | notIdentifier (what value : Text)
  /-- One project pinned by two graphs. -/
  | pinnedTwice (project first second : Text)
  /-- One node pinned by two projects. -/
  | nodePinnedTwice (nodeId : Text)
  /-- A project both pinned and missing. -/
  | pinnedAndMissing (project : Text)
  /-- A project the scope does not pin. -/
  | noGraph (project : Text)
  /-- A node the scope does not pin. -/
  | noNode (nodeId : Text)
  /-- A selector nothing matches. -/
  | noMatch (text : Text)
  /-- A selector several nodes match equally well. -/
  | ambiguous (target : Text) (candidateIds : List Text)
  deriving DecidableEq

namespace QueryModelError

/-- The class an error is raised as. -/
def exceptionClass : QueryModelError → ExceptionClass
  | .required _ | .outOfRange .. | .notOneOf .. | .notAllowed .. | .noResolution | .noProjection
  | .emptyQuery => .limitRejected
  | .noGraph _ | .noNode _ | .noMatch _ => .targetNotFound
  | .ambiguous .. => .targetAmbiguous
  | .emptyText .. | .notDigest .. | .notIdentifier .. | .pinnedTwice .. | .nodePinnedTwice _
  | .pinnedAndMissing _ => .queryModelError

/-- A list of texts as Python prints it. -/
private def listRepr (py : Interpreter) (items : List Text) : Text :=
  ("[" : Text) ++ Text.join ", " (items.map (·.pyRepr py.isPrintable)) ++ ("]" : Text)

/-- The text an error carries. -/
def message (py : Interpreter) : QueryModelError → Text
  | .required name => name ++ (" is required" : Text)
  | .outOfRange name value low high =>
    name ++ (" " : Text) ++ Text.ofInt value ++ (" is outside the canonical range " : Text) ++
      Text.ofInt low ++ (".." : Text) ++ Text.ofInt high
  | .notOneOf name allowed value =>
    name ++ (" must be one of " : Text) ++ listRepr py allowed ++ (", got " : Text) ++
      value.pyRepr py.isPrintable
  | .notAllowed name item =>
    name ++ (" value " : Text) ++ item.pyRepr py.isPrintable ++
      (" is not in the canonical allowlist" : Text)
  | .noResolution => "resolutions must name at least one resolution"
  | .noProjection => "projection must name at least one section"
  | .emptyQuery => "query must be a non-empty string"
  | .emptyText what value =>
    what ++ (" must be a non-empty string, got " : Text) ++ value.pyRepr py.isPrintable
  | .notDigest what value =>
    what ++ (" must be a lowercase sha256 digest, got " : Text) ++ value.pyRepr py.isPrintable
  | .notIdentifier what value =>
    what ++ (" must match ^[a-z][a-z0-9-]\x7b0,62\x7d$, got " : Text) ++
      value.pyRepr py.isPrintable
  | .pinnedTwice project first second =>
    ("project " : Text) ++ project.pyRepr py.isPrintable ++ (" is pinned twice (" : Text) ++
      first.take 12 ++ (" and " : Text) ++ second.take 12 ++ (")" : Text)
  | .nodePinnedTwice nodeId =>
    ("node id " : Text) ++ nodeId.take 12 ++ (" is pinned by two projects" : Text)
  | .pinnedAndMissing project =>
    ("project " : Text) ++ project.pyRepr py.isPrintable ++
      (" is pinned and missing at the same time" : Text)
  | .noGraph project =>
    ("no pinned generation for project " : Text) ++ project.pyRepr py.isPrintable
  | .noNode nodeId => ("the pinned scope holds no node " : Text) ++ nodeId.take 12
  | .noMatch text => ("no pinned node matches " : Text) ++ text.pyRepr py.isPrintable
  | .ambiguous target candidateIds =>
    ("target " : Text) ++ target.pyRepr py.isPrintable ++ (" is ambiguous: " : Text) ++
      Text.ofNat candidateIds.length ++ (" pinned nodes match" : Text)

end QueryModelError

/-! ### Canonical bounds -/

def maxDepth : ℕ := 8
def maxNodes : ℕ := 500
def minBytes : ℕ := 512
def maxBytes : ℕ := 32768
def maxEdges : ℕ := 1000
def defaultDepth : ℕ := 2
def defaultMaxNodes : ℕ := 50
def defaultMaxEdges : ℕ := 100
def defaultMaxBytes : ℕ := 8192

/-- Accept an in-range bound, or the default when none is given. -/
def boundedInt (value : Option ℤ) (name : Text) (low high default : ℕ) :
    Except QueryModelError ℕ :=
  match value with
  | none => .ok default
  | some value =>
    if value < low ∨ value > high then .error (.outOfRange name value low high)
    else .ok value.toNat

/-- An accepted bound is the one the caller chose, or the default, and lies in its range. -/
theorem boundedInt_ok {value : Option ℤ} {name : Text} {low high default bound : ℕ}
    (accepted : boundedInt value name low high default = .ok bound) :
    (value = none ∧ bound = default) ∨ (value = some (bound : ℤ) ∧ low ≤ bound ∧ bound ≤ high) := by
  unfold boundedInt at accepted
  cases value with
  | none =>
    cases accepted
    exact Or.inl ⟨rfl, rfl⟩
  | some value =>
    dsimp only at accepted
    by_cases outside : value < low ∨ value > high
    · rw [if_pos outside] at accepted
      cases accepted
    · rw [if_neg outside] at accepted
      cases accepted
      rw [not_or, not_lt, not_lt] at outside
      have nonneg : 0 ≤ value := (Int.natCast_nonneg low).trans outside.1
      refine Or.inr ⟨?_, ?_, ?_⟩
      · rw [Int.toNat_of_nonneg nonneg]
      · omega
      · omega

/-- A bound in its range is accepted as it is. -/
theorem boundedInt_some {name : Text} {low high default bound : ℕ} (above : low ≤ bound)
    (below : bound ≤ high) : boundedInt (some (bound : ℤ)) name low high default = .ok bound := by
  unfold boundedInt
  dsimp only
  rw [if_neg (by omega)]
  rfl

/-! ### Choices from an allowlist -/

section Choices

variable {α : Type} (label : α → Text)

/-- Accept one value of an allowlist, or the default when none is given. -/
def choice (value : Option Text) (name : Text) (allowed : List α) (default : α) :
    Except QueryModelError α :=
  match value with
  | none => .ok default
  | some value =>
    match allowed.find? fun a => label a = value with
    | some a => .ok a
    | none => .error (.notOneOf name (allowed.map label) value)

/-- The members of an allowlist that a list of texts names, in its order. -/
def choices (name : Text) (allowed : List α) : List Text → Except QueryModelError (List α)
  | [] => .ok []
  | item :: rest =>
    match allowed.find? fun a => label a = item with
    | none => .error (.notAllowed name item)
    | some a => (choices name allowed rest).map (a :: ·)

/-- Normalise an optional list of contract values: sorted, each once. -/
def choiceList [DecidableEq α] (values : Option (List Text)) (name : Text) (allowed : List α)
    (default : List α) : Except QueryModelError (List α) :=
  match values with
  | none => .ok default
  | some values => (choices label name allowed values).map (sortedSet label)

variable {label} {name : Text} {allowed : List α}

private theorem find?_label {a : α} (injective : Function.Injective label) (member : a ∈ allowed) :
    allowed.find? (fun b => label b = label a) = some a := by
  cases result : allowed.find? fun b => label b = label a with
  | none =>
    have missed := List.find?_eq_none.mp result a member
    simp at missed
  | some b =>
    have named := List.find?_some result
    simp only [decide_eq_true_eq] at named
    rw [injective named]

/-- The name of an allowed value is accepted as that value. -/
theorem choice_label {a default : α} (injective : Function.Injective label) (member : a ∈ allowed) :
    choice label (some (label a)) name allowed default = .ok a := by
  unfold choice
  simp only [find?_label injective member]

theorem choices_labels (injective : Function.Injective label) {items : List α}
    (inside : ∀ a ∈ items, a ∈ allowed) :
    choices label name allowed (items.map label) = .ok items := by
  induction items with
  | nil => rfl
  | cons a rest ih =>
    rw [List.map_cons, choices, find?_label injective (inside a List.mem_cons_self)]
    simp only [ih fun b member => inside b (List.mem_cons_of_mem _ member)]
    rfl

/-- Names already normalised are accepted as they stand. -/
theorem choiceList_normal [DecidableEq α] (injective : Function.Injective label) {items default : List α}
    (inside : ∀ a ∈ items, a ∈ allowed) (normal : sortedSet label items = items) :
    choiceList label (some (items.map label)) name allowed default = .ok items := by
  unfold choiceList
  simp only [choices_labels injective inside]
  exact congrArg Except.ok normal

/-- What a list of choices is normalised to is normal. -/
theorem choiceList_sorted [DecidableEq α] {values : Option (List Text)} {default items : List α}
    (normal : sortedSet label default = default)
    (accepted : choiceList label values name allowed default = .ok items) :
    sortedSet label items = items := by
  unfold choiceList at accepted
  cases values with
  | none =>
    cases accepted
    exact normal
  | some values =>
    cases chosen : choices label name allowed values with
    | error refused =>
      simp only [chosen] at accepted
      cases accepted
    | ok picked =>
      simp only [chosen] at accepted
      cases accepted
      exact sortedSet_idem label picked

end Choices

end AxiomMcp.Query

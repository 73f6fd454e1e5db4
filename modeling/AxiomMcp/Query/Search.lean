/-
**Symbol search over the pinned nodes.**

A search looks the stripped text up in indexes of ids, qualified names and names (`SymbolIndex.exact`),
and where these hits do not fill the answer it scans the nodes for weaker matches (`scanNodes`): the
first `max_nodes` nodes of the requested kinds, in the order of the index. The candidates are ranked and
cut at the limit.
-/

import AxiomMcp.Query.Selectors
import AxiomMcp.Lib.Fallible

namespace AxiomMcp.Query

open AxiomMcp.Lib

/-! ### Kinds of match -/

/-- How a node matched. -/
inductive MatchKind
  | id | exactQualifiedName | exactName | foldedQualifiedName | foldedName | prefixed | substring
  deriving DecidableEq, Repr

/-- The contract name of a kind of match. -/
def MatchKind.name : MatchKind → Text
  | .id => "id"
  | .exactQualifiedName => "exact_qualified_name"
  | .exactName => "exact_name"
  | .foldedQualifiedName => "folded_qualified_name"
  | .foldedName => "folded_name"
  | .prefixed => "prefix"
  | .substring => "substring"

/-- `RANK[match]` -/
def MatchKind.rank : MatchKind → ℕ
  | .id => 0
  | .exactQualifiedName => 1
  | .exactName => 2
  | .foldedQualifiedName => 3
  | .foldedName => 4
  | .prefixed => 5
  | .substring => 6

/-- One matched symbol. -/
structure SymbolCandidate where
  nodeId : Text
  projectId : Text
  kind : NodeKind
  name : Text
  qualifiedName : Text
  language : Text
  source : SourceLocation
  identityQuality : IdentityQuality
  matched : MatchKind
  deriving DecidableEq

/-! ### The index -/

/-- Exact-match indexes over a scope, with the scan order for weaker matches. -/
structure SymbolIndex where
  projectIds : List Text
  nodeCount : ℕ
  byId : Dict Text Text
  byQualifiedName : Dict Text (List Text)
  byName : Dict Text (List Text)
  byFoldedQualifiedName : Dict Text (List Text)
  byFoldedName : Dict Text (List Text)
  scanOrder : List Text

/-- The best match of each node noted, and the nodes in the order they were first noted. -/
structure Notes where
  best : Dict Text MatchKind
  ordered : List Text

/-- `note(node_id, match)` -/
def Notes.note (matched : MatchKind) (notes : Notes) (nodeId : Text) : Notes :=
  match notes.best.get? nodeId with
  | some previous =>
    if previous.rank ≤ matched.rank then notes
    else { notes with best := notes.best.set nodeId matched }
  | none => ⟨notes.best.set nodeId matched, notes.ordered ++ [nodeId]⟩

/-- `index.exact(query)` -/
def SymbolIndex.exact (py : Interpreter) (index : SymbolIndex) (query : Text) :
    List (Text × MatchKind) :=
  let notes : Notes := ⟨Dict.empty, []⟩
  let notes := (index.byId.get? query).toList.foldl (Notes.note .id) notes
  let notes := (index.byQualifiedName.getList query).foldl (Notes.note .exactQualifiedName) notes
  let notes := (index.byName.getList query).foldl (Notes.note .exactName) notes
  let folded := py.casefold query
  let notes :=
    (index.byFoldedQualifiedName.getList folded).foldl (Notes.note .foldedQualifiedName) notes
  let notes := (index.byFoldedName.getList folded).foldl (Notes.note .foldedName) notes
  notes.ordered.filterMap fun nodeId => (notes.best.get? nodeId).map fun matched => (nodeId, matched)

/-- The key nodes are scanned by. -/
def Node.scanKey (node : Node) : Text ×ₗ (Text ×ₗ Text) :=
  toLex (node.projectId, toLex (node.qualifiedName, node.id))

/-- Node ids filed under a text of the node. -/
def fileUnder (key : Node → Text) (nodes : List Node) : Dict Text (List Text) :=
  nodes.foldl (fun index node => index.append (key node) node.id) Dict.empty

/-- `build_symbol_index(scope)` -/
def buildSymbolIndex (py : Interpreter) (pinned : GraphSet) : SymbolIndex :=
  let order := (Dict.ofList Node.id pinned.nodes).mapValues Node.scanKey
  let keyOf := fun nodeId => (order.get? nodeId).getD (toLex ([], toLex ([], [])))
  let sortedMap := Dict.mapValues (sortedBy keyOf)
  {
    projectIds := pinned.projectIds
    nodeCount := pinned.nodes.length
    byId := Dict.ofList id (pinned.nodes.map Node.id)
    byQualifiedName := sortedMap (fileUnder Node.qualifiedName pinned.nodes)
    byName := sortedMap (fileUnder Node.name pinned.nodes)
    byFoldedQualifiedName :=
      sortedMap (fileUnder (fun node => py.casefold node.qualifiedName) pinned.nodes)
    byFoldedName := sortedMap (fileUnder (fun node => py.casefold node.name) pinned.nodes)
    scanOrder := sortedBy keyOf (pinned.nodes.map Node.id) }

/-! ### The request -/

/-- The keyword arguments of a search. -/
structure SearchOptions where
  projectIds : Option (List Text) := none
  kinds : Option (List Text) := none
  limit : Option ℤ := none
  maxNodes : Option ℤ := none

/-- The validated request of a search. -/
structure SearchRequest where
  pinned : GraphSet
  /-- The names of the requested kinds; empty for all. -/
  selection : List Text
  wanted : Text
  ceiling : ℕ
  allowance : ℕ

/-- The validation at the head of `search_symbols`. -/
def searchRequest (scope : GraphSet) (query : Text) (options : SearchOptions) :
    Except QueryModelError SearchRequest :=
  if query.strip = [] then .error .emptyQuery
  else do
    let pinned ← narrowScope scope options.projectIds
    let selection := sortedSet id (options.kinds.getD [])
    let _ ← if selection = [] then .ok []
      else choiceList NodeKind.name options.kinds "kinds" NodeKind.all []
    let ceiling ← boundedInt options.maxNodes "max_nodes" 1 maxNodes defaultMaxNodes
    let allowance ← boundedInt options.limit "limit" 1 maxNodes ceiling
    return { pinned, selection, wanted := query.strip, ceiling, allowance := min allowance ceiling }

/-- `not selection or node.kind in selection` -/
def SearchRequest.selects (request : SearchRequest) (node : Node) : Bool :=
  request.selection.isEmpty || decide (node.kind.name ∈ request.selection)

/-! ### The search -/

/-- The answer to one search. -/
structure SymbolSearchResult where
  query : Text
  candidates : List SymbolCandidate
  scanned : ℕ
  pinnedNodes : ℕ
  limit : ℕ
  maxNodes : ℕ
  truncated : Bool
  warnings : List Text

/-- `_candidate(node, match)` -/
def candidateOf (node : Node) (matched : MatchKind) : SymbolCandidate where
  nodeId := node.id
  projectId := node.projectId
  kind := node.kind
  name := node.name
  qualifiedName := node.qualifiedName
  language := node.language
  source := node.source
  identityQuality := node.identityQuality
  matched := matched

/-- The key candidates are ranked by. -/
def SymbolCandidate.rankKey (item : SymbolCandidate) : ℕ ×ₗ (Text ×ₗ (Text ×ₗ Text)) :=
  toLex (item.matched.rank, toLex (item.projectId, toLex (item.qualifiedName, item.nodeId)))

/-- `_weaker_match(node, folded)` -/
def weakerMatch (py : Interpreter) (node : Node) (folded : Text) : Option MatchKind :=
  if (py.casefold node.qualifiedName).startsWith folded ||
      (py.casefold node.name).startsWith folded then some .prefixed
  else if (py.casefold node.qualifiedName).contains folded ||
      (py.casefold node.name).contains folded then some .substring
  else none

section Code

variable (py : Interpreter) (request : SearchRequest)

/-- The loop over the scan order. -/
def scanNodes (ranked : Dict Text MatchKind) (scanned : ℕ) :
    List Text → Except QueryModelError (Dict Text MatchKind × ℕ)
  | [] => .ok (ranked, scanned)
  | nodeId :: rest =>
    if scanned ≥ request.ceiling then .ok (ranked, scanned)
    else
      match request.pinned.node nodeId with
      | .error refused => .error refused
      | .ok node =>
        if !request.selects node then scanNodes ranked scanned rest
        else
          match weakerMatch py node (py.casefold request.wanted) with
          | none => scanNodes ranked (scanned + 1) rest
          | some matched => scanNodes (ranked.setDefault nodeId matched) (scanned + 1) rest

/-- Everything ranked, with the number of nodes scanned. -/
def rankAll (index : SymbolIndex) : Except QueryModelError (Dict Text MatchKind × ℕ) :=
  let ranked := (index.exact py request.wanted).foldl
    (fun ranked item => ranked.setDefault item.1 item.2) Dict.empty
  if ranked.size < request.allowance then scanNodes py request ranked 0 index.scanOrder
  else .ok (ranked, 0)

/-- The ranked nodes of the requested kinds, in the order of their ranks. -/
def rankedCandidates (ranked : Dict Text MatchKind) :
    Except QueryModelError (List SymbolCandidate) :=
  (ranked.entries.mapM fun item =>
    (request.pinned.node item.1).map fun node => (node, item.2)).map fun items =>
      sortedBy SymbolCandidate.rankKey ((items.filter fun item => request.selects item.1).map
        fun item => candidateOf item.1 item.2)

/-- `result.ambiguous` -/
def SymbolSearchResult.ambiguous (result : SymbolSearchResult) : Bool :=
  match result.candidates with
  | [] => false
  | first :: _ =>
    decide ((result.candidates.filter fun item =>
      decide (item.matched.rank = first.matched.rank)).length > 1)

/-- The answer of some ranked candidates. -/
def searchAnswer (index : SymbolIndex) (scanned : ℕ) (candidates : List SymbolCandidate) :
    SymbolSearchResult :=
  let truncated := decide (candidates.length > request.allowance)
  let result : SymbolSearchResult := {
    query := request.wanted
    candidates := candidates.take request.allowance
    scanned := scanned
    pinnedNodes := index.nodeCount
    limit := request.allowance
    maxNodes := request.ceiling
    truncated := truncated
    warnings :=
      (if truncated then [Text.format ["limit: the answer is capped at ",
        Text.ofNat request.allowance, " candidates"]] else []) ++
        if candidates = [] then [("no_symbol_matched" : Text)] else [] }
  if result.ambiguous then
    { result with
      warnings := result.warnings ++ [Text.format ["ambiguous: ",
        Text.ofNat result.candidates.length, " candidates share rank ",
        (result.candidates.head?.map fun first => first.matched.name).getD [],
        "; candidates are returned instead of one pick"]] }
  else result

/-- The search of a validated request. -/
def answerSearch : Except QueryModelError SymbolSearchResult := do
  let index := buildSymbolIndex py request.pinned
  let (ranked, scanned) ← rankAll py request index
  let candidates ← rankedCandidates request ranked
  return searchAnswer request index scanned candidates

end Code

/-- `search_symbols(scope, query, ...)` -/
def searchSymbols (py : Interpreter) (scope : GraphSet) (query : Text) (options : SearchOptions) :
    Except QueryModelError SymbolSearchResult := do
  let request ← searchRequest scope query options
  answerSearch py request

end AxiomMcp.Query

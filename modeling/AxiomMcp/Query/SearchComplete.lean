/-
**When an uncapped search is complete.**

`bestMatch` is the ranking of a scope as a kind of match (`rank_eq`), split into the exact kinds, which
the indexes answer, and the weaker ones, which the scan finds. `exact_get?`, `scanNodes_ok` and
`rankedCandidates_ok` say what each part of a search knows of a pinned node.

* `search_complete_iff` — **a search with `truncated=False` lists exactly the matching nodes if and only
  if the scan left no weaker match out** (or the answer is truncated): the scan looks at the first
  `max_nodes` nodes of the requested kinds, and at none when the exact hits, of any kind, fill the limit.

The other case is silent: `search_omits`.
-/

import AxiomMcp.Query.Search
import AxiomMcp.Query.Impact

namespace AxiomMcp.Query

open AxiomMcp.Lib

/-! ### The ranking as a kind of match -/

section Match

variable (py : Interpreter) (node : Node) (selector : Text)

/-- The best exact match of a node. -/
def exactMatch : Option MatchKind :=
  if node.id = selector then some .id
  else if node.qualifiedName = selector then some .exactQualifiedName
  else if node.name = selector then some .exactName
  else if py.casefold node.qualifiedName = py.casefold selector then some .foldedQualifiedName
  else if py.casefold node.name = py.casefold selector then some .foldedName
  else none

/-- The best match of a node. -/
def bestMatch : Option MatchKind :=
  (exactMatch py node selector).or (weakerMatch py node (py.casefold selector))

/-- The rank of a node is the rank of its best match. -/
theorem rank_eq :
    rank py node selector = ((bestMatch py node selector).map fun matched =>
      (matched.rank : ℤ)).getD (-1) := by
  unfold rank bestMatch exactMatch weakerMatch
  dsimp only
  split_ifs <;> rfl

theorem exactMatch_rank {matched : MatchKind} (found : exactMatch py node selector = some matched) :
    matched.rank ≤ 4 := by
  unfold exactMatch at found
  split_ifs at found <;> cases found <;> decide

theorem weakerMatch_rank {matched : MatchKind} {folded : Text}
    (found : weakerMatch py node folded = some matched) : 5 ≤ matched.rank := by
  unfold weakerMatch at found
  split_ifs at found <;> cases found <;> decide

end Match

variable {py : Interpreter}

theorem MatchKind.rank_injective : Function.Injective MatchKind.rank := by
  intro a b same
  cases a <;> cases b <;> first | rfl | cases same

/-- A kind of match has the rank of a node exactly when it is its best match. -/
theorem rank_eq_iff {node : Node} {selector : Text} {matched : MatchKind} :
    (matched.rank : ℤ) = rank py node selector ↔ bestMatch py node selector = some matched := by
  rw [rank_eq]
  cases found : bestMatch py node selector with
  | none => simp
  | some best =>
    rw [Option.map_some, Option.getD_some, Option.some.injEq, Int.natCast_inj]
    exact ⟨fun same => (MatchKind.rank_injective same).symm, fun same => by rw [same]⟩

/-! ### What the indexes return -/

theorem getList_fileUnder (key : Node → Text) (nodes : List Node) (k : Text) :
    (fileUnder key nodes).getList k =
      (nodes.filter fun node => key node = k).map Node.id := by
  have general : ∀ d : Dict Text (List Text),
      (nodes.foldl (fun index node => index.append (key node) node.id) d).getList k =
        d.getList k ++ (nodes.filter fun node => key node = k).map Node.id := by
    induction nodes with
    | nil => simp
    | cons node rest ih =>
      intro d
      rw [List.foldl_cons, ih, Dict.getList_append, List.filter_cons, List.append_assoc]
      by_cases here : k = key node
      · simp [here]
      · have other : key node ≠ k := fun same => here same.symm
        simp [here, other]
  exact general Dict.empty

/-- The ids an index lists under a text are those of the nodes with that text. -/
theorem mem_sortedMap {pinned : GraphSet} {order : Text → Text ×ₗ (Text ×ₗ Text)}
    {key : Node → Text} {k nodeId : Text} :
    nodeId ∈ ((fileUnder key pinned.nodes).mapValues (sortedBy order)).getList k ↔
      ∃ node ∈ pinned.allNodes, node.id = nodeId ∧ key node = k := by
  have lists : ((fileUnder key pinned.nodes).mapValues (sortedBy order)).getList k =
      sortedBy order ((fileUnder key pinned.nodes).getList k) := by
    rw [Dict.getList, Dict.get?_mapValues, Dict.getList]
    cases (fileUnder key pinned.nodes).get? k <;> rfl
  rw [lists, mem_sortedBy, getList_fileUnder, List.mem_map]
  simp only [List.mem_filter, GraphSet.mem_nodes, decide_eq_true_eq, and_assoc]
  exact exists_congr fun node => and_congr_right fun _ => and_comm

/-- A pinned node stands under a text exactly when it has it. -/
theorem node_mem_sortedMap {pinned : GraphSet} {order : Text → Text ×ₗ (Text ×ₗ Text)}
    {key : Node → Text} {k : Text} {node : Node} (inside : node ∈ pinned.allNodes) :
    node.id ∈ ((fileUnder key pinned.nodes).mapValues (sortedBy order)).getList k ↔ key node = k := by
  rw [mem_sortedMap]
  constructor
  · rintro ⟨other, here, same, named⟩
    rw [← GraphSet.node_eq_of_id here inside same]
    exact named
  · exact fun named => ⟨node, inside, rfl, named⟩

/-! ### Noting matches -/

/-- What the notes hold: the nodes noted are those with a best match, at most at a rank. -/
structure Notes.Below (notes : Notes) (bound : ℕ) : Prop where
  ordered : ∀ nodeId, nodeId ∈ notes.ordered ↔ nodeId ∈ notes.best.keys
  ranks : ∀ nodeId matched, notes.best.get? nodeId = some matched → matched.rank ≤ bound

/-- Noting matches no better than those noted: the nodes not noted before get this match. -/
theorem Notes.noteAll (matched : MatchKind) (nodeIds : List Text) :
    ∀ {notes : Notes}, notes.Below matched.rank →
      (nodeIds.foldl (Notes.note matched) notes).Below matched.rank ∧
        ∀ nodeId, (nodeIds.foldl (Notes.note matched) notes).best.get? nodeId =
          (notes.best.get? nodeId).or (if nodeId ∈ nodeIds then some matched else none) := by
  induction nodeIds with
  | nil => exact fun below => ⟨below, fun nodeId => by simp⟩
  | cons first rest ih =>
    intro notes below
    rw [List.foldl_cons]
    cases noted : notes.best.get? first with
    | some previous =>
      have same : notes.note matched first = notes := by
        unfold Notes.note
        rw [noted]
        exact if_pos (below.ranks first previous noted)
      rw [same]
      obtain ⟨below', lookups⟩ := ih below
      refine ⟨below', fun nodeId => ?_⟩
      rw [lookups]
      by_cases here : nodeId = first
      · rw [here, noted]
        rfl
      · simp [here]
    | none =>
      have next : notes.note matched first =
          ⟨notes.best.set first matched, notes.ordered ++ [first]⟩ := by
        unfold Notes.note
        rw [noted]
      rw [next]
      have below' : Notes.Below ⟨notes.best.set first matched, notes.ordered ++ [first]⟩
          matched.rank := by
        constructor
        · intro nodeId
          rw [List.mem_append, List.mem_singleton, below.ordered, Dict.mem_keys_set]
        · intro nodeId other found
          rw [Dict.get?_set] at found
          by_cases here : nodeId = first
          · rw [if_pos here] at found
            cases found
            exact le_rfl
          · rw [if_neg here] at found
            exact below.ranks nodeId other found
      obtain ⟨below'', lookups⟩ := ih below'
      refine ⟨below'', fun nodeId => ?_⟩
      rw [lookups, Dict.get?_set]
      by_cases here : nodeId = first
      · simp [here, noted]
      · simp [here]

/-- A node that is not noted has no match. -/
theorem Notes.Below.get?_ordered {notes : Notes} {bound : ℕ} (below : notes.Below bound)
    (nodeId : Text) : (if nodeId ∈ notes.ordered then notes.best.get? nodeId else none) =
      notes.best.get? nodeId := by
  by_cases noted : nodeId ∈ notes.ordered
  · rw [if_pos noted]
  · rw [if_neg noted, eq_comm, Dict.get?_eq_none]
    exact fun stored => noted ((below.ordered nodeId).mpr stored)

theorem Notes.Below.mono {notes : Notes} {low high : ℕ} (below : notes.Below low) (le : low ≤ high) :
    notes.Below high :=
  ⟨below.ordered, fun nodeId matched found => (below.ranks nodeId matched found).trans le⟩

/-- Storing the noted matches, each once. -/
theorem get?_ranked {notes : Notes} (nodeIds : List Text) :
    ∀ {ranked : Dict Text MatchKind} {nodeId : Text},
      ((nodeIds.filterMap fun other => (notes.best.get? other).map fun matched =>
          (other, matched)).foldl (fun ranked item => ranked.setDefault item.1 item.2) ranked).get?
            nodeId =
        (ranked.get? nodeId).or (if nodeId ∈ nodeIds then notes.best.get? nodeId else none) := by
  induction nodeIds with
  | nil => intros; simp
  | cons first rest ih =>
    intro ranked nodeId
    cases noted : notes.best.get? first with
    | none =>
      rw [List.filterMap_cons_none (by rw [noted]; rfl), ih]
      by_cases here : nodeId = first
      · rw [here, noted]
        simp
      · simp [here]
    | some matched =>
      rw [List.filterMap_cons_some (by rw [noted]; rfl), List.foldl_cons, ih, Dict.get?_setDefault]
      by_cases here : nodeId = first
      · rw [here, if_pos rfl]
        cases ranked.get? first <;> simp [noted]
      · simp [here]

/-- Everything an index returns for a text. -/
def exactRanked (py : Interpreter) (index : SymbolIndex) (wanted : Text) : Dict Text MatchKind :=
  (index.exact py wanted).foldl (fun ranked item => ranked.setDefault item.1 item.2) Dict.empty

/-- A kind of match, where an index lists the id. -/
def listedAs (matched : MatchKind) (nodeIds : List Text) (nodeId : Text) : Option MatchKind :=
  if nodeId ∈ nodeIds then some matched else none

theorem exactRanked_get? (py : Interpreter) (index : SymbolIndex) (wanted nodeId : Text) :
    (exactRanked py index wanted).get? nodeId =
      ((((listedAs .id (index.byId.get? wanted).toList nodeId).or
        (listedAs .exactQualifiedName (index.byQualifiedName.getList wanted) nodeId)).or
        (listedAs .exactName (index.byName.getList wanted) nodeId)).or
        (listedAs .foldedQualifiedName
          (index.byFoldedQualifiedName.getList (py.casefold wanted)) nodeId)).or
        (listedAs .foldedName (index.byFoldedName.getList (py.casefold wanted)) nodeId) := by
  have start : Notes.Below ⟨Dict.empty, []⟩ MatchKind.id.rank :=
    ⟨fun nodeId => Iff.rfl, fun nodeId matched found => by cases found⟩
  obtain ⟨below, first⟩ := Notes.noteAll .id (index.byId.get? wanted).toList start
  obtain ⟨below, second⟩ := Notes.noteAll .exactQualifiedName
    (index.byQualifiedName.getList wanted) (below.mono (by decide))
  obtain ⟨below, third⟩ := Notes.noteAll .exactName (index.byName.getList wanted)
    (below.mono (by decide))
  obtain ⟨below, fourth⟩ := Notes.noteAll .foldedQualifiedName
    (index.byFoldedQualifiedName.getList (py.casefold wanted)) (below.mono (by decide))
  obtain ⟨below, fifth⟩ := Notes.noteAll .foldedName
    (index.byFoldedName.getList (py.casefold wanted)) (below.mono (by decide))
  unfold exactRanked SymbolIndex.exact
  dsimp only
  rw [get?_ranked, below.get?_ordered, fifth, fourth, third, second, first]
  rfl

/-- The indexes know the best exact match of every pinned node, and nothing else. -/
theorem exact_get? (py : Interpreter) (pinned : GraphSet) (wanted : Text) :
    (∀ node ∈ pinned.allNodes,
      (exactRanked py (buildSymbolIndex py pinned) wanted).get? node.id =
        exactMatch py node wanted) ∧
    ∀ nodeId ∈ (exactRanked py (buildSymbolIndex py pinned) wanted).keys,
      pinned.Pinned nodeId := by
  have ids : ∀ nodeId, nodeId ∈ ((buildSymbolIndex py pinned).byId.get? wanted).toList ↔
      pinned.Pinned nodeId ∧ nodeId = wanted := by
    intro nodeId
    have distinct : ((pinned.nodes.map Node.id).map id).Nodup := by
      rw [List.map_id]
      exact pinned.nodes_ids_nodup
    rw [Option.mem_toList, buildSymbolIndex]
    dsimp only
    rw [Dict.get?_ofList distinct, (pinned.nodes_perm.map Node.id).mem_iff]
    exact Iff.rfl
  constructor
  · intro node inside
    have here : pinned.Pinned node.id := List.mem_map.mpr ⟨node, inside, rfl⟩
    rw [exactRanked_get?]
    unfold listedAs
    simp only [ids, here, true_and]
    unfold buildSymbolIndex exactMatch
    simp only [node_mem_sortedMap inside]
    split_ifs <;> rfl
  · intro nodeId member
    obtain ⟨matched, found⟩ := Option.isSome_iff_exists.mp (Dict.get?_isSome.mpr member)
    have listed : ∀ {key : Node → Text} {order : Text → Text ×ₗ (Text ×ₗ Text)} {k : Text},
        nodeId ∈ ((fileUnder key pinned.nodes).mapValues (sortedBy order)).getList k →
          pinned.Pinned nodeId := by
      intro key order k here
      obtain ⟨node, inside, same, _⟩ := mem_sortedMap.mp here
      exact List.mem_map.mpr ⟨node, inside, same⟩
    by_contra absent
    rw [exactRanked_get?] at found
    unfold listedAs at found
    simp only [ids, absent, false_and, if_false] at found
    unfold buildSymbolIndex at found
    simp only [mt listed absent, if_false] at found
    cases found

/-! ### The scan -/

section Scan

variable (py) (request : SearchRequest)

/-- An exact hit, by rank. -/
def SearchRequest.hits (node : Node) : Bool :=
  decide (0 ≤ rank py node request.wanted ∧ rank py node request.wanted ≤ 4)

/-- A weaker match, by rank. -/
def SearchRequest.nearly (node : Node) : Bool := decide (5 ≤ rank py node request.wanted)

/-- The nodes a search scans: none when the exact hits, of any kind, fill the answer, or the first
nodes of the requested kinds in scan order. -/
def SearchRequest.scannedNodes : List Node :=
  if (request.pinned.nodes.filter (request.hits py)).length < request.allowance then
    ((sortedBy Node.scanKey request.pinned.nodes).filter request.selects).take request.ceiling
  else []

/-- What a search knows of a pinned node. -/
def SearchRequest.known (node : Node) : Option MatchKind :=
  (exactMatch py node request.wanted).or
    (if node.id ∈ (request.scannedNodes py).map Node.id then
      weakerMatch py node (py.casefold request.wanted) else none)

end Scan

variable {request : SearchRequest}

theorem hits_iff {node : Node} :
    request.hits py node = (exactMatch py node request.wanted).isSome := by
  rw [SearchRequest.hits, rank_eq, bestMatch]
  cases exact : exactMatch py node request.wanted with
  | some matched =>
    have low := exactMatch_rank py node request.wanted exact
    simp
    omega
  | none =>
    cases weak : weakerMatch py node (py.casefold request.wanted) with
    | none => simp
    | some matched =>
      have high := weakerMatch_rank py node weak
      simp
      omega

/-- The scan over some pinned nodes. -/
theorem scanNodes_ok (py : Interpreter) (nodes : List Node)
    (inside : ∀ node ∈ nodes, node ∈ request.pinned.allNodes) :
    ∀ (ranked : Dict Text MatchKind) (scanned : ℕ), ∃ ranked' scanned',
      scanNodes py request ranked scanned (nodes.map Node.id) = .ok (ranked', scanned') ∧
      (∀ node ∈ request.pinned.allNodes, ranked'.get? node.id = (ranked.get? node.id).or
        (if node.id ∈ ((nodes.filter request.selects).take (request.ceiling - scanned)).map Node.id
          then weakerMatch py node (py.casefold request.wanted) else none)) ∧
      ∀ nodeId ∈ ranked'.keys, nodeId ∈ ranked.keys ∨ request.pinned.Pinned nodeId := by
  induction nodes with
  | nil =>
    intro ranked scanned
    exact ⟨ranked, scanned, rfl, fun node _ => by simp, fun nodeId => Or.inl⟩
  | cons first rest ih =>
    intro ranked scanned
    have here : first ∈ request.pinned.allNodes := inside first List.mem_cons_self
    have looked := GraphSet.node_ok.mpr ⟨here, rfl⟩
    have later := ih fun node member => inside node (List.mem_cons_of_mem _ member)
    rw [List.map_cons, scanNodes]
    by_cases full : scanned ≥ request.ceiling
    · rw [if_pos full, Nat.sub_eq_zero_of_le full]
      exact ⟨ranked, scanned, rfl, fun node _ => by simp, fun nodeId => Or.inl⟩
    rw [if_neg full]
    simp only [looked]
    cases chosen : request.selects first with
    | false =>
      rw [if_pos (by rfl), List.filter_cons_of_neg (by rw [chosen]; exact Bool.false_ne_true)]
      exact later ranked scanned
    | true =>
      have room : request.ceiling - scanned = (request.ceiling - (scanned + 1)) + 1 := by omega
      rw [if_neg (by decide), List.filter_cons_of_pos chosen, room, List.take_succ_cons,
        List.map_cons]
      cases weak : weakerMatch py first (py.casefold request.wanted) with
      | none =>
        obtain ⟨ranked', scanned', done, lookups, keys⟩ := later ranked (scanned + 1)
        refine ⟨ranked', scanned', done, fun node member => ?_, keys⟩
        rw [lookups node member]
        by_cases same : node.id = first.id
        · rw [GraphSet.node_eq_of_id member here same, weak]
          simp
        · simp [same]
      | some matched =>
        obtain ⟨ranked', scanned', done, lookups, keys⟩ :=
          later (ranked.setDefault first.id matched) (scanned + 1)
        refine ⟨ranked', scanned', done, fun node member => ?_, fun nodeId member => ?_⟩
        · rw [lookups node member, Dict.get?_setDefault]
          by_cases same : node.id = first.id
          · rw [GraphSet.node_eq_of_id member here same, weak]
            cases ranked.get? first.id <;> simp
          · simp [same]
        · rcases keys nodeId member with old | pinned
          · rcases Dict.mem_keys_setDefault.mp old with before | rfl
            · exact Or.inl before
            · exact Or.inr (List.mem_map.mpr ⟨first, here, rfl⟩)
          · exact Or.inr pinned

/-- The nodes whose ids a dictionary stores, where it stores pinned ids only. -/
theorem size_eq_of_pinned {α : Type} {pinned : GraphSet} {stored : Dict Text α}
    (keys : ∀ nodeId ∈ stored.keys, pinned.Pinned nodeId) :
    stored.size = (pinned.nodes.filter fun node => (stored.get? node.id).isSome).length := by
  rw [← Dict.length_keys, ← List.length_map Node.id]
  refine List.Perm.length_eq ?_
  rw [List.perm_ext_iff_of_nodup stored.keys_nodup
    (pinned.nodes_ids_nodup.sublist (List.filter_sublist.map Node.id))]
  intro nodeId
  rw [List.mem_map]
  constructor
  · intro member
    obtain ⟨node, inside, rfl⟩ := List.mem_map.mp (keys nodeId member)
    exact ⟨node, List.mem_filter.mpr ⟨GraphSet.mem_nodes.mpr inside, Dict.get?_isSome.mpr member⟩,
      rfl⟩
  · rintro ⟨node, member, rfl⟩
    exact Dict.get?_isSome.mp (List.mem_filter.mp member).2

/-- Everything ranked. -/
theorem rankAll_ok (py : Interpreter) (request : SearchRequest) :
    ∃ ranked scanned,
      rankAll py request (buildSymbolIndex py request.pinned) = .ok (ranked, scanned) ∧
      (∀ node ∈ request.pinned.allNodes, ranked.get? node.id = request.known py node) ∧
      ∀ nodeId ∈ ranked.keys, request.pinned.Pinned nodeId := by
  obtain ⟨exact, pinned⟩ := exact_get? py request.pinned request.wanted
  have size : (exactRanked py (buildSymbolIndex py request.pinned) request.wanted).size =
      (request.pinned.nodes.filter (request.hits py)).length := by
    rw [size_eq_of_pinned pinned]
    refine congrArg List.length (List.filter_congr fun node member => ?_)
    rw [exact node (GraphSet.mem_nodes.mp member), hits_iff]
  have order : (buildSymbolIndex py request.pinned).scanOrder =
      (sortedBy Node.scanKey request.pinned.nodes).map Node.id := by
    rw [map_sortedBy Node.id Node.scanKey _ request.pinned.nodes fun node member => ?_]
    · rfl
    · rw [Dict.get?_mapValues,
        (Dict.get?_ofList request.pinned.nodes_ids_nodup).mpr ⟨member, rfl⟩]
      rfl
  unfold rankAll
  change ∃ ranked scanned, (if (exactRanked py (buildSymbolIndex py request.pinned)
    request.wanted).size < request.allowance then _ else _) = _ ∧ _
  rw [size, order]
  by_cases room : (request.pinned.nodes.filter (request.hits py)).length < request.allowance
  · rw [if_pos room]
    have inside : ∀ node ∈ sortedBy Node.scanKey request.pinned.nodes,
        node ∈ request.pinned.allNodes := fun node member =>
      GraphSet.mem_nodes.mp ((mem_sortedBy _ _).mp member)
    obtain ⟨ranked, scanned, done, lookups, keys⟩ := scanNodes_ok py _ inside
      (exactRanked py (buildSymbolIndex py request.pinned) request.wanted) 0
    refine ⟨ranked, scanned, done, fun node member => ?_, fun nodeId member => ?_⟩
    · rw [lookups node member, exact node member, SearchRequest.known,
        SearchRequest.scannedNodes, if_pos room]
      rfl
    · exact (keys nodeId member).elim (pinned nodeId) id
  · rw [if_neg room]
    refine ⟨_, _, rfl, fun node member => ?_, pinned⟩
    change (exactRanked py (buildSymbolIndex py request.pinned) request.wanted).get? node.id = _
    rw [exact node member, SearchRequest.known, SearchRequest.scannedNodes, if_neg room]
    simp

/-! ### The candidates -/

/-- The answer lists the first candidates. -/
theorem searchAnswer_candidates (index : SymbolIndex) (scanned : ℕ)
    (candidates : List SymbolCandidate) :
    (searchAnswer request index scanned candidates).candidates = candidates.take request.allowance := by
  rw [searchAnswer, apply_ite SymbolSearchResult.candidates]
  exact ite_self _

/-- The candidates of what is ranked. -/
theorem rankedCandidates_ok {ranked : Dict Text MatchKind}
    (keys : ∀ nodeId ∈ ranked.keys, request.pinned.Pinned nodeId) :
    ∃ candidates, rankedCandidates request ranked = .ok candidates ∧
      (candidates.map SymbolCandidate.nodeId).Nodup ∧
      ∀ candidate, candidate ∈ candidates ↔ ∃ node ∈ request.pinned.allNodes,
        request.selects node = true ∧ ∃ matched, ranked.get? node.id = some matched ∧
          candidate = candidateOf node matched := by
  have each : ∀ item ∈ ranked.entries, ∃ looked, ((request.pinned.node item.1).map fun node =>
      (node, item.2)) = .ok looked := by
    intro item member
    obtain ⟨node, found⟩ := GraphSet.exists_node_iff.mpr
      (keys item.1 (List.mem_map.mpr ⟨item, member, rfl⟩))
    exact ⟨_, map_eq_ok.mpr ⟨node, found, rfl⟩⟩
  obtain ⟨items, done⟩ := mapM_of_ok each
  have pairs : items.map (fun item => (item.1.id, item.2)) = ranked.entries ∧
      ∀ item ∈ items, item.1 ∈ request.pinned.allNodes := by
    have looked := mapM_ok.mp done
    clear done each keys
    generalize ranked.entries = entries at looked
    induction looked with
    | nil => exact ⟨rfl, fun _ none => (List.not_mem_nil none).elim⟩
    | cons here _ ih =>
      obtain ⟨node, found, rfl⟩ := map_eq_ok.mp here
      obtain ⟨inside, named⟩ := GraphSet.node_ok.mp found
      refine ⟨by rw [List.map_cons, ih.1, named], fun item member => ?_⟩
      rcases List.mem_cons.mp member with rfl | later
      · exact inside
      · exact ih.2 item later
  obtain ⟨entries, inside⟩ := pairs
  refine ⟨_, map_eq_ok.mpr ⟨items, done, rfl⟩, ?_, fun candidate => ?_⟩
  · refine ((sortedBy_perm _ _).map _).nodup_iff.mpr ?_
    rw [List.map_map]
    have ids : (items.map fun item => item.1.id).Nodup := by
      have distinct := ranked.nodup
      rw [← entries, List.map_map] at distinct
      exact distinct
    exact ids.sublist (List.filter_sublist.map fun item : Node × MatchKind => item.1.id)
  · rw [mem_sortedBy, List.mem_map]
    constructor
    · rintro ⟨item, member, rfl⟩
      obtain ⟨here, chosen⟩ := List.mem_filter.mp member
      refine ⟨item.1, inside item here, chosen, item.2, ?_, rfl⟩
      rw [Dict.get?_eq_some, ← entries]
      exact List.mem_map.mpr ⟨item, here, rfl⟩
    · rintro ⟨node, member, chosen, matched, found, rfl⟩
      rw [Dict.get?_eq_some, ← entries] at found
      obtain ⟨item, here, same⟩ := List.mem_map.mp found
      have sameId : item.1.id = node.id := congrArg Prod.fst same
      have sameKind : item.2 = matched := congrArg Prod.snd same
      have named : item.1 = node := GraphSet.node_eq_of_id (inside item here) member sameId
      exact ⟨item, List.mem_filter.mpr ⟨here, named ▸ chosen⟩, by rw [named, sameKind]⟩

/-- Distinct candidates are as many as the nodes they stand for. -/
theorem candidates_length {candidates : List SymbolCandidate} {known : Node → Option MatchKind}
    (distinct : (candidates.map SymbolCandidate.nodeId).Nodup)
    (members : ∀ candidate, candidate ∈ candidates ↔ ∃ node ∈ request.pinned.allNodes,
      request.selects node = true ∧ ∃ matched, known node = some matched ∧
        candidate = candidateOf node matched) :
    candidates.length =
      (request.pinned.nodes.filter fun node => request.selects node && (known node).isSome).length := by
  rw [← List.length_map SymbolCandidate.nodeId, ← List.length_map Node.id]
  refine List.Perm.length_eq ?_
  rw [List.perm_ext_iff_of_nodup distinct
    (request.pinned.nodes_ids_nodup.sublist (List.filter_sublist.map Node.id))]
  intro nodeId
  rw [List.mem_map, List.mem_map]
  constructor
  · rintro ⟨candidate, member, rfl⟩
    obtain ⟨node, inside, chosen, matched, found, rfl⟩ := (members candidate).mp member
    refine ⟨node, List.mem_filter.mpr ⟨GraphSet.mem_nodes.mpr inside, ?_⟩, rfl⟩
    rw [chosen, found]
    rfl
  · rintro ⟨node, member, rfl⟩
    obtain ⟨inside, kept⟩ := List.mem_filter.mp member
    obtain ⟨chosen, matches'⟩ := Bool.and_eq_true_iff.mp kept
    obtain ⟨matched, found⟩ := Option.isSome_iff_exists.mp matches'
    exact ⟨candidateOf node matched, (members _).mpr
      ⟨node, GraphSet.mem_nodes.mp inside, chosen, matched, found, rfl⟩, rfl⟩

/-! ### Completeness -/

/-- The candidates are exactly the matching nodes of the requested kinds, each once, with the match
kind of its rank. -/
def SearchRequest.Lists (py : Interpreter) (request : SearchRequest)
    (candidates : List SymbolCandidate) : Prop :=
  (candidates.map SymbolCandidate.nodeId).Nodup ∧
    ∀ candidate, candidate ∈ candidates ↔ ∃ node ∈ request.pinned.allNodes,
      request.selects node = true ∧ ∃ matched : MatchKind,
        (matched.rank : ℤ) = rank py node request.wanted ∧ candidate = candidateOf node matched

/-- The scan sees every weaker match of the requested kinds. -/
def SearchRequest.SeesAll (py : Interpreter) (request : SearchRequest) : Prop :=
  ∀ node ∈ request.pinned.allNodes, request.selects node = true → request.nearly py node = true →
    node.id ∈ (request.scannedNodes py).map Node.id

/-- The matches of the requested kinds the search may list: the exact hits and what it scans. -/
def SearchRequest.listable (py : Interpreter) (request : SearchRequest) : List Node :=
  request.pinned.nodes.filter fun node => request.selects node &&
    (request.hits py node || (request.nearly py node &&
      decide (node.id ∈ (request.scannedNodes py).map Node.id)))

theorem nearly_iff {node : Node} : request.nearly py node = true ↔
    exactMatch py node request.wanted = none ∧
      (weakerMatch py node (py.casefold request.wanted)).isSome = true := by
  rw [SearchRequest.nearly, decide_eq_true_iff, rank_eq, bestMatch]
  cases exact : exactMatch py node request.wanted with
  | some matched =>
    have low := exactMatch_rank py node request.wanted exact
    simp
    omega
  | none =>
    cases weak : weakerMatch py node (py.casefold request.wanted) with
    | none => simp
    | some matched =>
      have high := weakerMatch_rank py node weak
      simp
      omega

/-- The search knows of a node what it may list. -/
theorem known_isSome {node : Node} :
    (request.known py node).isSome = (request.hits py node || (request.nearly py node &&
      decide (node.id ∈ (request.scannedNodes py).map Node.id))) := by
  rw [Bool.eq_iff_iff, Bool.or_eq_true, Bool.and_eq_true, nearly_iff, hits_iff,
    SearchRequest.known, decide_eq_true_iff]
  cases exactMatch py node request.wanted with
  | some matched => simp
  | none =>
    by_cases scanned : node.id ∈ (request.scannedNodes py).map Node.id
    · simp only [scanned, if_true, Option.none_or, and_true, true_and, Option.isSome_none,
        Bool.false_eq_true, false_or]
    · simp only [scanned, if_false, Option.none_or, and_false, Option.isSome_none,
        Bool.false_eq_true, or_self]

/-- What the search knows of a node is its best match, unless it missed it. -/
theorem known_eq_iff {node : Node} : request.known py node = bestMatch py node request.wanted ↔
    (request.nearly py node = true → node.id ∈ (request.scannedNodes py).map Node.id) := by
  rw [nearly_iff, SearchRequest.known, bestMatch]
  cases exactMatch py node request.wanted with
  | some matched => simp
  | none =>
    by_cases scanned : node.id ∈ (request.scannedNodes py).map Node.id
    · simp [scanned]
    · cases weakerMatch py node (py.casefold request.wanted) <;> simp [scanned]

/-- **An untruncated search is complete exactly when it scans every weaker match**, or what it may list
exceeds its limit and the answer is not untruncated. -/
theorem search_complete_iff {scope : GraphSet} {query : Text} {options : SearchOptions}
    (py : Interpreter) (accepted : searchRequest scope query options = .ok request) :
    ∃ result, searchSymbols py scope query options = .ok result ∧
      ((result.truncated = false → request.Lists py result.candidates) ↔
        request.SeesAll py ∨ request.allowance < (request.listable py).length) := by
  obtain ⟨ranked, scanned, rankedDone, lookups, keys⟩ := rankAll_ok py request
  obtain ⟨candidates, done, distinct, members⟩ := rankedCandidates_ok keys
  have knows : ∀ candidate, candidate ∈ candidates ↔ ∃ node ∈ request.pinned.allNodes,
      request.selects node = true ∧ ∃ matched, request.known py node = some matched ∧
        candidate = candidateOf node matched := by
    intro candidate
    rw [members]
    refine exists_congr fun node => and_congr_right fun inside => ?_
    rw [lookups node inside]
  have length : candidates.length = (request.listable py).length := by
    rw [candidates_length distinct knows, SearchRequest.listable]
    simp only [known_isSome]
  have lists : request.Lists py candidates ↔ request.SeesAll py := by
    constructor
    · rintro ⟨_, exact⟩ node inside chosen near
      by_contra missed
      obtain ⟨none, weak⟩ := nearly_iff.mp near
      obtain ⟨matched, found⟩ := Option.isSome_iff_exists.mp weak
      have best : bestMatch py node request.wanted = some matched := by
        rw [bestMatch, none, found]
        rfl
      obtain ⟨other, here, _, kind, found', same⟩ := (knows _).mp
        ((exact (candidateOf node matched)).mpr ⟨node, inside, chosen, matched,
          rank_eq_iff.mpr best, rfl⟩)
      have named : node = other :=
        GraphSet.node_eq_of_id inside here (congrArg SymbolCandidate.nodeId same)
      subst named
      have absent : request.known py node = Option.none := by
        rw [SearchRequest.known, none, if_neg missed]
        rfl
      cases absent.symm.trans found'
    · intro sees
      refine ⟨distinct, fun candidate => ?_⟩
      rw [knows]
      refine exists_congr fun node => and_congr_right fun inside => and_congr_right fun chosen => ?_
      rw [known_eq_iff.mpr (sees node inside chosen)]
      simp only [rank_eq_iff]
  refine ⟨searchAnswer request (buildSymbolIndex py request.pinned) scanned candidates, ?_, ?_⟩
  · refine bind_eq_ok.mpr ⟨request, accepted, ?_⟩
    exact bind_eq_ok.mpr ⟨(ranked, scanned), rankedDone, bind_eq_ok.mpr ⟨candidates, done, rfl⟩⟩
  · rw [← lists, ← length]
    have parts : (searchAnswer request (buildSymbolIndex py request.pinned) scanned
          candidates).truncated = decide (candidates.length > request.allowance) ∧
        (searchAnswer request (buildSymbolIndex py request.pinned) scanned
          candidates).candidates = candidates.take request.allowance := by
      unfold searchAnswer
      dsimp only
      split_ifs <;> exact ⟨rfl, rfl⟩
    rw [parts.1, parts.2, decide_eq_false_iff_not, not_lt]
    constructor
    · intro complete
      by_cases fits : candidates.length ≤ request.allowance
      · have all := complete fits
        rw [List.take_of_length_le fits] at all
        exact Or.inl all
      · exact Or.inr (not_le.mp fits)
    · rintro (complete | beyond) fits
      · rw [List.take_of_length_le fits]
        exact complete
      · exact absurd fits (not_le.mpr beyond)

/-- Two functions of one project whose names start alike. -/
def namesakes : GraphSet :=
  plainScope [plainGraph "p"
    [plainNode "p" "ab" 'a',
      plainNode "p" "ac" 'b']
    [] none (by decide)] (by decide)

theorem search_complete_namesakes : ∃ request result,
    searchRequest namesakes "a" {} = .ok request ∧
      searchSymbols .ascii namesakes "a" {} = .ok result ∧
      ((result.truncated = false → request.Lists .ascii result.candidates) ↔
        request.SeesAll .ascii ∨ request.allowance < (request.listable .ascii).length) := by
  have accepted : searchRequest namesakes "a" {} = .ok _ := rfl
  obtain ⟨result, done, complete⟩ := search_complete_iff .ascii accepted
  exact ⟨_, result, accepted, done, complete⟩

/-- Under a budget of one node, the search for `a` is called untruncated without `ac`. -/
theorem search_omits : ∃ result,
    searchSymbols .ascii namesakes "a" { maxNodes := some 1 } = .ok result ∧
      result.truncated = false ∧ ∃ node ∈ namesakes.allNodes,
        0 ≤ rank .ascii node "a" ∧ node.id ∉ result.candidates.map SymbolCandidate.nodeId :=
  ⟨_, rfl, by decide +kernel, plainNode "p" "ac" 'b',
    List.mem_cons_of_mem _ List.mem_cons_self, by decide +kernel, by decide +kernel⟩

end AxiomMcp.Query

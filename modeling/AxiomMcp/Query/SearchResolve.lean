/-
**Search and target resolution.**

`GraphSet.resolve` looks at every pinned node, a search at the nodes it may list, and it judges ambiguity by
the candidates that are left behind its limit.

* `resolve_ambiguous_iff`, `resolve_ok_iff`: a text resolves to the one best match, and is ambiguous exactly
  when the best matches are tied;
* `answer_ambiguous_iff`: a search is ambiguous exactly when its limit leaves two candidates and the best of
  the matches it may list are tied;
* `search_resolve_agree_iff`: **the two agree exactly when the search may list a best match that is not tied,
  and has two best matches and room for them where the scope has**.

The other case is silent: a limit of one cuts a tie (`search_hides_tie`).
-/

import AxiomMcp.Query.SearchComplete
import AxiomMcp.Lib.Best

namespace AxiomMcp.Query

open AxiomMcp.Lib

variable {py : Interpreter}

/-! ### What a text resolves to -/

/-- The pinned nodes that match a text. -/
def GraphSet.matching (py : Interpreter) (scope : GraphSet) (text : Text) : List Node :=
  scope.nodes.filter fun node => rank py node text ≥ 0

/-- How well a node matches a text. -/
def rankOf (py : Interpreter) (text : Text) (node : Node) : ℤ := rank py node text

theorem GraphSet.mem_matching {scope : GraphSet} {text : Text} {node : Node} :
    node ∈ scope.matching py text ↔ node ∈ scope.allNodes ∧ 0 ≤ rank py node text := by
  rw [matching, List.mem_filter, mem_nodes]
  simp only [ge_iff_le, decide_eq_true_eq]

section Resolve

variable {scope : GraphSet} {text : Text}

/-- The matches of a text, in the order they are ranked. -/
theorem matchText_ok (nonempty : text ≠ []) : ∃ ranked, scope.matchText py text = .ok ranked ∧
    (∀ node, node ∈ ranked ↔ node ∈ scope.matching py text) ∧ ranked.Nodup ∧
      ranked.Pairwise fun a b => rankOf py text a ≤ rankOf py text b := by
  refine ⟨_, if_neg nonempty, fun node => mem_sortedBy _ _, ?_, ?_⟩
  · have distinct : scope.nodes.Nodup := scope.nodes_ids_nodup.of_map _
    exact sortedBy_nodup _ _ (distinct.filter _)
  · refine (sortedBy_pairwise _ _).imp fun below => ?_
    rcases Prod.Lex.le_iff.mp below with less | ⟨same, _⟩
    · exact less.le
    · exact same.le

/-- What resolving a text comes to. -/
inductive ResolveOutcome (py : Interpreter) (scope : GraphSet) (text : Text) :
    Except QueryModelError Node → Prop
  | none (empty : scope.matching py text = []) : ResolveOutcome py scope text (.error (.noMatch text))
  | one {node : Node} (best : Best (rankOf py text) (scope.matching py text) node)
      (single : ¬ Tied (rankOf py text) (scope.matching py text)) : ResolveOutcome py scope text (.ok node)
  | tied {candidateIds : List Text} (several : Tied (rankOf py text) (scope.matching py text)) :
      ResolveOutcome py scope text (.error (.ambiguous text candidateIds))

theorem resolve_outcome (nonempty : text ≠ []) : ResolveOutcome py scope text (scope.resolve py text) := by
  obtain ⟨ranked, matched, members, distinct, ordered⟩ := @matchText_ok py scope text nonempty
  unfold GraphSet.resolve
  rw [matched]
  cases ranked with
  | nil =>
    refine .none (List.eq_nil_iff_forall_not_mem.mpr fun node here => ?_)
    exact List.not_mem_nil ((members node).mpr here)
  | cons first rest =>
    have top : Best (rankOf py text) (scope.matching py text) first := by
      obtain ⟨inside, least⟩ := best_first ordered
      exact ⟨(members first).mp inside, fun node here => least node ((members node).mpr here)⟩
    have several := tied_filter_iff ordered distinct
    rw [tied_congr members] at several
    have itself : first ∈ (first :: rest).filter fun node =>
        decide (rankOf py text node = rankOf py text first) :=
      List.mem_filter.mpr ⟨List.mem_cons_self, decide_eq_true rfl⟩
    dsimp only
    split
    · next none =>
      exact (List.not_mem_nil (none ▸ itself)).elim
    · next node only =>
      change (first :: rest).filter (fun node => decide (rankOf py text node = rankOf py text first)) = _ at only
      rw [only] at itself several
      rw [← List.mem_singleton.mp itself]
      exact .one top fun tied => lt_irrefl 1 (several.mpr tied)
    · next none single =>
      refine .tied (several.mp ?_)
      cases tied : (first :: rest).filter fun node =>
          decide (rankOf py text node = rankOf py text first) with
      | nil => exact (none tied).elim
      | cons a others =>
        cases others with
        | nil => exact (single a tied).elim
        | cons b others => exact Nat.succ_lt_succ (Nat.succ_pos _)

/-- **A text is ambiguous exactly when its best matches are tied.** -/
theorem resolve_ambiguous_iff (nonempty : text ≠ []) :
    (∃ candidateIds, scope.resolve py text = .error (.ambiguous text candidateIds)) ↔
      Tied (rankOf py text) (scope.matching py text) := by
  constructor
  · rintro ⟨candidateIds, refused⟩
    have outcome := @resolve_outcome py scope text nonempty
    rw [refused] at outcome
    cases outcome with
    | tied several => exact several
  · intro several
    have outcome := @resolve_outcome py scope text nonempty
    generalize scope.resolve py text = answer at outcome
    cases outcome with
    | none empty =>
      obtain ⟨best, _, _, inside, _⟩ := several
      exact (List.not_mem_nil (empty ▸ inside.1)).elim
    | one _ single => exact (single several).elim
    | tied _ => exact ⟨_, rfl⟩

/-- A best match that is not tied is what the text resolves to. -/
theorem resolve_of_best (nonempty : text ≠ []) {node : Node}
    (best : Best (rankOf py text) (scope.matching py text) node)
    (single : ¬ Tied (rankOf py text) (scope.matching py text)) : scope.resolve py text = .ok node := by
  have outcome := @resolve_outcome py scope text nonempty
  generalize scope.resolve py text = answer at outcome
  cases outcome with
  | none empty => exact (List.not_mem_nil (empty ▸ best.1)).elim
  | one other _ => rw [other.eq_of_not_tied best single]
  | tied several => exact (single several).elim

end Resolve

/-! ### What a search lists -/

section Listed

variable {request : SearchRequest}

/-- What the search knows of a node is its best match. -/
theorem best_of_known {node : Node} {matched : MatchKind} (known : request.known py node = some matched) :
    bestMatch py node request.wanted = some matched := by
  unfold SearchRequest.known at known
  unfold bestMatch
  cases exact : exactMatch py node request.wanted with
  | some best =>
    rw [exact] at known
    exact known
  | none =>
    rw [exact, Option.none_or] at known
    split at known
    · exact known
    · cases known

theorem mem_listable {node : Node} : node ∈ request.listable py ↔
    node ∈ request.pinned.allNodes ∧ request.selects node = true ∧ (request.known py node).isSome = true := by
  rw [SearchRequest.listable, List.mem_filter, GraphSet.mem_nodes, Bool.and_eq_true, known_isSome]

/-- The candidate a node stands as. -/
def matchOf (py : Interpreter) (text : Text) (node : Node) : SymbolCandidate :=
  candidateOf node ((bestMatch py node text).getD .substring)

/-- A node that may be listed matches, and stands as a candidate with its rank. -/
theorem matchOf_rank {node : Node} (listed : node ∈ request.listable py) :
    ((matchOf py request.wanted node).matched.rank : ℤ) = rankOf py request.wanted node := by
  obtain ⟨matched, known⟩ := Option.isSome_iff_exists.mp (mem_listable.mp listed).2.2
  have best := best_of_known known
  rw [rankOf, ← rank_eq_iff.mpr best, matchOf, best]
  rfl

/-- The candidates of a search: those of the nodes it may list, each once, by rank, up to its limit. -/
theorem search_listed {scope : GraphSet} {text : Text} {options : SearchOptions}
    (accepted : searchRequest scope text options = .ok request) :
    ∃ (result : SymbolSearchResult) (candidates : List SymbolCandidate),
      searchSymbols py scope text options = .ok result ∧
      result.candidates = candidates.take request.allowance ∧ candidates.Nodup ∧
      (candidates.Pairwise fun a b => a.matched.rank ≤ b.matched.rank) ∧
      ∀ candidate, candidate ∈ candidates ↔ candidate ∈ (request.listable py).map (matchOf py request.wanted) := by
  obtain ⟨ranked, scanned, rankedDone, lookups, keys⟩ := rankAll_ok py request
  obtain ⟨candidates, done, distinct, members⟩ := rankedCandidates_ok keys
  refine ⟨searchAnswer request (buildSymbolIndex py request.pinned) scanned candidates, candidates, ?_,
    searchAnswer_candidates _ _ _, distinct.of_map _, ?_, fun candidate => ?_⟩
  · refine bind_eq_ok.mpr ⟨request, accepted, ?_⟩
    exact bind_eq_ok.mpr ⟨(ranked, scanned), rankedDone, bind_eq_ok.mpr ⟨candidates, done, rfl⟩⟩
  · obtain ⟨items, _, rfl⟩ := map_eq_ok.mp done
    refine (sortedBy_pairwise _ _).imp fun below => ?_
    rcases Prod.Lex.le_iff.mp below with less | ⟨same, _⟩
    · exact less.le
    · exact same.le
  · rw [members, List.mem_map]
    constructor
    · rintro ⟨node, inside, chosen, matched, found, rfl⟩
      rw [lookups node inside] at found
      refine ⟨node, mem_listable.mpr ⟨inside, chosen, by rw [found]; rfl⟩, ?_⟩
      rw [matchOf, best_of_known found]
      rfl
    · rintro ⟨node, listed, rfl⟩
      obtain ⟨inside, chosen, some⟩ := mem_listable.mp listed
      obtain ⟨matched, known⟩ := Option.isSome_iff_exists.mp some
      refine ⟨node, inside, chosen, matched, (lookups node inside).trans known, ?_⟩
      rw [matchOf, best_of_known known]
      rfl

/-- **A search is ambiguous exactly when its limit leaves two candidates and the best matches it may list are
tied.** -/
theorem answer_ambiguous_iff {result : SymbolSearchResult} {candidates : List SymbolCandidate}
    (shown : result.candidates = candidates.take request.allowance) (distinct : candidates.Nodup)
    (ordered : candidates.Pairwise fun a b => a.matched.rank ≤ b.matched.rank)
    (members : ∀ candidate, candidate ∈ candidates ↔
      candidate ∈ (request.listable py).map (matchOf py request.wanted)) :
    result.ambiguous = true ↔
      2 ≤ request.allowance ∧ Tied (rankOf py request.wanted) (request.listable py) := by
  have same : Tied (fun candidate : SymbolCandidate => candidate.matched.rank) candidates ↔
      Tied (rankOf py request.wanted) (request.listable py) := by
    rw [tied_congr members]
    refine tied_map (fun a left b right equal => ?_) fun a left b right => ?_
    · exact GraphSet.node_eq_of_id (mem_listable.mp left).1 (mem_listable.mp right).1
        (congrArg SymbolCandidate.nodeId equal)
    · rw [← matchOf_rank left, ← matchOf_rank right, Int.ofNat_le]
  rw [← same, SymbolSearchResult.ambiguous, shown]
  cases candidates with
  | nil =>
    rw [List.take_nil]
    refine iff_of_false Bool.false_ne_true ?_
    rintro ⟨_, best, _, _, inside, _⟩
    exact List.not_mem_nil inside.1
  | cons first rest =>
    rw [← tied_take_iff ordered distinct]
    cases request.allowance with
    | zero => exact iff_of_false Bool.false_ne_true (Nat.not_lt_zero _)
    | succ room =>
      rw [List.take_succ_cons]
      exact decide_eq_true_iff

end Listed

/-! ### Agreement -/

/-- A search without a filter and the resolution of its text agree. -/
structure SearchAgrees (py : Interpreter) (scope : GraphSet) (text : Text) (result : SymbolSearchResult) :
    Prop where
  kinds : ∀ candidate ∈ result.candidates, ∃ node ∈ scope.allNodes, ∃ matched : MatchKind,
    (matched.rank : ℤ) = rank py node text ∧ candidate = candidateOf node matched
  ambiguous : result.ambiguous = true ↔ Tied (rankOf py text) (scope.matching py text)
  refuses : result.ambiguous = true ↔
    ∃ candidateIds, scope.resolve py text = .error (.ambiguous text candidateIds)
  first : scope.matching py text ≠ [] → result.ambiguous = false → ∃ node first rest,
    scope.resolve py text = .ok node ∧ result.candidates = first :: rest ∧ first.nodeId = node.id

/-- The search shows what its text resolves to: it may list a best match that is not tied, and where the best
matches of the scope are tied, it has room for two candidates and those it may list are tied, too. -/
structure SearchRequest.ShowsBest (py : Interpreter) (request : SearchRequest) : Prop where
  single : ∀ node, Best (rankOf py request.wanted) (request.pinned.matching py request.wanted) node →
    ¬ Tied (rankOf py request.wanted) (request.pinned.matching py request.wanted) →
      node ∈ request.listable py
  several : Tied (rankOf py request.wanted) (request.pinned.matching py request.wanted) →
    2 ≤ request.allowance ∧ Tied (rankOf py request.wanted) (request.listable py)

/-- What may be listed matches. -/
theorem listable_subset {request : SearchRequest} :
    request.listable py ⊆ request.pinned.matching py request.wanted := by
  intro node listed
  refine GraphSet.mem_matching.mpr ⟨(mem_listable.mp listed).1, ?_⟩
  have rank := matchOf_rank listed
  unfold rankOf at rank
  omega

/-- The request of a search without a filter. -/
theorem searchRequest_plain {scope : GraphSet} {text : Text} {limit maxNodes : Option ℤ}
    {request : SearchRequest} (bare : text.strip = text)
    (accepted : searchRequest scope text { limit, maxNodes } = .ok request) :
    text ≠ [] ∧ request.pinned = scope ∧ request.wanted = text ∧ 1 ≤ request.allowance := by
  unfold searchRequest at accepted
  split at accepted
  · cases accepted
  · next nonempty =>
    rw [bare] at nonempty accepted
    obtain ⟨pinned, narrowed, accepted⟩ := bind_eq_ok.mp accepted
    obtain rfl := Except.ok.inj narrowed
    obtain ⟨_, _, accepted⟩ := bind_eq_ok.mp accepted
    obtain ⟨ceiling, nodes, accepted⟩ := bind_eq_ok.mp accepted
    obtain ⟨allowance, items, accepted⟩ := bind_eq_ok.mp accepted
    obtain rfl := Except.ok.inj accepted
    have low : 1 ≤ ceiling := by
      rcases boundedInt_ok nodes with ⟨_, rfl⟩ | ⟨_, above, _⟩
      · decide
      · exact above
    refine ⟨nonempty, rfl, rfl, le_min ?_ low⟩
    rcases boundedInt_ok items with ⟨_, rfl⟩ | ⟨_, above, _⟩
    · exact low
    · exact above

/-- A search that shows the best matches agrees with the resolution of its text. -/
theorem agrees_of_shows {request : SearchRequest} {result : SymbolSearchResult}
    {candidates : List SymbolCandidate} (nonempty : request.wanted ≠ []) (room : 1 ≤ request.allowance)
    (shown : result.candidates = candidates.take request.allowance) (distinct : candidates.Nodup)
    (ordered : candidates.Pairwise fun a b => a.matched.rank ≤ b.matched.rank)
    (members : ∀ candidate, candidate ∈ candidates ↔
      candidate ∈ (request.listable py).map (matchOf py request.wanted))
    (shows : request.ShowsBest py) : SearchAgrees py request.pinned request.wanted result := by
  have ambiguous : result.ambiguous = true ↔
      Tied (rankOf py request.wanted) (request.pinned.matching py request.wanted) := by
    rw [answer_ambiguous_iff shown distinct ordered members]
    refine ⟨fun ⟨_, tied⟩ => ?_, shows.several⟩
    by_contra single
    obtain ⟨node, _, _, best, _⟩ := id tied
    obtain ⟨top, first⟩ := exists_best (rankOf py request.wanted)
      (List.ne_nil_of_mem (listable_subset best.1))
    exact single (tied.lift listable_subset first (shows.single top first single))
  refine ⟨fun candidate member => ?_, ambiguous, ambiguous.trans (resolve_ambiguous_iff nonempty).symm,
    fun some decided => ?_⟩
  · rw [shown] at member
    obtain ⟨node, listed, rfl⟩ := List.mem_map.mp ((members candidate).mp (List.mem_of_mem_take member))
    exact ⟨node, (mem_listable.mp listed).1, _, matchOf_rank listed, rfl⟩
  · have single : ¬ Tied (rankOf py request.wanted) (request.pinned.matching py request.wanted) :=
      fun tied => Bool.eq_false_iff.mp decided (ambiguous.mpr tied)
    obtain ⟨top, best⟩ := exists_best (rankOf py request.wanted) some
    have listed := shows.single top best single
    have stands : matchOf py request.wanted top ∈ candidates :=
      (members _).mpr (List.mem_map_of_mem listed)
    cases candidates with
    | nil => exact (List.not_mem_nil stands).elim
    | cons first rest =>
      obtain ⟨node, inside, rfl⟩ := List.mem_map.mp ((members first).mp List.mem_cons_self)
      -- the first candidate ranks no worse than the best match, so its node is the best match
      have below := (best_first ordered).2 _ stands
      rw [← Int.ofNat_le, matchOf_rank inside, matchOf_rank listed] at below
      have least : Best (rankOf py request.wanted) (request.pinned.matching py request.wanted) node :=
        ⟨listable_subset inside, fun other here => below.trans (best.2 other here)⟩
      obtain ⟨more, capacity⟩ : ∃ more, request.allowance = more + 1 := ⟨request.allowance - 1, by omega⟩
      refine ⟨node, matchOf py request.wanted node, rest.take more, resolve_of_best nonempty least single, ?_, rfl⟩
      rw [shown, capacity, List.take_succ_cons]

/-- **A search agrees with the resolution of its text if and only if it shows the best matches.** -/
theorem search_resolve_agree_iff (py : Interpreter) {scope : GraphSet} {text : Text}
    {limit maxNodes : Option ℤ} {request : SearchRequest} (bare : text.strip = text)
    (accepted : searchRequest scope text { limit, maxNodes } = .ok request) :
    ∃ result, searchSymbols py scope text { limit, maxNodes } = .ok result ∧
      (SearchAgrees py scope text result ↔ request.ShowsBest py) := by
  obtain ⟨result, candidates, answered, shown, distinct, ordered, members⟩ := @search_listed py _ _ _ _ accepted
  obtain ⟨nonempty, rfl, rfl, room⟩ := searchRequest_plain bare accepted
  have ambiguous := answer_ambiguous_iff shown distinct ordered members
  refine ⟨result, answered, fun agrees => ⟨fun node best single => ?_, fun tied => ?_⟩, fun shows => ?_⟩
  · have decided : result.ambiguous = false := Bool.eq_false_iff.mpr fun tied => single (agrees.ambiguous.mp tied)
    obtain ⟨other, first, rest, resolved, candidates', same⟩ :=
      agrees.first (List.ne_nil_of_mem best.1) decided
    obtain rfl : node = other := Except.ok.inj ((resolve_of_best nonempty best single).symm.trans resolved)
    have member : first ∈ candidates := by
      have cut : first ∈ candidates.take request.allowance := by
        rw [← shown, candidates']
        exact List.mem_cons_self
      exact List.mem_of_mem_take cut
    obtain ⟨listed, inside, rfl⟩ := List.mem_map.mp ((members first).mp member)
    have named : listed = node := GraphSet.node_eq_of_id (mem_listable.mp inside).1
      (GraphSet.mem_matching.mp best.1).1 same
    exact named ▸ inside
  · exact ambiguous.mp (agrees.ambiguous.mpr tied)
  · exact agrees_of_shows nonempty room shown distinct ordered members shows

/-- For two namesakes of another name, the search with room for one does not agree. -/
theorem search_resolve_namesakes : ∃ request result,
    searchRequest namesakes "a" { limit := some 1 } = .ok request ∧
      searchSymbols .ascii namesakes "a" { limit := some 1 } = .ok result ∧
      (SearchAgrees .ascii namesakes "a" result ↔ request.ShowsBest .ascii) := by
  have accepted : searchRequest namesakes "a" { limit := some 1, maxNodes := none } = .ok _ := rfl
  obtain ⟨result, answered, agrees⟩ := search_resolve_agree_iff .ascii (by decide) accepted
  exact ⟨_, result, accepted, answered, agrees⟩

/-- With a limit of one, the search for `a` is not ambiguous, and resolving `a` is refused as ambiguous. -/
theorem search_hides_tie : ¬ ∀ (scope : GraphSet) (text : Text) (limit maxNodes : Option ℤ)
    (result : SymbolSearchResult), text.strip = text →
      searchSymbols .ascii scope text { limit, maxNodes } = .ok result →
        SearchAgrees .ascii scope text result := by
  intro all
  have agrees := all namesakes "a" (some 1) none _ (by decide) rfl
  exact absurd (agrees.refuses.mpr ⟨_, rfl⟩) (by decide +kernel)

end AxiomMcp.Query

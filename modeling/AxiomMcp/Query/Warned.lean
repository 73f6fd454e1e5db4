/-
**What the engines warn of can be printed (`query/*.py`).**

A warning is put together from fixed words, counts, names of the code, identifiers, and texts as `repr` shows them.
`repr` escapes what `str.isprintable` refuses, so where it refuses surrogates, a warning has UTF-8 bytes.

* `clean_pyRepr`: what `repr` shows;
* `Printed`: a warning that an envelope takes, and `printed_format`: how the engines make one;
* `context_warns`, `neighbourTraversal_warns`, `callers_warns`, `impact_warns`, `path_warns`, `search_warns`,
  `changes_warns`: **what the engines warn of**.
-/

import AxiomMcp.Query.Changes
import AxiomMcp.Query.Presented
import AxiomMcp.Query.Vectors

namespace AxiomMcp.Query

open AxiomMcp.Lib

/-! ### What `repr` shows -/

/-- `str.isprintable` refuses surrogates, and `repr` of a float has none. -/
structure HidesSurrogates (py : Interpreter) : Prop where
  printable : ∀ c, CodePoint.isSurrogate c = true → py.isPrintable c = false
  floats : ∀ value, Utf8.Clean (py.floatRepr value)

theorem hidesSurrogates_ascii : HidesSurrogates .ascii where
  printable c lone := by
    have high : 0xd800 ≤ c.val := of_decide_eq_true (Bool.and_eq_true_iff.mp lone).1
    exact Bool.and_eq_false_iff.mpr (.inr (decide_eq_false (by omega)))
  floats _ _ wrong := nomatch wrong

section Repr

variable {py : Interpreter}

theorem clean_low {c : CodePoint} (low : c.val < 0xd800) : Utf8.Clean [c] := by
  intro d member
  obtain rfl := List.mem_singleton.mp member
  exact Bool.and_eq_false_iff.mpr (.inl (decide_eq_false (by omega)))

theorem clean_reprChar (hides : HidesSurrogates py) {quote : CodePoint} (low : quote.val < 0xd800) (c : CodePoint) :
    Utf8.Clean (Text.reprChar py.isPrintable quote c) := by
  have escaped (head : String) (width : ℕ) : Utf8.Clean ((head : Text) ++ Text.hexDigits width c.val) :=
    Utf8.clean_append.mpr ⟨Utf8.clean_ofString _, Json.clean_hexDigits _ _⟩
  unfold Text.reprChar
  split
  · next marked =>
    have backslash : Utf8.Clean [codePoint '\\'] := clean_low (by decide)
    refine Utf8.clean_append.mpr ⟨backslash, ?_⟩
    rcases marked with rfl | rfl
    · exact clean_low low
    · exact backslash
  · split
    · exact Utf8.clean_ofString _
    · split
      · exact Utf8.clean_ofString _
      · split
        · exact Utf8.clean_ofString _
        · split
          · exact escaped _ _
          · split
            · exact clean_low (by omega)
            · split
              · next printable =>
                intro d member
                obtain rfl := List.mem_singleton.mp member
                by_contra lone
                rw [hides.printable d (by simpa using lone)] at printable
                cases printable
              · split
                · exact escaped _ _
                · split <;> exact escaped _ _

/-- What `repr` shows of a text has UTF-8 bytes. -/
theorem clean_pyRepr (hides : HidesSurrogates py) (s : Text) : Utf8.Clean (s.pyRepr py.isPrintable) := by
  unfold Text.pyRepr
  dsimp only
  generalize mark : (if (0x27 : CodePoint) ∈ s ∧ (0x22 : CodePoint) ∉ s then (0x22 : CodePoint) else 0x27) = quote
  have low : quote.val < 0xd800 := by
    subst mark
    split <;> decide
  have inside : Utf8.Clean (s.flatMap (Text.reprChar py.isPrintable quote)) := by
    intro c member
    obtain ⟨d, _, shown⟩ := List.mem_flatMap.mp member
    exact clean_reprChar hides low d c shown
  exact Utf8.clean_append.mpr ⟨Utf8.clean_append.mpr ⟨clean_low low, inside⟩, clean_low low⟩

end Repr

/-! ### Warnings -/

/-- A warning that an envelope takes, and whose text has UTF-8 bytes. -/
structure Printed (warning : Text) : Prop where
  given : warning ≠ []
  clean : Utf8.Clean warning

@[simp] theorem clean_ofNat (n : ℕ) : Utf8.Clean (Text.ofNat n) := Utf8.clean_ofString _

@[simp] theorem clean_ofInt (n : ℤ) : Utf8.Clean (Text.ofInt n) := Utf8.clean_ofString _

theorem WalkReason.clean_name (reason : WalkReason) : Utf8.Clean reason.name := by
  cases reason <;> exact Utf8.clean_ofString _

theorem ChangeStatus.clean_name (status : ChangeStatus) : Utf8.Clean status.name := by
  cases status <;> exact Utf8.clean_ofString _

theorem MatchKind.clean_name (matched : MatchKind) : Utf8.Clean matched.name := by
  cases matched <;> exact Utf8.clean_ofString _

theorem clean_names {α : Type} {name : α → Text} (each : ∀ item, Utf8.Clean (name item)) (sep : String)
    (items : List α) : Utf8.Clean (Text.join sep (items.map name)) :=
  (Utf8.clean_join (Utf8.clean_ofString _)).mpr (List.forall_mem_map.mpr fun item _ => each item)

/-- Identifiers, joined. -/
theorem clean_identifiers {items : List Text} (named : ∀ item ∈ items, isIdentifier item = true) (sep : String) :
    Utf8.Clean (Text.join sep items) :=
  (Utf8.clean_join (Utf8.clean_ofString _)).mpr fun item member => clean_identifier (named item member)

/-- Fixed words. -/
theorem printed_literal {words : String} (given : (words : Text) ≠ []) : Printed words :=
  ⟨given, Utf8.clean_ofString _⟩

/-- Fixed words, and what has UTF-8 bytes. -/
theorem printed_format {words : String} {rest : List Text} (given : (words : Text) ≠ [])
    (clean : ∀ part ∈ rest, Utf8.Clean part) : Printed (Text.format (words :: rest)) := by
  refine ⟨fun none => given ?_, Utf8.clean_flatten.mpr (List.forall_mem_cons.mpr ⟨Utf8.clean_ofString _, clean⟩)⟩
  exact (List.append_eq_nil_iff.mp none).1

theorem printed_warningIf {applies : Bool} {warning : Text} (printed : Printed warning) :
    ∀ other ∈ warningIf applies warning, Printed other := by
  unfold warningIf
  split
  · exact List.forall_mem_singleton.mpr printed
  · exact List.forall_mem_nil _

theorem printed_reasonIf {applies : Bool} {reason : IncompleteReason} {warning : Text} (printed : Printed warning) :
    ∀ item ∈ reasonIf applies reason warning, Printed item.2 := by
  unfold reasonIf
  split
  · exact List.forall_mem_singleton.mpr printed
  · exact List.forall_mem_nil _

/-! ### The engines -/

/-- The projects across which callers are found are identifiers. -/
theorem crossProject_identifiers (resolved : Node) (walk : Walk) :
    ∀ project ∈ crossProject resolved walk, isIdentifier project = true := by
  intro project member
  obtain ⟨node, _, rfl⟩ := mem_keys_countBy.mp (List.mem_filter.mp ((mem_sortedBy _ _).mp member)).1
  exact node.projectId_identifier

/-- The projects without complete coverage are identifiers. -/
theorem partialCoverage_identifiers (py : Interpreter) (pinned : GraphSet) :
    ∀ project ∈ partialCoverage py pinned, isIdentifier project = true := by
  intro project member
  obtain ⟨item, inside, rfl⟩ := List.mem_map.mp ((mem_sortedBy _ _).mp member)
  obtain ⟨graph, _, rfl⟩ := List.mem_map.mp (List.mem_filter.mp inside).1
  exact graph.projectId_identifier

section Engines

variable {py : Interpreter} (hides : HidesSurrogates py) {scope : GraphSet} {target : Text} {options : QueryOptions}

include hides

theorem printed_ambiguousWarning (target : Text) (candidateIds : List Text) :
    Printed (ambiguousWarning py target candidateIds) := by
  refine printed_format (by decide) ?_
  simp [clean_pyRepr hides]

theorem context_warns {result : ContextResult} (done : context py scope target options = .ok result) :
    ∀ warning ∈ result.warnings, Printed warning := by
  obtain ⟨pinned, _, done⟩ := bind_eq_ok.mp done
  obtain ⟨sections, _, done⟩ := bind_eq_ok.mp done
  obtain ⟨hops, _, done⟩ := bind_eq_ok.mp done
  obtain ⟨headings, _, done⟩ := bind_eq_ok.mp done
  obtain ⟨kinds, _, done⟩ := bind_eq_ok.mp done
  obtain ⟨selected, _, done⟩ := bind_eq_ok.mp done
  cases selected with
  | ambiguous candidateIds =>
    obtain ⟨candidates, _, rfl⟩ := map_eq_ok.mp done
    exact List.forall_mem_singleton.mpr (printed_ambiguousWarning hides _ _)
  | one resolved =>
    obtain ⟨walk, _, done⟩ := bind_eq_ok.mp done
    obtain ⟨documents, _, rfl⟩ := map_eq_ok.mp done
    refine printed_warningIf (printed_format (by decide) ?_)
    simp

theorem neighbourTraversal_warns {operation : Text} {result : NeighborResult}
    (done : neighbourTraversal py operation scope target options = .ok result) :
    ∀ warning ∈ result.warnings, Printed warning := by
  obtain ⟨request, _, done⟩ := bind_eq_ok.mp done
  obtain ⟨selected, _, done⟩ := bind_eq_ok.mp done
  cases selected with
  | ambiguous candidateIds =>
    obtain ⟨candidates, _, rfl⟩ := map_eq_ok.mp done
    exact List.forall_mem_singleton.mpr (printed_ambiguousWarning hides _ _)
  | one resolved =>
    obtain ⟨walk, _, done⟩ := bind_eq_ok.mp done
    obtain ⟨documents, _, rfl⟩ := map_eq_ok.mp done
    refine printed_warningIf (printed_format (by decide) ?_)
    simp

theorem callers_warns {result : CallersResult} (done : callers py scope target options = .ok result) :
    ∀ warning ∈ result.warnings, Printed warning := by
  obtain ⟨request, _, done⟩ := bind_eq_ok.mp done
  obtain ⟨selected, _, done⟩ := bind_eq_ok.mp done
  cases selected with
  | ambiguous candidateIds =>
    obtain ⟨candidates, _, rfl⟩ := map_eq_ok.mp done
    exact List.forall_mem_singleton.mpr (printed_ambiguousWarning hides _ _)
  | one resolved =>
    obtain ⟨walk, _, done⟩ := bind_eq_ok.mp done
    obtain ⟨documents, _, rfl⟩ := map_eq_ok.mp done
    have missing := clean_identifiers request.pinned.missing_identifiers ", "
    have across := clean_identifiers (crossProject_identifiers resolved walk) ", "
    have reasons := clean_names WalkReason.clean_name "/" walk.reasons
    refine List.forall_mem_append.mpr ⟨List.forall_mem_map.mpr ?_,
      printed_warningIf (printed_format (by decide) ?_)⟩
    · unfold callersIncomplete
      refine List.forall_mem_append.mpr ⟨List.forall_mem_append.mpr ⟨?_, ?_⟩, ?_⟩
      all_goals
        refine printed_reasonIf (printed_format (by decide) ?_)
        simp [clean_pyRepr hides, missing, reasons]
    · simp [clean_pyRepr hides, across]

theorem impact_warns {result : ImpactResult} (done : impact py scope target options = .ok result) :
    ∀ warning ∈ result.warnings, Printed warning := by
  obtain ⟨request, _, done⟩ := bind_eq_ok.mp done
  obtain ⟨selected, _, done⟩ := bind_eq_ok.mp done
  cases selected with
  | ambiguous candidateIds =>
    obtain ⟨candidates, _, rfl⟩ := map_eq_ok.mp done
    exact List.forall_mem_singleton.mpr (printed_ambiguousWarning hides _ _)
  | one resolved =>
    obtain ⟨walk, _, done⟩ := bind_eq_ok.mp done
    obtain ⟨exactWalk, _, done⟩ := bind_eq_ok.mp done
    obtain ⟨depthLimited, _, done⟩ := bind_eq_ok.mp done
    obtain ⟨documents, _, rfl⟩ := map_eq_ok.mp done
    have missing := clean_identifiers request.pinned.missing_identifiers ", "
    have uncovered := clean_identifiers (partialCoverage_identifiers py request.pinned) ", "
    have reasons := clean_names WalkReason.clean_name "/" walk.reasons
    refine List.forall_mem_append.mpr ⟨List.forall_mem_append.mpr ⟨List.forall_mem_map.mpr ?_,
      printed_warningIf (printed_format (by decide) ?_)⟩, List.forall_mem_singleton.mpr ?_⟩
    · unfold impactIncomplete
      refine List.forall_mem_append.mpr ⟨List.forall_mem_append.mpr ⟨List.forall_mem_append.mpr
        ⟨List.forall_mem_append.mpr ⟨?_, ?_⟩, ?_⟩, ?_⟩, ?_⟩
      all_goals
        refine printed_reasonIf (printed_format (by decide) ?_)
        simp [missing, reasons, uncovered]
    · simp
    · unfold closingWarning
      split <;> exact printed_literal (by decide)

theorem path_warns {targetTo : Text} {result : PathResult}
    (done : path py scope target targetTo options = .ok result) : ∀ warning ∈ result.warnings, Printed warning := by
  obtain ⟨request, _, answered⟩ := path_ok done
  rcases answered with ⟨label, candidateIds, answered⟩ | ⟨start, goal, _, _, answered⟩
  · obtain ⟨candidates, _, rfl⟩ := map_eq_ok.mp answered
    refine List.forall_mem_singleton.mpr (printed_format (by decide) ?_)
    simp [clean_pyRepr hides]
  · unfold answerPath at answered
    dsimp only at answered
    split at answered
    · obtain ⟨pathNodes, _, answered⟩ := bind_eq_ok.mp answered
      obtain ⟨documents, _, answered⟩ := bind_eq_ok.mp answered
      obtain rfl := Except.ok.inj answered
      exact List.forall_mem_nil _
    · obtain ⟨visitedNodes, _, answered⟩ := bind_eq_ok.mp answered
      obtain rfl := Except.ok.inj answered
      have missing := clean_identifiers request.pinned.missing_identifiers ", "
      refine List.forall_mem_append.mpr ⟨List.forall_mem_map.mpr ?_,
        printed_warningIf (printed_format (by decide) ?_)⟩
      · have reasons (reasons : List WalkReason) := clean_names WalkReason.clean_name "/" reasons
        unfold pathIncomplete
        refine List.forall_mem_append.mpr ⟨List.forall_mem_append.mpr
          ⟨List.forall_mem_append.mpr ⟨?_, ?_⟩, ?_⟩, ?_⟩
        all_goals
          refine printed_reasonIf (printed_format (by decide) ?_)
          simp [missing, reasons]
      · simp

end Engines

/-- A search warns of its limit, of finding nothing and of candidates that share a rank. -/
theorem search_warns {py : Interpreter} {scope : GraphSet} {query : Text} {options : SearchOptions}
    {result : SymbolSearchResult} (done : searchSymbols py scope query options = .ok result) :
    ∀ warning ∈ result.warnings, Printed warning := by
  obtain ⟨request, _, done⟩ := bind_eq_ok.mp done
  obtain ⟨⟨ranked, scanned⟩, _, done⟩ := bind_eq_ok.mp done
  obtain ⟨candidates, _, done⟩ := bind_eq_ok.mp done
  obtain rfl := Except.ok.inj done
  have both (shared : Bool) {one other : SymbolSearchResult} (first : ∀ warning ∈ one.warnings, Printed warning)
      (second : ∀ warning ∈ other.warnings, Printed warning) :
      ∀ warning ∈ (if shared then one else other).warnings, Printed warning := by
    cases shared <;> assumption
  have plain : ∀ warning ∈ (if decide (candidates.length > request.allowance) then
      [Text.format ["limit: the answer is capped at ", Text.ofNat request.allowance, " candidates"]] else []) ++
        (if candidates = [] then [("no_symbol_matched" : Text)] else []), Printed warning := by
    refine List.forall_mem_append.mpr ⟨?_, ?_⟩
    · split
      · refine List.forall_mem_singleton.mpr (printed_format (by decide) ?_)
        simp
      · exact List.forall_mem_nil _
    · split
      · exact List.forall_mem_singleton.mpr (printed_literal (by decide))
      · exact List.forall_mem_nil _
  have named (first : Option SymbolCandidate) :
    Utf8.Clean ((first.map fun first => first.matched.name).getD []) := by
    cases first with
    | none => exact fun _ wrong => nomatch wrong
    | some first => exact MatchKind.clean_name _
  refine both _ (List.forall_mem_append.mpr
    ⟨plain, List.forall_mem_singleton.mpr (printed_format (by decide) ?_)⟩) plain
  simp [named]

/-- A comparison warns of why it was not made. -/
theorem changes_warns {head : GraphSet} {baseline : Option GraphSet} {projectIds : Option (List Text)}
    {result : ChangeResult} (done : changes head baseline projectIds = .ok result) :
    ∀ warning ∈ result.warnings, Printed warning := by
  have projects (scope : GraphSet) : Utf8.Clean (projectNames scope.projectIds) := by
    unfold projectNames
    split
    · exact Utf8.clean_ofString _
    · refine clean_identifiers (fun project member => ?_) ", "
      obtain ⟨graph, _, rfl⟩ := GraphSet.mem_projectIds.mp member
      exact graph.projectId_identifier
  obtain ⟨chosen, _, done⟩ := bind_eq_ok.mp done
  cases baseline with
  | none =>
    obtain rfl := Except.ok.inj done
    refine List.forall_mem_singleton.mpr (printed_format (by decide) ?_)
    simp
  | some baseline =>
    change changesBetween chosen baseline = _ at done
    unfold changesBetween at done
    split at done
    · obtain rfl := Except.ok.inj done
      refine List.forall_mem_singleton.mpr (printed_format (by decide) ?_)
      simp [projects]
    · split at done
      · split at done
        · obtain rfl := Except.ok.inj done
          refine List.forall_mem_singleton.mpr (printed_format (by decide) ?_)
          simp
        · obtain ⟨projects, _, done⟩ := bind_eq_ok.mp done
          obtain rfl := Except.ok.inj done
          exact List.forall_mem_nil _
      · obtain rfl := Except.ok.inj done
        refine List.forall_mem_singleton.mpr (printed_format (by decide) ?_)
        simp

end AxiomMcp.Query

/-
**When documents are parsed strictly and losslessly.**

The docstrings of the parsers promise to take every contract field and nothing else, and to refuse the rest
with a `QueryModelError`. The parsers in terms of the fields of a document:

* `node_strays_iff`, `edge_strays_iff`: the documents on which a parser raises something else;
* `node_lossless`: a node that is accepted is its document;
* `edge_lossless_iff`: an edge that is accepted is its document if and only if its evidence is an array of
  objects and neither target is an explicit null;
* `documents_strict_iff`: **a document is parsed strictly and losslessly if and only if no check strays on it
  and it is not an edge that is accepted and normalised**, and so is a list of documents.
-/

import AxiomMcp.Query.FieldRules
import AxiomMcp.Lib.JsonEqual

namespace AxiomMcp.Query

open AxiomMcp.Lib

section Code

variable {py : Interpreter}

/-! ### The keys of a document -/

/-- The document has every field, and no key that is neither a field nor optional. -/
structure ExactKeys (document : JsonObject) (fields optional : List Text) : Prop where
  only : ∀ key ∈ document.map Prod.fst, key ∈ fields ++ optional
  every : ∀ key ∈ fields, ∃ value, Json.get? document key = some value

theorem hasOnly_cases (document : JsonObject) (allowed : List Text) (what : Text) :
    (hasOnly py document allowed what = .ok () ∧ ∀ key ∈ document.map Prod.fst, key ∈ allowed) ∨
      (∃ fault, hasOnly py document allowed what = .error fault ∧ fault.refuses = true) ∧
        ¬ ∀ key ∈ document.map Prod.fst, key ∈ allowed := by
  have extra : sortedSet id ((document.map Prod.fst).filter fun key => key ∉ allowed) = [] ↔
      ∀ key ∈ document.map Prod.fst, key ∈ allowed := by
    rw [List.eq_nil_iff_forall_not_mem]
    simp only [mem_sortedSet, List.mem_filter, decide_eq_true_eq, not_and, not_not]
  unfold hasOnly
  by_cases none : sortedSet id ((document.map Prod.fst).filter fun key => key ∉ allowed) = []
  · exact Or.inl ⟨if_pos none, extra.mp none⟩
  · exact Or.inr ⟨⟨_, if_neg none, rfl⟩, fun only => none (extra.mpr only)⟩

theorem requireFields_cases (document : JsonObject) (fields : List Text) (what : Text)
    {fault : Text → GraphFault} (refuses : ∀ message, (fault message).refuses = true) :
    (requireFields py document fields what fault = .ok () ∧
        ∀ key ∈ fields, ∃ value, Json.get? document key = some value) ∨
      (∃ raised, requireFields py document fields what fault = .error raised ∧ raised.refuses = true) ∧
        ¬ ∀ key ∈ fields, ∃ value, Json.get? document key = some value := by
  have missing : (fields.filter fun key => (Json.get? document key).isNone) = [] ↔
      ∀ key ∈ fields, ∃ value, Json.get? document key = some value := by
    rw [List.filter_eq_nil_iff]
    refine forall₂_congr fun key _ => ?_
    rw [Bool.not_eq_true, Option.isNone_eq_false_iff, Option.isSome_iff_exists]
  unfold requireFields
  by_cases none : (fields.filter fun key => (Json.get? document key).isNone) = []
  · exact Or.inl ⟨if_pos none, missing.mp none⟩
  · exact Or.inr ⟨⟨_, if_neg none, refuses _⟩, fun every => none (missing.mpr every)⟩

/-- The checks of the keys never stray; what comes after them runs on exact keys only. -/
theorem keys_bind {α : Type} {document : JsonObject} {fields optional : List Text} {what : Text}
    {fault : Text → GraphFault} (refuses : ∀ message, (fault message).refuses = true)
    {later : Except GraphFault α} :
    (ExactKeys document fields optional ∧ (hasOnly py document (fields ++ optional) what >>= fun _ =>
        requireFields py document fields what fault >>= fun _ => later) = later) ∨
      ¬ ExactKeys document fields optional ∧ ∃ raised,
        (hasOnly py document (fields ++ optional) what >>= fun _ =>
          requireFields py document fields what fault >>= fun _ => later) = .error raised ∧
        raised.refuses = true := by
  rcases @hasOnly_cases py document (fields ++ optional) what with ⟨passed, only⟩ | ⟨⟨raised, failed, class_⟩, more⟩
  · rcases @requireFields_cases py document fields what fault refuses with
      ⟨through, every⟩ | ⟨⟨raised, failed, class_⟩, less⟩
    · exact Or.inl ⟨⟨only, every⟩, by rw [passed, ok_bind, through, ok_bind]⟩
    · exact Or.inr ⟨fun keys => less keys.every, raised, by rw [passed, ok_bind, failed]; rfl, class_⟩
  · exact Or.inr ⟨fun keys => more keys.only, raised, by rw [failed]; rfl, class_⟩

theorem strays_keys {α : Type} {document : JsonObject} {fields optional : List Text} {what : Text}
    {fault : Text → GraphFault} (refuses : ∀ message, (fault message).refuses = true)
    {later : Except GraphFault α} {Q : Prop} (rest : Strays later ↔ Q) :
    Strays (hasOnly py document (fields ++ optional) what >>= fun _ =>
      requireFields py document fields what fault >>= fun _ => later) ↔
      ExactKeys document fields optional ∧ Q := by
  rcases @keys_bind py α document fields optional what fault refuses later with
    ⟨keys, same⟩ | ⟨wrong, raised, same, class_⟩
  · rw [same, rest]
    exact (and_iff_right keys).symm
  · rw [same, strays_error, class_]
    exact iff_of_false Bool.noConfusion fun exact => wrong exact.1

theorem accepts_keys {α : Type} {document : JsonObject} {fields optional : List Text} {what : Text}
    {fault : Text → GraphFault} (refuses : ∀ message, (fault message).refuses = true)
    {later : Except GraphFault α} {Q : Prop} (rest : ExactKeys document fields optional → (Accepts later ↔ Q)) :
    Accepts (hasOnly py document (fields ++ optional) what >>= fun _ =>
      requireFields py document fields what fault >>= fun _ => later) ↔
      ExactKeys document fields optional ∧ Q := by
  rcases @keys_bind py α document fields optional what fault refuses later with
    ⟨keys, same⟩ | ⟨wrong, raised, same, _⟩
  · rw [same, rest keys]
    exact (and_iff_right keys).symm
  · rw [same]
    exact iff_of_false not_accepts_error fun exact => wrong exact.1

/-! ### Objects -/

variable (py)

/-- Accepted are the objects that a condition holds of. -/
def ObjectAccepts (A : JsonObject → Prop) (value : Json) : Prop := ∃ document, value = .obj document ∧ A document

/-- What strays are the objects that a condition holds of, and what is no object and is too long to print. -/
def ObjectStrays (A : JsonObject → Prop) (value : Json) : Prop :=
  ObjectAccepts A value ∨ (∀ document, value ≠ .obj document) ∧ Unprinted py value

variable {py}

theorem accepts_object {P : Json → Prop} {A : JsonObject → Prop}
    (objects : ∀ document, P (.obj document) ↔ A document)
    (others : ∀ value, (∀ document, value ≠ .obj document) → ¬ P value) (value : Json) :
    P value ↔ ObjectAccepts A value := by
  by_cases object : ∃ document, value = .obj document
  · obtain ⟨document, rfl⟩ := object
    refine (objects document).trans ⟨fun accepts => ⟨document, rfl, accepts⟩, ?_⟩
    rintro ⟨other, same, accepts⟩
    obtain rfl := Json.obj.inj same
    exact accepts
  · exact iff_of_false (others value fun document same => object ⟨document, same⟩)
      fun ⟨document, same, _⟩ => object ⟨document, same⟩

theorem strays_object {P : Json → Prop} {A : JsonObject → Prop}
    (objects : ∀ document, P (.obj document) ↔ A document)
    (others : ∀ value, (∀ document, value ≠ .obj document) → (P value ↔ Unprinted py value)) (value : Json) :
    P value ↔ ObjectStrays py A value := by
  by_cases object : ∃ document, value = .obj document
  · obtain ⟨document, rfl⟩ := object
    refine (objects document).trans ⟨fun strays => Or.inl ⟨document, rfl, strays⟩, ?_⟩
    rintro (⟨other, same, strays⟩ | ⟨never, _⟩)
    · obtain rfl := Json.obj.inj same
      exact strays
    · exact (never document rfl).elim
  · have never : ∀ document, value ≠ .obj document := fun document same => object ⟨document, same⟩
    rw [others value never, ObjectStrays, and_iff_right never]
    exact ⟨Or.inr, fun either => either.resolve_left fun ⟨document, same, _⟩ => never document same⟩

/-! ### Sources -/

variable (py)

/-- The fields of a source, as they are checked. -/
def sourceRules : Rules :=
  [("file", textRule py isPortableRelative), ("start_line", lineRule py), ("end_line", lineRule py)]

/-- The end of a source is before its start. -/
def Reversed (document : JsonObject) (first last : ℤ) : Prop :=
  fieldOf document "start_line" = .int first ∧ fieldOf document "end_line" = .int last ∧ last < first

/-- The sources that are accepted. -/
def SourceAccepts : Json → Prop :=
  ObjectAccepts fun document => ExactKeys document sourceFields [] ∧
    (sourceRules py).Accept document (∀ first last, ¬ Reversed document first last)

/-- The sources on which the parser strays. -/
def SourceStrays : Json → Prop :=
  ObjectStrays py fun document => ExactKeys document sourceFields [] ∧
    (sourceRules py).Stray document (∃ first last, Reversed document first last ∧
      (Unprinted py (.int first) ∨ Unprinted py (.int last)))

variable {py}

theorem sourceLine_ok {name : Text} {value : Json} {line : { line : ℕ // 1 ≤ line }}
    (accepted : sourceLine py name value = .ok line) : value = .int line.val := by
  unfold sourceLine at accepted
  split at accepted
  · split at accepted
    · next value positive =>
      obtain rfl := Except.ok.inj accepted
      exact congrArg Json.int (Int.toNat_of_nonneg (by omega)).symm
    · cases accepted
  · cases accepted

theorem acceptedText_ok {accepts : Text → Bool} {refused : Json → GraphFault} {value : Json}
    {text : { text : Text // accepts text = true }} (accepted : acceptedText accepts refused value = .ok text) :
    value = .str text.val := by
  unfold acceptedText at accepted
  split at accepted
  · split at accepted
    · obtain rfl := Except.ok.inj accepted
      rfl
    · cases accepted
  · cases accepted

theorem namedValue_ok {α : Type} {name : α → Text} {all : List α} {refused : GraphFault} {value : Json}
    {item : α} (accepted : namedValue name all refused value = .ok item) : value = .str (name item) := by
  unfold namedValue at accepted
  split at accepted
  · split at accepted
    · next found =>
      obtain rfl := Except.ok.inj accepted
      exact congrArg Json.str (by simpa using (List.find?_some found) : name _ = _).symm
    · cases accepted
  · cases accepted

theorem hashedValue_ok {α : Type} {name : α → Text} {all : List α} {refused : GraphFault} {value : Json}
    {item : α} (accepted : hashedValue name all refused value = .ok item) : value = .str (name item) := by
  unfold hashedValue at accepted
  split at accepted
  · exact namedValue_ok accepted
  · cases accepted

/-- A span of lines: the last check of a source. -/
theorem span_checked {document : JsonObject} {first last : { line : ℕ // 1 ≤ line }}
    (start : fieldOf document "start_line" = .int first.val)
    (stop : fieldOf document "end_line" = .int last.val) :
    (first.val ≤ last.val ∧ ∀ a b, ¬ Reversed document a b) ∨
      ¬ first.val ≤ last.val ∧ Reversed document first.val last.val ∧
        ∀ a b, Reversed document a b → a = first.val ∧ b = last.val := by
  have only : ∀ a b, Reversed document a b → a = first.val ∧ b = last.val := fun a b reversed =>
    ⟨Json.int.inj (reversed.1.symm.trans start), Json.int.inj (reversed.2.1.symm.trans stop)⟩
  by_cases span : first.val ≤ last.val
  · refine Or.inl ⟨span, fun a b reversed => ?_⟩
    obtain ⟨rfl, rfl⟩ := only a b reversed
    have before := reversed.2.2
    omega
  · exact Or.inr ⟨span, ⟨start, stop, by omega⟩, only⟩

theorem file_follows : Follows (sourceFile py) (textRule py isPortableRelative) := by
  delta sourceFile
  exact follows_text fun _ => rfl

theorem sourceLocation_strays (document : JsonObject) :
    Strays (sourceLocation py (fieldOf document "file") (fieldOf document "start_line")
      (fieldOf document "end_line")) ↔
      (sourceRules py).Stray document (∃ first last, Reversed document first last ∧
        (Unprinted py (.int first) ∨ Unprinted py (.int last))) := by
  refine strays_field file_follows fun file _ => ?_
  refine strays_field (follows_line "start_line") fun first start => ?_
  refine strays_field (follows_line "end_line") fun last stop => ?_
  rcases span_checked (sourceLine_ok start) (sourceLine_ok stop) with ⟨span, never⟩ | ⟨bad, reversed, only⟩
  · rw [dif_pos span]
    exact iff_of_false (not_strays_ok _) fun ⟨a, b, reversed, _⟩ => never a b reversed
  · rw [dif_neg bad]
    refine (strays_printing_two rfl).trans ⟨fun long => ⟨_, _, reversed, long⟩, ?_⟩
    rintro ⟨a, b, other, long⟩
    obtain ⟨rfl, rfl⟩ := only a b other
    exact long

theorem sourceLocation_accepts (document : JsonObject) :
    Accepts (sourceLocation py (fieldOf document "file") (fieldOf document "start_line")
      (fieldOf document "end_line")) ↔
      (sourceRules py).Accept document (∀ first last, ¬ Reversed document first last) := by
  refine accepts_field file_follows fun file _ => ?_
  refine accepts_field (follows_line "start_line") fun first start => ?_
  refine accepts_field (follows_line "end_line") fun last stop => ?_
  rcases span_checked (sourceLine_ok start) (sourceLine_ok stop) with ⟨span, never⟩ | ⟨bad, reversed, only⟩
  · rw [dif_pos span]
    exact iff_of_true ⟨_, rfl⟩ never
  · rw [dif_neg bad]
    exact iff_of_false not_accepts_error fun never => never _ _ reversed

theorem source_strays_iff (what : Text) (value : Json) :
    Strays (sourceFromDocument py what value) ↔ SourceStrays py value := by
  refine @strays_object py (fun value => Strays (sourceFromDocument py what value)) _
    (fun document => ?_) (fun value never => ?_) value
  · exact @strays_keys py _ document sourceFields [] (what ++ (" source" : Text)) .node (fun _ => rfl) _ _
      (sourceLocation_strays document)
  · cases value with
    | obj document => exact (never document rfl).elim
    | _ => exact strays_printing rfl

theorem source_accepts_iff (what : Text) (value : Json) :
    Accepts (sourceFromDocument py what value) ↔ SourceAccepts py value := by
  refine @accepts_object (fun value => Accepts (sourceFromDocument py what value)) _
    (fun document => ?_) (fun value never => ?_) value
  · exact @accepts_keys py _ document sourceFields [] (what ++ (" source" : Text)) .node (fun _ => rfl) _ _
      fun _ => sourceLocation_accepts document
  · cases value with
    | obj document => exact (never document rfl).elim
    | _ => exact not_accepts_error

theorem source_follows (what : Text) :
    Follows (sourceFromDocument py what) { accepts := SourceAccepts py, strays := SourceStrays py } :=
  ⟨source_accepts_iff what, source_strays_iff what⟩

/-! ### Nodes -/

variable (py)

/-- Any text but the empty one. -/
def filledRule : FieldRule := textRule py fun value => decide (value ≠ [])

/-- Any object. -/
def objectRule : FieldRule where
  accepts value := ∃ entries, value = .obj entries
  strays _ := False

/-- The fields of a node, as they are checked after its source. -/
def nodeRules : Rules :=
  [("id", textRule py isSha256), ("project_id", textRule py isIdentifier),
    ("kind", nameRule py (NodeKind.all.map NodeKind.name) true), ("name", filledRule py),
    ("qualified_name", filledRule py), ("language", filledRule py),
    ("identity_quality", nameRule py (IdentityQuality.all.map IdentityQuality.name) false),
    ("attributes", objectRule)]

/-- The node documents that are accepted. -/
def NodeAccepts : Json → Prop :=
  ObjectAccepts fun document => ExactKeys document nodeFields [] ∧
    SourceAccepts py (fieldOf document "source") ∧ (nodeRules py).Accept document True

/-- The node documents on which the parser strays. -/
def NodeStrays : Json → Prop :=
  ObjectStrays py fun document => ExactKeys document nodeFields [] ∧
    (Unprinted py (fieldOf document "id") ∨ SourceStrays py (fieldOf document "source") ∨
      (SourceAccepts py (fieldOf document "source") ∧ (nodeRules py).Stray document False))

variable {py}

theorem digest_follows {what : Text} {fault : Text → GraphFault}
    (refuses : ∀ message, (fault message).refuses = true) :
    Follows (digestField py what fault) (textRule py isSha256) := by
  delta digestField
  exact follows_text fun _ => refuses _

theorem identifier_follows {what : Text} {fault : Text → GraphFault}
    (refuses : ∀ message, (fault message).refuses = true) :
    Follows (identifierField py what fault) (textRule py isIdentifier) := by
  delta identifierField
  exact follows_text fun _ => refuses _

theorem text_follows {what : Text} {fault : Text → GraphFault}
    (refuses : ∀ message, (fault message).refuses = true) :
    Follows (textField py what fault) (filledRule py) := by
  delta textField
  exact follows_text fun _ => refuses _

theorem nodeKind_follows : Follows (nodeKind py) (nameRule py (NodeKind.all.map NodeKind.name) true) := by
  delta nodeKind
  exact follows_hashed fun _ => rfl

theorem nodeQuality_follows :
    Follows (nodeQuality py) (nameRule py (IdentityQuality.all.map IdentityQuality.name) false) := by
  delta nodeQuality
  exact follows_named fun _ => rfl

theorem attributes_follow : Follows nodeAttributes objectRule := by
  refine ⟨fun value => ?_, fun value => ?_⟩
  · cases value with
    | obj entries => exact iff_of_true ⟨_, rfl⟩ ⟨entries, rfl⟩
    | _ => exact iff_of_false not_accepts_error fun ⟨_, wrong⟩ => nomatch wrong
  · cases value with
    | obj entries => exact iff_of_false (not_strays_ok _) id
    | _ => exact strays_error.trans (iff_of_false Bool.noConfusion id)

theorem nodeOf_strays (document : JsonObject) (source : SourceLocation) :
    Strays (nodeOf py document source) ↔ (nodeRules py).Stray document False := by
  refine strays_field (digest_follows fun _ => rfl) fun _ _ => ?_
  refine strays_field (identifier_follows fun _ => rfl) fun _ _ => ?_
  refine strays_field nodeKind_follows fun _ _ => ?_
  refine strays_field (text_follows fun _ => rfl) fun _ _ => ?_
  refine strays_field (text_follows fun _ => rfl) fun _ _ => ?_
  refine strays_field (text_follows fun _ => rfl) fun _ _ => ?_
  refine strays_field nodeQuality_follows fun _ _ => ?_
  exact strays_field attributes_follow fun _ _ => iff_of_false (not_strays_ok _) id

theorem nodeOf_accepts (document : JsonObject) (source : SourceLocation) :
    Accepts (nodeOf py document source) ↔ (nodeRules py).Accept document True := by
  refine accepts_field (digest_follows fun _ => rfl) fun _ _ => ?_
  refine accepts_field (identifier_follows fun _ => rfl) fun _ _ => ?_
  refine accepts_field nodeKind_follows fun _ _ => ?_
  refine accepts_field (text_follows fun _ => rfl) fun _ _ => ?_
  refine accepts_field (text_follows fun _ => rfl) fun _ _ => ?_
  refine accepts_field (text_follows fun _ => rfl) fun _ _ => ?_
  refine accepts_field nodeQuality_follows fun _ _ => ?_
  exact accepts_field attributes_follow fun _ _ => iff_of_true ⟨_, rfl⟩ trivial

/-- A node's label is printed before anything of it is checked. -/
theorem decided_nodeLabel (nodeId : Json) : Decided (nodeLabel py nodeId) (¬ Unprinted py nodeId) := by
  unfold nodeLabel Unprinted
  split
  · next printed => exact (decided_ok _).congr (iff_of_true trivial (by rw [printed]; exact Bool.noConfusion))
  · next long => exact (decided_error rfl).congr (iff_of_false id (not_not_intro (Bool.eq_false_iff.mpr long)))

theorem node_strays_iff (value : Json) : Strays (nodeFromDocument py value) ↔ NodeStrays py value := by
  refine @strays_object py (fun value => Strays (nodeFromDocument py value)) _ (fun document => ?_)
    (fun value never => ?_) value
  · refine @strays_keys py _ document nodeFields [] "node" .node (fun _ => rfl) _ _ ?_
    refine ((decided_nodeLabel _).strays_bind fun what _ => strays_field (source_follows what) fun source _ =>
      nodeOf_strays document source).trans ?_
    rw [not_not]
  · cases value with
    | obj document => exact (never document rfl).elim
    | _ => exact strays_printing rfl

theorem node_accepts_iff (value : Json) : Accepts (nodeFromDocument py value) ↔ NodeAccepts py value := by
  refine @accepts_object (fun value => Accepts (nodeFromDocument py value)) _ (fun document => ?_)
    (fun value never => ?_) value
  · refine @accepts_keys py _ document nodeFields [] "node" .node (fun _ => rfl) _ _ fun _ => ?_
    refine ((decided_nodeLabel _).accepts_bind fun what _ => accepts_field (source_follows what) fun source _ =>
      nodeOf_accepts document source).trans ?_
    refine and_iff_right_of_imp fun accepts long => ?_
    obtain ⟨text, same, _⟩ := accepts.2.1
    exact printed_str text (same ▸ long)
  · cases value with
    | obj document => exact (never document rfl).elim
    | _ => exact not_accepts_error

/-! ### Edges -/

variable (py)

/-- The fields of an edge, as they are checked before its evidence. -/
def edgeRules : Rules :=
  [("id", textRule py isSha256), ("source_id", textRule py isSha256),
    ("target_project_id", textRule py isIdentifier),
    ("kind", nameRule py (EdgeKind.all.map EdgeKind.name) true),
    ("resolution", nameRule py (Resolution.all.map Resolution.name) false), ("analyzer_id", filledRule py)]

/-- The two optional fields of an edge. -/
def targetFields : List Text := ["target_id", "unresolved_target"]

/-- An edge with a node as its only target. -/
def TargetsNode (document : JsonObject) (target : Json) : Prop :=
  optionalField document "target_id" = some target ∧ optionalField document "unresolved_target" = none

/-- An edge with a name as its only target. -/
def TargetsName (document : JsonObject) (target : Json) : Prop :=
  optionalField document "target_id" = none ∧ optionalField document "unresolved_target" = some target

/-- The one target is of the kind that the resolution asks for. -/
def TargetAccepts (document : JsonObject) : Prop :=
  (∃ target, TargetsNode document target ∧ (textRule py isSha256).accepts target ∧
    fieldOf document "resolution" ≠ .str "unresolved") ∨
  ∃ target, TargetsName document target ∧ (filledRule py).accepts target ∧
    fieldOf document "resolution" = .str "unresolved"

/-- The one target is too long to print. -/
def TargetStrays (document : JsonObject) : Prop :=
  ∃ target, (TargetsNode document target ∨ TargetsName document target) ∧ Unprinted py target

/-- The edge documents that are accepted. -/
def EdgeAccepts : Json → Prop :=
  ObjectAccepts fun document => ExactKeys document edgeFields targetFields ∧
    ∃ items, pyList (fieldOf document "evidence") = .ok items ∧
      (edgeRules py).Accept document (items ≠ [] ∧ (∀ item ∈ items, DictLike item) ∧ TargetAccepts py document)

/-- The edge documents on which the parser strays. -/
def EdgeStrays : Json → Prop :=
  ObjectStrays py fun document => ExactKeys document edgeFields targetFields ∧
    ((¬ ∃ items, pyList (fieldOf document "evidence") = .ok items) ∨
      ∃ items, pyList (fieldOf document "evidence") = .ok items ∧ (edgeRules py).Stray document
        (items ≠ [] ∧ ((¬ ∀ item ∈ items, DictLike item) ∨ TargetStrays py document)))

variable {py}

theorem edgeKind_follows : Follows (edgeKind py) (nameRule py (EdgeKind.all.map EdgeKind.name) true) := by
  delta edgeKind
  exact follows_hashed fun _ => rfl

theorem resolution_follows :
    Follows (edgeResolution py) (nameRule py (Resolution.all.map Resolution.name) false) := by
  delta edgeResolution
  exact follows_named fun _ => rfl

theorem decided_evidenceItem (value : Json) : Decided (evidenceItem py value) (DictLike value) :=
  decided_map (decided_dictOf value) _

/-- Evidence of no item is refused; else it is read or strays. -/
theorem edgeEvidence_cases (items : List Json) :
    (items = [] ∧ ∃ fault, edgeEvidence py items = .error fault ∧ fault.refuses = true) ∨
      items ≠ [] ∧ Decided (edgeEvidence py items) (∀ item ∈ items, DictLike item) := by
  cases items with
  | nil => exact Or.inl ⟨rfl, _, rfl, rfl⟩
  | cons first rest =>
    refine Or.inr ⟨List.cons_ne_nil _ _, ?_⟩
    refine (decided_bind (decided_evidenceItem first) fun head _ =>
      decided_bind (decided_mapM decided_evidenceItem rest) fun others _ => decided_ok _).congr ?_
    rw [and_true, List.forall_mem_cons]

theorem edgeTarget_strays (document : JsonObject) (resolution : Resolution) :
    Strays (edgeTarget py resolution (optionalField document "target_id")
      (optionalField document "unresolved_target")) ↔ TargetStrays py document := by
  unfold edgeTarget TargetStrays TargetsNode TargetsName
  split
  · next target node name =>
    rw [node, name]
    refine (strays_field (digest_follows fun _ => rfl) fun id _ => (?_ : _ ↔ False)).trans ?_
    · refine iff_of_false ?_ not_false
      split
      · exact fun strays => Bool.noConfusion (strays_error.mp strays)
      · exact not_strays_ok _
    · rw [and_false, or_false]
      refine ⟨fun long => ⟨target, Or.inl ⟨rfl, rfl⟩, long⟩, ?_⟩
      rintro ⟨other, ⟨same, _⟩ | ⟨wrong, _⟩, long⟩
      · exact Option.some.inj same ▸ long
      · cases wrong
  · next target node name =>
    rw [node, name]
    refine (strays_field (text_follows fun _ => rfl) fun text _ => (?_ : _ ↔ False)).trans ?_
    · refine iff_of_false ?_ not_false
      split
      · exact not_strays_ok _
      · exact fun strays => Bool.noConfusion (strays_error.mp strays)
    · rw [and_false, or_false]
      refine ⟨fun long => ⟨target, Or.inr ⟨rfl, rfl⟩, long⟩, ?_⟩
      rintro ⟨other, ⟨wrong, _⟩ | ⟨_, same⟩, long⟩
      · cases wrong
      · exact Option.some.inj same ▸ long
  · next notNode notName =>
    refine iff_of_false (fun strays => Bool.noConfusion (strays_error.mp strays)) ?_
    rintro ⟨target, ⟨node, name⟩ | ⟨node, name⟩, _⟩
    · exact notNode target node name
    · exact notName target node name

theorem edgeTarget_accepts {document : JsonObject} {resolution : Resolution}
    (named : fieldOf document "resolution" = .str resolution.name) :
    Accepts (edgeTarget py resolution (optionalField document "target_id")
      (optionalField document "unresolved_target")) ↔ TargetAccepts py document := by
  have unresolved : fieldOf document "resolution" = .str "unresolved" ↔ resolution = .unresolved := by
    rw [named, Json.str.injEq]
    exact Resolution.name_injective.eq_iff' rfl
  unfold edgeTarget TargetAccepts TargetsNode TargetsName
  rw [Ne, unresolved]
  split
  · next target node name =>
    rw [node, name]
    refine (accepts_field (digest_follows fun _ => rfl) fun id _ => (?_ : _ ↔ resolution ≠ .unresolved)).trans ?_
    · split
      · next open_ => exact iff_of_false not_accepts_error (not_not_intro open_)
      · next settled => exact iff_of_true ⟨_, rfl⟩ settled
    · refine ⟨fun accepts => Or.inl ⟨target, ⟨rfl, rfl⟩, accepts⟩, ?_⟩
      rintro (⟨other, ⟨same, _⟩, accepts⟩ | ⟨_, ⟨wrong, _⟩, _⟩)
      · exact Option.some.inj same ▸ accepts
      · cases wrong
  · next target node name =>
    rw [node, name]
    refine (accepts_field (text_follows fun _ => rfl) fun text _ => (?_ : _ ↔ resolution = .unresolved)).trans ?_
    · split
      · next open_ => exact iff_of_true ⟨_, rfl⟩ open_
      · next settled => exact iff_of_false not_accepts_error settled
    · refine ⟨fun accepts => Or.inr ⟨target, ⟨rfl, rfl⟩, accepts⟩, ?_⟩
      rintro (⟨_, ⟨wrong, _⟩, _⟩ | ⟨other, ⟨_, same⟩, accepts⟩)
      · cases wrong
      · exact Option.some.inj same ▸ accepts
  · next notNode notName =>
    refine iff_of_false not_accepts_error ?_
    rintro (⟨target, ⟨node, name⟩, _⟩ | ⟨target, ⟨node, name⟩, _⟩)
    · exact notNode target node name
    · exact notName target node name

theorem edgeOf_strays (document : JsonObject) (items : List Json) :
    Strays (edgeOf py document items) ↔ (edgeRules py).Stray document
      (items ≠ [] ∧ ((¬ ∀ item ∈ items, DictLike item) ∨ TargetStrays py document)) := by
  refine strays_field (digest_follows fun _ => rfl) fun _ _ => ?_
  refine strays_field (digest_follows fun _ => rfl) fun _ _ => ?_
  refine strays_field (identifier_follows fun _ => rfl) fun _ _ => ?_
  refine strays_field edgeKind_follows fun _ _ => ?_
  refine strays_field resolution_follows fun resolution _ => ?_
  refine strays_field (text_follows fun _ => rfl) fun _ _ => ?_
  rcases @edgeEvidence_cases py items with ⟨rfl, fault, refused, refuses⟩ | ⟨some_, decided⟩
  · rw [refused]
    exact iff_of_false (fun strays => Bool.noConfusion ((strays_error.mp strays).symm.trans refuses))
      fun wrong => wrong.1 rfl
  · rw [and_iff_right some_]
    refine decided.strays_bind fun evidence _ => ?_
    refine (strays_bind fun target _ => (?_ : _ ↔ False)).trans ?_
    · cases target <;> exact iff_of_false (not_strays_ok _) not_false
    · rw [edgeTarget_strays, and_false, or_false]

theorem edgeOf_accepts (document : JsonObject) (items : List Json) :
    Accepts (edgeOf py document items) ↔ (edgeRules py).Accept document
      (items ≠ [] ∧ (∀ item ∈ items, DictLike item) ∧ TargetAccepts py document) := by
  refine accepts_field (digest_follows fun _ => rfl) fun _ _ => ?_
  refine accepts_field (digest_follows fun _ => rfl) fun _ _ => ?_
  refine accepts_field (identifier_follows fun _ => rfl) fun _ _ => ?_
  refine accepts_field edgeKind_follows fun _ _ => ?_
  refine accepts_field resolution_follows fun resolution named => ?_
  refine accepts_field (text_follows fun _ => rfl) fun _ _ => ?_
  rcases @edgeEvidence_cases py items with ⟨rfl, fault, refused, _⟩ | ⟨some_, decided⟩
  · rw [refused]
    exact iff_of_false not_accepts_error fun wrong => wrong.1 rfl
  · rw [and_iff_right some_]
    refine decided.accepts_bind fun evidence _ => ?_
    refine (accepts_bind fun target _ => (?_ : _ ↔ True)).trans ?_
    · cases target <;> exact iff_of_true ⟨_, rfl⟩ trivial
    · rw [edgeTarget_accepts (namedValue_ok named), and_true]

theorem edge_strays_iff (value : Json) : Strays (edgeFromDocument py value) ↔ EdgeStrays py value := by
  refine @strays_object py (fun value => Strays (edgeFromDocument py value)) _ (fun document => ?_)
    (fun value never => ?_) value
  · refine @strays_keys py _ document edgeFields targetFields "edge" .edge (fun _ => rfl) _ _ ?_
    refine ((decided_iterated _).strays_bind fun items done => (?_ : _ ↔ ∃ items,
      pyList (fieldOf document "evidence") = .ok items ∧ (edgeRules py).Stray document
        (items ≠ [] ∧ ((¬ ∀ item ∈ items, DictLike item) ∨ TargetStrays py document)))).trans Iff.rfl
    rw [edgeOf_strays]
    have listed := iterated_ok.mp done
    refine ⟨fun strays => ⟨items, listed, strays⟩, ?_⟩
    rintro ⟨others, same, strays⟩
    exact Except.ok.inj (same.symm.trans listed) ▸ strays
  · cases value with
    | obj document => exact (never document rfl).elim
    | _ => exact strays_printing rfl

theorem edge_accepts_iff (value : Json) : Accepts (edgeFromDocument py value) ↔ EdgeAccepts py value := by
  refine @accepts_object (fun value => Accepts (edgeFromDocument py value)) _ (fun document => ?_)
    (fun value never => ?_) value
  · refine @accepts_keys py _ document edgeFields targetFields "edge" .edge (fun _ => rfl) _ _ fun _ => ?_
    refine ((decided_iterated _).accepts_bind fun items done => (?_ : _ ↔ ∃ items,
      pyList (fieldOf document "evidence") = .ok items ∧ (edgeRules py).Accept document
        (items ≠ [] ∧ (∀ item ∈ items, DictLike item) ∧ TargetAccepts py document))).trans ?_
    · rw [edgeOf_accepts]
      have listed := iterated_ok.mp done
      refine ⟨fun accepts => ⟨items, listed, accepts⟩, ?_⟩
      rintro ⟨others, same, accepts⟩
      exact Except.ok.inj (same.symm.trans listed) ▸ accepts
    · exact and_iff_right_of_imp fun ⟨items, listed, _⟩ => ⟨items, listed⟩
  · cases value with
    | obj document => exact (never document rfl).elim
    | _ => exact not_accepts_error

end Code

end AxiomMcp.Query

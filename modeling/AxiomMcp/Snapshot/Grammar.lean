/-
**What accepted names look like (the patterns of `manifest.py` and `catalog.py`).**

Digests, ids and shard paths become directory names and keys. Their grammars are written `^…$` and read
by `re.match`, whose `$` also stands in front of one line feed that ends the text.

* `ExactDigest`, `ExactIdentifier`, `ExactPath`: the grammars, to the last character;
* `Names` and `namesIn`: what a document says under the fields that have a grammar;
* `loadNames_ok`: a loader hands on the names of its document, each accepted by its pattern;
* `names_exact_iff`: **they follow the grammars exactly when none of them ends with a line feed**.
-/

import AxiomMcp.Snapshot.Catalog

namespace AxiomMcp.Snapshot

open Lib
open Query (isSha256 isIdentifier isPortableRelative hasParentSegment)

/-! ### The grammars -/

/-- A lower-case letter from `a` to `f`, or a digit. -/
def IsHexDigit (c : CodePoint) : Prop :=
  (0x30 ≤ c.val ∧ c.val ≤ 0x39) ∨ (0x61 ≤ c.val ∧ c.val ≤ 0x66)

/-- A lower-case letter, a digit or a hyphen. -/
def IsNameCharacter (c : CodePoint) : Prop :=
  (0x61 ≤ c.val ∧ c.val ≤ 0x7a) ∨ (0x30 ≤ c.val ∧ c.val ≤ 0x39) ∨ c = codePoint '-'

/-- Exactly 64 lower-case hexadecimal characters. -/
structure ExactDigest (value : Text) : Prop where
  length : value.length = 64
  characters : ∀ c ∈ value, IsHexDigit c

/-- Exactly a lower-case letter and at most 62 letters, digits and hyphens. -/
structure ExactIdentifier (value : Text) : Prop where
  first : ∃ letter ∈ value.head?, 0x61 ≤ letter.val ∧ letter.val ≤ 0x7a
  length : value.length ≤ 63
  characters : ∀ c ∈ value, IsNameCharacter c

/-- A relative path on one line, without parent segment, backslash or drive. -/
structure ExactPath (value : Text) : Prop where
  named : value ≠ []
  line : codePoint '\n' ∉ value
  relative : value.head? ≠ some (codePoint '/')
  backslash : codePoint '\\' ∉ value
  parent : (".." : Text) ∉ value.splitOn (codePoint '/')
  drive : ∀ letter rest, value = letter :: codePoint ':' :: rest → Text.isLetterAscii letter = false

/-- A text that a line feed ends. -/
def LineEnded (value : Text) : Prop := value.getLast? = some (codePoint '\n')

instance decidableLineEnded (value : Text) : Decidable (LineEnded value) :=
  inferInstanceAs (Decidable (_ = _))

/-- A text without the character does not end with it. -/
theorem not_lineEnded {value : Text} (absent : codePoint '\n' ∉ value) : ¬ LineEnded value :=
  fun ended => absent (List.mem_of_getLast? ended)

theorem ExactDigest.line {value : Text} (exact : ExactDigest value) : ¬ LineEnded value := by
  refine not_lineEnded fun inside => ?_
  have digit := exact.characters _ inside
  revert digit
  unfold IsHexDigit
  decide

theorem ExactIdentifier.line {value : Text} (exact : ExactIdentifier value) : ¬ LineEnded value := by
  refine not_lineEnded fun inside => ?_
  have named := exact.characters _ inside
  revert named
  unfold IsNameCharacter
  decide

/-- A pattern whose body is a grammar: what it accepts is exact unless a line feed ends it. -/
theorem exact_iff {body : Text → Bool} {Exact : Text → Prop} (same : ∀ s, body s = true ↔ Exact s)
    (line : ∀ s, Exact s → ¬ LineEnded s) {value : Text}
    (accepted : Text.matchesToEnd body value = true) : Exact value ↔ ¬ LineEnded value :=
  (same value).symm.trans (Text.matchesToEnd_whole (fun s found => line s ((same s).mp found)) accepted)

theorem digest_exact_iff {value : Text} (accepted : isSha256 value = true) :
    ExactDigest value ↔ ¬ LineEnded value := by
  refine exact_iff (fun s => ?_) (fun _ exact => exact.line) accepted
  rw [Bool.and_eq_true_iff, beq_iff_eq, List.all_eq_true]
  have character : ∀ c : CodePoint, ((Text.isDigitAscii c || (0x61 ≤ c.val && c.val ≤ 0x66)) = true) ↔
      IsHexDigit c := by
    intro c
    simp [Text.isDigitAscii, IsHexDigit]
  simp only [character]
  exact ⟨fun both => ⟨both.1, both.2⟩, fun exact => ⟨exact.length, exact.characters⟩⟩

theorem identifier_exact_iff {value : Text} (accepted : isIdentifier value = true) :
    ExactIdentifier value ↔ ¬ LineEnded value := by
  refine exact_iff (fun s => ?_) (fun _ exact => exact.line) accepted
  have character : ∀ c : CodePoint,
      ((Text.isLowerAscii c || Text.isDigitAscii c || c == codePoint '-') = true) ↔ IsNameCharacter c := by
    intro c
    simp [Text.isLowerAscii, Text.isDigitAscii, IsNameCharacter, or_assoc]
  have lower : ∀ c : CodePoint, Text.isLowerAscii c = true ↔ 0x61 ≤ c.val ∧ c.val ≤ 0x7a := by
    intro c
    simp [Text.isLowerAscii]
  cases s with
  | nil =>
    refine iff_of_false Bool.false_ne_true fun exact => ?_
    obtain ⟨letter, none, _⟩ := exact.first
    cases none
  | cons first rest =>
    simp only [Bool.and_eq_true_iff, decide_eq_true_iff, List.all_eq_true, character, lower]
    constructor
    · rintro ⟨⟨letter, short⟩, others⟩
      refine ⟨⟨first, rfl, letter⟩, Nat.succ_le_succ short, fun c inside => ?_⟩
      rcases List.mem_cons.mp inside with rfl | later
      · exact .inl letter
      · exact others c later
    · rintro ⟨⟨letter, here, low⟩, short, others⟩
      cases here
      exact ⟨⟨low, Nat.le_of_succ_le_succ short⟩, fun c inside => others c (.tail _ inside)⟩

theorem hasParentSegment_iff {s : Text} :
    hasParentSegment s = false ↔ (".." : Text) ∉ s.splitOn (codePoint '/') := by
  rw [hasParentSegment, List.any_eq_false]
  exact ⟨fun none inside => none _ inside (beq_self_eq_true _),
    fun none segment inside same => none (eq_of_beq same ▸ inside)⟩

/-- The checks of a portable path, whatever it takes to see a drive. -/
theorem pathChecks_iff {s : Text} {driven : Bool}
    (drive : driven = false ↔ ∀ letter rest, s = letter :: codePoint ':' :: rest →
      Text.isLetterAscii letter = false) :
    (s != [] && !List.contains s (codePoint '\n') && s.head? != some (codePoint '/') &&
      !List.contains s (codePoint '\\') && !hasParentSegment s && !driven) = true ↔ ExactPath s := by
  simp only [Bool.and_eq_true_iff, Bool.not_eq_true', bne_iff_ne, hasParentSegment_iff, drive,
    List.contains_eq_mem, decide_eq_false_iff_not]
  exact ⟨fun ⟨⟨⟨⟨⟨named, line⟩, relative⟩, backslash⟩, parent⟩, undriven⟩ =>
      ⟨named, line, relative, backslash, parent, undriven⟩,
    fun exact => ⟨⟨⟨⟨⟨exact.named, exact.line⟩, exact.relative⟩, exact.backslash⟩, exact.parent⟩,
      exact.drive⟩⟩

theorem path_exact_iff {value : Text} (accepted : isPortableRelative value = true) :
    ExactPath value ↔ ¬ LineEnded value := by
  refine exact_iff (fun s => ?_) (fun _ exact => not_lineEnded exact.line) accepted
  rcases s with _ | ⟨letter, _ | ⟨colon, rest⟩⟩
  · exact pathChecks_iff (iff_of_true rfl fun _ _ same => nomatch same)
  · exact pathChecks_iff (iff_of_true rfl fun _ _ same => nomatch same)
  · refine pathChecks_iff ?_
    rw [Bool.and_eq_false_iff, beq_eq_false_iff_ne]
    constructor
    · rintro either letter' rest' same
      cases same
      exact either.resolve_right (not_not.mpr rfl)
    · intro none
      by_cases drive : colon = codePoint ':'
      · exact .inl (none letter rest (by rw [drive]))
      · exact .inr drive

/-! ### The names of a document -/

/-- The texts of a document that have a grammar. -/
structure Names where
  digests : List Text
  identifiers : List Text
  paths : List Text
  deriving DecidableEq

namespace Names

/-- All of them. -/
def all (names : Names) : List Text := names.digests ++ names.identifiers ++ names.paths

/-- Each is accepted by its pattern. -/
structure Accepted (names : Names) : Prop where
  digests : ∀ digest ∈ names.digests, isSha256 digest = true
  identifiers : ∀ identifier ∈ names.identifiers, isIdentifier identifier = true
  paths : ∀ path ∈ names.paths, isPortableRelative path = true

/-- Each follows its grammar to the last character. -/
structure Exact (names : Names) : Prop where
  digests : ∀ digest ∈ names.digests, ExactDigest digest
  identifiers : ∀ identifier ∈ names.identifiers, ExactIdentifier identifier
  paths : ∀ path ∈ names.paths, ExactPath path

/-- Accepted names are exact unless a line feed ends one of them. -/
theorem exact_iff {names : Names} (accepted : names.Accepted) :
    names.Exact ↔ ∀ value ∈ names.all, ¬ LineEnded value := by
  simp only [all, List.mem_append]
  constructor
  · rintro exact value ((digest | identifier) | path)
    · exact (exact.digests value digest).line
    · exact (exact.identifiers value identifier).line
    · exact not_lineEnded (exact.paths value path).line
  · intro unended
    refine ⟨fun digest member => ?_, fun identifier member => ?_, fun path member => ?_⟩
    · exact (digest_exact_iff (accepted.digests digest member)).mpr (unended digest (.inl (.inl member)))
    · exact (identifier_exact_iff (accepted.identifiers identifier member)).mpr
        (unended identifier (.inl (.inr member)))
    · exact (path_exact_iff (accepted.paths path member)).mpr (unended path (.inr member))

end Names

/-- The documents of a solution. -/
inductive DocumentKind
  | pointer | manifest | catalog
  deriving DecidableEq

/-- The string under a name. -/
def textOf (document : Json) (name : Text) : Text := (document.text? name).getD []

/-- The items under a name. -/
def itemsOf (document : Json) (name : Text) : List Json :=
  match document.field? name with
  | some (.arr items) => items
  | _ => []

/-- What a document says under the fields that have a grammar. -/
def namesIn (kind : DocumentKind) (document : Json) : Names :=
  match kind with
  | .pointer => ⟨[textOf document "generation_id", textOf document "manifest_sha256"], [], []⟩
  | .manifest =>
    let files := itemsOf document "files"
    ⟨[textOf document "analyzer_set_hash", textOf document "source_fingerprint",
        textOf document "config_fingerprint", textOf document "dependency_fingerprint"] ++
        files.map (textOf · "sha256"),
      [textOf document "solution_id", textOf document "project_id"], files.map (textOf · "path")⟩
  | .catalog =>
    let projects := itemsOf document "projects"
    ⟨projects.map (textOf · "generation_id") ++ projects.map (textOf · "source_fingerprint"),
      textOf document "solution_id" :: projects.map (textOf · "project_id"), []⟩

/-- The document some bytes hold. -/
def documentOf (py : Interpreter) (raw : Bytes) : Option Json :=
  match Utf8.decode raw with
  | .ok text => (Json.loads py text).toOption
  | .error _ => none

/-- The names of an accepted pointer. -/
def Pointer.names (pointer : Pointer) : Names :=
  ⟨[pointer.generationId, pointer.manifestSha256], [], []⟩

/-- The names of an accepted manifest. -/
def Manifest.names (manifest : Manifest) : Names :=
  ⟨[manifest.analyzerSetHash, manifest.sourceFingerprint, manifest.configFingerprint,
      manifest.dependencyFingerprint] ++ manifest.files.map ManifestEntry.sha256,
    [manifest.solutionId, manifest.projectId], manifest.files.map ManifestEntry.path⟩

/-- The names of an accepted catalog. -/
def Catalog.names (catalog : Catalog) : Names :=
  ⟨catalog.members.map CatalogMember.generationId ++ catalog.members.map CatalogMember.sourceFingerprint,
    catalog.solutionId :: catalog.members.map CatalogMember.projectId, []⟩

/-- The names of a document its loader accepts. -/
def loadNames (py : Interpreter) (kind : DocumentKind) (raw : Bytes) (what : Text) :
    Except Raised Names :=
  match kind with
  | .pointer => Pointer.names <$> loadPointerBytes py raw what
  | .manifest => Manifest.names <$> loadManifestBytes py raw what
  | .catalog => Catalog.names <$> loadCatalogBytes py raw what

/-! ### What the loaders hand on -/

section Loaded

variable {py : Interpreter} {raw : Bytes} {what : Text}

theorem documentOf_parsed {document : Json} (parsed : parseBytes py raw what = .ok document) :
    documentOf py raw = some document := by
  obtain ⟨text, decoded, read⟩ := bind_eq_ok.mp parsed
  unfold decodeUtf8 at decoded
  split at decoded
  · cases decoded
  · split at decoded
    · cases decoded
    · next found =>
      cases decoded
      rw [documentOf, found]
      exact congrArg Except.toOption (parseJson_ok read)

theorem documentOf_catalog {entries : JsonObject} (parsed : catalogDocument py raw what = .ok entries) :
    documentOf py raw = some (.obj entries) := by
  unfold catalogDocument at parsed
  split at parsed
  · cases parsed
  · next decoded =>
    split at parsed
    · next document read =>
      rw [documentOf, decoded]
      cases document <;> cases parsed
      exact congrArg Except.toOption read
    all_goals cases parsed

theorem textOf_obj {entries : JsonObject} {name value : Text}
    (found : Json.get? entries name = some (.str value)) : textOf (.obj entries) name = value := by
  rw [textOf, Json.text?, Json.field?, found, Option.getD_some]

theorem itemsOf_obj {entries : JsonObject} {name : Text} {items : List Json}
    (found : Json.get? entries name = some (.arr items)) : itemsOf (.obj entries) name = items := by
  rw [itemsOf, Json.field?, found]

/-- A field a loader checked: what the document says, and its pattern accepts it. -/
theorem checkedField_text {check : Text → Bool} {complaint name value : Text} {entries : JsonObject}
    (found : checkedField check complaint entries name what = .ok value) :
    textOf (.obj entries) name = value ∧ check value = true :=
  ⟨textOf_obj (checkedField_ok.mp found).1, (checkedField_ok.mp found).2⟩

theorem catalogField_text {check : Text → Bool} {complaint name value : Text} {entries : JsonObject}
    (found : catalogField check complaint entries name what = .ok value) :
    textOf (.obj entries) name = value ∧ check value = true :=
  ⟨textOf_obj (catalogField_ok found).1, (catalogField_ok found).2⟩

/-- A loader's names are those of the document, and their patterns accept them. -/
def Handed (py : Interpreter) (kind : DocumentKind) (raw : Bytes) (names : Names) : Prop :=
  ∃ document, documentOf py raw = some document ∧ namesIn kind document = names ∧ names.Accepted

theorem loadPointerBytes_names {pointer : Pointer}
    (loaded : loadPointerBytes py raw what = .ok pointer) : Handed py .pointer raw pointer.names := by
  obtain ⟨document, canonical, _, generation, digest, sha, same, _⟩ := loadPointerBytes_ok loaded
  refine ⟨.obj document, documentOf_parsed (canonical.parsed what), ?_, ?_, ?_, ?_⟩
  · rw [namesIn, textOf_obj generation, textOf_obj digest, Pointer.names]
  · simp only [Pointer.names, List.forall_mem_cons]
    exact ⟨sha, same ▸ sha, List.forall_mem_nil _⟩
  · exact List.forall_mem_nil _
  · exact List.forall_mem_nil _

/-- What an accepted entry of a manifest says. -/
structure EntryNames (item : Json) (entry : ManifestEntry) : Prop where
  path : textOf item "path" = entry.path
  sha256 : textOf item "sha256" = entry.sha256
  portable : isPortableRelative entry.path = true
  digest : isSha256 entry.sha256 = true

theorem portablePath_ok {value : Option Json} {path : Text}
    (found : portablePath py value what = .ok path) :
    value = some (.str path) ∧ isPortableRelative path = true := by
  unfold portablePath at found
  split at found
  · split at found
    · next passes =>
      cases found
      exact ⟨rfl, passes⟩
    · cases found
  · cases found

theorem validateEntry_names {item : Json} {index : ℕ} {entry : ManifestEntry}
    (accepted : validateEntry py item index what = .ok entry) : EntryNames item entry := by
  unfold validateEntry at accepted
  cases item
  case obj fields =>
    obtain ⟨_, _, accepted⟩ := bind_eq_ok.mp accepted
    obtain ⟨path, pathField, accepted⟩ := bind_eq_ok.mp accepted
    obtain ⟨_, _, accepted⟩ := bind_eq_ok.mp accepted
    obtain ⟨digest, digestField, accepted⟩ := bind_eq_ok.mp accepted
    obtain ⟨_, _, accepted⟩ := bind_eq_ok.mp accepted
    obtain ⟨_, _, done⟩ := bind_eq_ok.mp accepted
    cases done
    obtain ⟨found, portable⟩ := portablePath_ok pathField
    obtain ⟨sha256, accepted⟩ := checkedField_text digestField
    exact ⟨textOf_obj found, sha256, portable, accepted⟩
  all_goals cases accepted

theorem addEntry_names {entries entries' : List ManifestEntry} {item : Json × ℕ}
    (added : addEntry py what entries item = .ok entries') :
    ∃ entry, EntryNames item.1 entry ∧ entries' = entries ++ [entry] := by
  obtain ⟨entry, accepted, added⟩ := bind_eq_ok.mp added
  split at added
  · cases added
  · split at added
    · cases added
    · cases added
      exact ⟨entry, validateEntry_names accepted, rfl⟩

/-- Item by item, what a loop took from a list of the document. -/
theorem map_of_forall₂ {α : Type} {r : Json → α → Prop} {items : List Json} {values : List α}
    (each : List.Forall₂ (fun item value => r item.1 value) items.zipIdx values) {name : Text}
    {part : α → Text} (holds : ∀ item value, r item value → textOf item name = part value) :
    items.map (textOf · name) = values.map part := by
  have indexed : items.map (textOf · name) = items.zipIdx.map fun item => textOf item.1 name := by
    conv_lhs => rw [← List.zipIdx_map_fst 0 items, List.map_map]
    rfl
  rw [indexed, ← List.forall₂_eq_eq_eq]
  exact List.forall₂_map_right_iff.mpr (List.forall₂_map_left_iff.mpr
    (each.imp fun item value related => holds item.1 value related))

theorem validateFiles_names {document : JsonObject} {entries : List ManifestEntry}
    (accepted : validateFiles py document what = .ok entries) :
    List.Forall₂ (fun item entry => EntryNames item.1 entry)
      (itemsOf (.obj document) "files").zipIdx entries := by
  unfold validateFiles at accepted
  split at accepted
  · next here =>
    obtain ⟨added, each, same⟩ := foldlM_append_ok (fun _ _ _ added => addEntry_names added) accepted
    rw [itemsOf_obj here, same]
    exact each
  · cases accepted

theorem loadManifestBytes_names {manifest : Manifest}
    (loaded : loadManifestBytes py raw what = .ok manifest) : Handed py .manifest raw manifest.names := by
  obtain ⟨value, parsed, loaded⟩ := bind_eq_ok.mp loaded
  obtain ⟨document, object, loaded⟩ := bind_eq_ok.mp loaded
  obtain ⟨_, _, loaded⟩ := bind_eq_ok.mp loaded
  obtain ⟨_, _, loaded⟩ := bind_eq_ok.mp loaded
  obtain ⟨_, _, loaded⟩ := bind_eq_ok.mp loaded
  obtain ⟨_, _, loaded⟩ := bind_eq_ok.mp loaded
  obtain ⟨solution, solutionField, loaded⟩ := bind_eq_ok.mp loaded
  obtain ⟨project, projectField, loaded⟩ := bind_eq_ok.mp loaded
  obtain ⟨_, _, loaded⟩ := bind_eq_ok.mp loaded
  obtain ⟨_, _, loaded⟩ := bind_eq_ok.mp loaded
  obtain ⟨analyzers, analyzersField, loaded⟩ := bind_eq_ok.mp loaded
  obtain ⟨source, sourceField, loaded⟩ := bind_eq_ok.mp loaded
  obtain ⟨config, configField, loaded⟩ := bind_eq_ok.mp loaded
  obtain ⟨dependency, dependencyField, loaded⟩ := bind_eq_ok.mp loaded
  obtain ⟨_, _, loaded⟩ := bind_eq_ok.mp loaded
  obtain ⟨entries, files, done⟩ := bind_eq_ok.mp loaded
  cases done
  obtain rfl := requireObject_ok.mp object
  have each := validateFiles_names files
  have accepted : ∀ entry ∈ entries, isPortableRelative entry.path = true ∧ isSha256 entry.sha256 = true := by
    intro entry member
    obtain ⟨item, _, named⟩ := forall₂_right each member
    exact ⟨named.portable, named.digest⟩
  refine ⟨.obj document, documentOf_parsed parsed, ?_, ?_, ?_, ?_⟩
  · rw [namesIn, Manifest.names, (checkedField_text solutionField).1, (checkedField_text projectField).1,
      (checkedField_text analyzersField).1, (checkedField_text sourceField).1,
      (checkedField_text configField).1, (checkedField_text dependencyField).1]
    dsimp only
    rw [map_of_forall₂ each fun _ _ named => named.sha256, map_of_forall₂ each fun _ _ named => named.path]
  · simp only [Manifest.names, List.cons_append, List.nil_append, List.forall_mem_cons,
      List.forall_mem_map]
    exact ⟨(checkedField_text analyzersField).2, (checkedField_text sourceField).2,
      (checkedField_text configField).2, (checkedField_text dependencyField).2,
      fun entry member => (accepted entry member).2⟩
  · simp only [Manifest.names, List.forall_mem_cons]
    exact ⟨(checkedField_text solutionField).2, (checkedField_text projectField).2, List.forall_mem_nil _⟩
  · simp only [Manifest.names, List.forall_mem_map]
    exact fun entry member => (accepted entry member).1

/-- What an accepted member of a catalog says. -/
structure MemberNames (item : Json) (member : CatalogMember) : Prop where
  project : textOf item "project_id" = member.projectId
  generation : textOf item "generation_id" = member.generationId
  source : textOf item "source_fingerprint" = member.sourceFingerprint
  identifier : isIdentifier member.projectId = true
  digests : isSha256 member.generationId = true ∧ isSha256 member.sourceFingerprint = true

theorem catalogObject_ok {document : Json} {entries : JsonObject}
    (object : catalogObject document what = .ok entries) : document = .obj entries := by
  cases document <;> cases object
  rfl

theorem addMember_names {members members' : List CatalogMember} {item : Json × ℕ}
    (added : addMember py what members item = .ok members') :
    ∃ member, MemberNames item.1 member ∧ members' = members ++ [member] := by
  obtain ⟨entry, object, added⟩ := bind_eq_ok.mp added
  obtain ⟨_, _, added⟩ := bind_eq_ok.mp added
  obtain ⟨_, _, added⟩ := bind_eq_ok.mp added
  obtain ⟨projectId, project, added⟩ := bind_eq_ok.mp added
  split at added
  · cases added
  · obtain ⟨generationId, generation, added⟩ := bind_eq_ok.mp added
    obtain ⟨sourceFingerprint, source, added⟩ := bind_eq_ok.mp added
    cases added
    obtain ⟨projectText, identifier⟩ := catalogField_text project
    obtain ⟨generationText, digest⟩ := catalogField_text generation
    obtain ⟨sourceText, fingerprint⟩ := catalogField_text source
    rw [← catalogObject_ok object] at projectText generationText sourceText
    exact ⟨⟨projectId, generationId, sourceFingerprint⟩,
      ⟨projectText, generationText, sourceText, identifier, digest, fingerprint⟩, rfl⟩

theorem catalogMembers_names {document : JsonObject} {members : List CatalogMember}
    (accepted : catalogMembers py document what = .ok members) :
    List.Forall₂ (fun item member => MemberNames item.1 member)
      (itemsOf (.obj document) "projects").zipIdx members := by
  unfold catalogMembers at accepted
  split at accepted
  · next here =>
    obtain ⟨added, each, same⟩ := foldlM_append_ok (fun _ _ _ added => addMember_names added) accepted
    rw [itemsOf_obj here, same]
    exact each
  · cases accepted

theorem loadCatalogBytes_names {catalog : Catalog}
    (loaded : loadCatalogBytes py raw what = .ok catalog) : Handed py .catalog raw catalog.names := by
  obtain ⟨document, parsed, loaded⟩ := bind_eq_ok.mp loaded
  obtain ⟨_, _, loaded⟩ := bind_eq_ok.mp loaded
  obtain ⟨_, _, loaded⟩ := bind_eq_ok.mp loaded
  obtain ⟨_, _, loaded⟩ := bind_eq_ok.mp loaded
  obtain ⟨solution, solutionField, loaded⟩ := bind_eq_ok.mp loaded
  obtain ⟨_, _, loaded⟩ := bind_eq_ok.mp loaded
  obtain ⟨_, _, loaded⟩ := bind_eq_ok.mp loaded
  obtain ⟨members, found, done⟩ := bind_eq_ok.mp loaded
  cases done
  have each := catalogMembers_names found
  have accepted : ∀ member ∈ members, isIdentifier member.projectId = true ∧
      isSha256 member.generationId = true ∧ isSha256 member.sourceFingerprint = true := by
    intro member inside
    obtain ⟨item, _, named⟩ := forall₂_right each inside
    exact ⟨named.identifier, named.digests⟩
  refine ⟨.obj document, documentOf_catalog parsed, ?_, ?_, ?_, List.forall_mem_nil _⟩
  · rw [namesIn, Catalog.names, (catalogField_text solutionField).1]
    dsimp only
    rw [map_of_forall₂ each fun _ _ named => named.generation,
      map_of_forall₂ each fun _ _ named => named.source,
      map_of_forall₂ each fun _ _ named => named.project]
  · simp only [Catalog.names, List.forall_mem_append, List.forall_mem_map]
    exact ⟨fun member inside => (accepted member inside).2.1,
      fun member inside => (accepted member inside).2.2⟩
  · simp only [Catalog.names, List.forall_mem_cons, List.forall_mem_map]
    exact ⟨(catalogField_text solutionField).2, fun member inside => (accepted member inside).1⟩

/-- **A loader hands on the names of its document**, each accepted by its pattern. -/
theorem loadNames_ok {kind : DocumentKind} {names : Names}
    (loaded : loadNames py kind raw what = .ok names) : Handed py kind raw names := by
  cases kind with
  | pointer =>
    obtain ⟨pointer, accepted, rfl⟩ := map_eq_ok.mp loaded
    exact loadPointerBytes_names accepted
  | manifest =>
    obtain ⟨manifest, accepted, rfl⟩ := map_eq_ok.mp loaded
    exact loadManifestBytes_names accepted
  | catalog =>
    obtain ⟨catalog, accepted, rfl⟩ := map_eq_ok.mp loaded
    exact loadCatalogBytes_names accepted

end Loaded

/-! ### To the last character -/

/-- A name of the document ends with a line feed. -/
def NameLineEnded (py : Interpreter) (kind : DocumentKind) (raw : Bytes) : Prop :=
  ∃ document, documentOf py raw = some document ∧ ∃ value ∈ (namesIn kind document).all, LineEnded value

/-- **Accepted names follow their grammars exactly when none of them ends with a line feed.** -/
theorem names_exact_iff {py : Interpreter} {kind : DocumentKind} {raw : Bytes} {what : Text}
    {names : Names} (loaded : loadNames py kind raw what = .ok names) :
    names.Exact ↔ ¬ NameLineEnded py kind raw := by
  obtain ⟨document, found, rfl, accepted⟩ := loadNames_ok loaded
  rw [Names.exact_iff accepted]
  constructor
  · rintro unended ⟨other, same, value, member, ended⟩
    obtain rfl := Option.some.inj (found.symm.trans same)
    exact unended value member ended
  · intro none value member ended
    exact none ⟨document, found, value, member, ended⟩

/-- The names of the sample catalog. -/
theorem names_exact_iff_sample : sampleCatalog.names.Exact ↔
    ¬ NameLineEnded .ascii .catalog sampleCatalogBytes := by
  have loaded : loadNames .ascii .catalog sampleCatalogBytes "manifest.json" = .ok sampleCatalog.names := by
    rw [loadNames, sampleCatalog_loads]
    rfl
  exact names_exact_iff loaded

/-- A manifest is accepted whose project id is `core` and a line feed. -/
theorem manifest_lineEnded : ∃ names,
    loadNames .ascii .manifest (sampleManifest "core\\n") "manifest.json" = .ok names ∧ ¬ names.Exact := by
  have loaded : (loadNames .ascii .manifest (sampleManifest "core\\n") "manifest.json").map Names.identifiers =
      .ok [("shop" : Text), "core\n"] := by
    decide +kernel
  obtain ⟨names, accepted, same⟩ := map_eq_ok.mp loaded
  refine ⟨names, accepted, fun exact => ?_⟩
  have ended : LineEnded ("core\n" : Text) := by decide
  exact (exact.identifiers "core\n" (by rw [same]; exact .tail _ (.head _))).line ended

end AxiomMcp.Snapshot

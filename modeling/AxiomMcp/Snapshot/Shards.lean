/-
**Bounded shard loading (`shards.py`).**

`copyShards` selects the entries of a manifest that a query needs and copies each of them: the role must own
the path, the declared size must fit the caps, the path must be a regular file inside the generation
directory after links are followed, and only then are bytes read, under the cap. `verifyCopied` hashes and
parses the copies.

`copyShards_along` says what was copied, whatever the source returns: for each selected entry, one payload
that the source returned and of the declared length. `verifyCopied_ok` says what was verified.
-/

import AxiomMcp.Snapshot.Manifest
import AxiomMcp.Snapshot.Registry

namespace AxiomMcp.Snapshot

open Lib Program Machine

/-! ### Roles and caps -/

/-- `ROLE_DIRECTORIES` -/
def roleDirectories : List (Text × Text) :=
  [("nodes", "nodes/"), ("edges", "edges/"), ("symbol_index", "indexes/symbols/"),
    ("outgoing_index", "indexes/outgoing/"), ("incoming_index", "indexes/incoming/"),
    ("architecture_summary", "architecture/")]

/-- `COVERAGE_ROLE` -/
def coverageRole : Text := "coverage"

/-- `COVERAGE_PATH` -/
def coveragePath : Text := "coverage.json"

/-- The hard caps of a bounded load. -/
structure ShardLimits where
  maxShardBytes : ℕ := Snapshot.maxShardBytes
  maxShards : ℕ := 512
  maxTotalBytes : ℕ := 64 * 1024 * 1024
  positive : 1 ≤ maxShardBytes ∧ 1 ≤ maxShards ∧ 1 ≤ maxTotalBytes := by decide
  /-- Never above the canonical hard cap. -/
  canonical : maxShardBytes ≤ Snapshot.maxShardBytes := by decide
  total : maxShardBytes ≤ maxTotalBytes := by decide

/-- The bytes of one shard, copied into memory. -/
structure CopiedShard where
  path : Text
  role : Text
  sha256 : Text
  bytes : ℤ
  records : ℤ
  raw : Bytes

/-- A copied shard that was verified against its entry and parsed. -/
structure Shard where
  path : Text
  role : Text
  sha256 : Text
  bytes : ℤ
  records : ℤ
  document : Json

/-- `role_permitted_path(role, path)` -/
def rolePermittedPath (role path : Text) : Bool :=
  if role = coverageRole then path = coveragePath
  else
    match roleDirectories.lookup role with
    | none => false
    | some directory =>
      let remainder : Text := path.drop directory.length
      path.startsWith directory && remainder.endsWith ".json" && !List.contains remainder (codePoint '/') &&
        remainder != (".json" : Text)

section Shards

variable (py : Interpreter) (sha256 : Bytes → Text)

/-- `_require_role_path(entry)` -/
def requireRolePath (entry : ManifestEntry) : Except Raised Unit :=
  if entry.role ∉ fileRoles then
    .error (.shard .pathRejected (Text.format ["shard ", entry.path, " declares role ",
      entry.role.pyRepr py.isPrintable, ", which is not a role of ",
      "docs/11-GRAPH-DATA-CONTRACT.md section 6"]))
  else if ¬ rolePermittedPath entry.role entry.path then
    .error (.shard .pathRejected (Text.format ["shard ", entry.path, " is not a permitted path for role ",
      entry.role.pyRepr py.isPrintable]))
  else .ok ()

/-- `_require_declared_cap(entry, limits)` -/
def requireDeclaredCap (entry : ManifestEntry) (limits : ShardLimits) : Except Raised Unit :=
  if (limits.maxShardBytes : ℤ) < entry.bytes then
    .error (.shard .tooLarge (Text.format ["shard ", entry.path, " declares ", Text.ofInt entry.bytes,
      " bytes, above the hard cap ", Text.ofNat limits.maxShardBytes]))
  else .ok ()

/-! ### The path of a shard -/

/-- `PurePosixPath(path).parts`, of a relative path. -/
def posixParts (path : Text) : List Text :=
  (path.splitOn (codePoint '/')).filter fun part => part != [] && part != (".": Text)

/-- What `shard_path` makes of the `lstat` of its candidate. -/
def requireRegular (entry : ManifestEntry) : Except Raised FileKind → Except Raised Unit
  | .ok .regular => .ok ()
  | .ok .symbolicLink => .error (.shard .pathRejected (Text.format ["shard ", entry.path,
      " is a symbolic link; a published generation holds regular files"]))
  | .ok .other => .error (.shard .pathRejected (Text.format ["shard ", entry.path,
      " is not a regular file"]))
  | .error (.os fault) => .error (.shard .unreadable (Text.format ["shard ", entry.path,
      " is unreadable: ", fault.name]))
  | .error raised => .error raised

/-- An `UntrustedPath` reported as the rejection of a shard. -/
def rejectUntrusted (entry : ManifestEntry) (complaint : Text) : Raised → Raised
  | .registry .untrustedPath message =>
    .shard .pathRejected (Text.format ["shard ", entry.path, complaint, message])
  | raised => raised

/-- `shard_path(location, manifest, entry)` -/
def shardPath (location : SnapshotLocation) (manifest : Manifest) (entry : ManifestEntry) :
    FileProgram Path := do
  let generationId := manifest.generationId sha256
  ofExcept (requireRolePath py entry)
  let generationDir ← ofExcept (location.generationRoot py generationId)
  let relative := Text.format [generationsDirname, "/", generationId, "/", entry.path]
  let _ ← ofExcept ((portableRelative py relative).mapError
    (rejectUntrusted entry " is not a portable path: "))
  .call (.lstat (generationDir.joined (posixParts entry.path))) fun info => do
    ofExcept (requireRegular entry info)
    let resolved ← (location.resolve py relative).rescue fun raised =>
      .raise (rejectUntrusted entry " escapes the registered lane: " raised)
    let generationRoot ← resolvePath generationDir .os
    if generationRoot.Above resolved then .done resolved
    else .raise (.shard .pathRejected (Text.format ["shard ", entry.path,
      " resolves outside its generation directory"]))

/-! ### Copies -/

/-- What `copy_shard` makes of the payload it read. -/
def checkPayload (entry : ManifestEntry) (limits : ShardLimits) (payload : Bytes) :
    Except Raised CopiedShard :=
  if limits.maxShardBytes < payload.length then
    .error (.shard .tooLarge (Text.format ["shard ", entry.path, " is larger than the hard cap ",
      Text.ofNat limits.maxShardBytes, " bytes"]))
  else if (payload.length : ℤ) ≠ entry.bytes then
    .error (.shard .sizeMismatch (Text.format ["shard ", entry.path, " is ", Text.ofNat payload.length,
      " bytes on disk but the manifest declares ", Text.ofInt entry.bytes]))
  else .ok ⟨entry.path, entry.role, entry.sha256, entry.bytes, entry.records, payload⟩

/-- A `ShardUnreadable` of the source, reported for the shard. -/
def rejectUnreadable (entry : ManifestEntry) : Raised → Raised
  | .shard .unreadable message =>
    .shard .unreadable (Text.format ["shard ", entry.path, " is unreadable: ", message])
  | raised => raised

/-- `copy_shard(location, manifest, entry, limits=limits, read=read)` -/
def copyShard (location : SnapshotLocation) (manifest : Manifest) (limits : ShardLimits)
    (entry : ManifestEntry) : FileProgram CopiedShard := do
  ofExcept (requireRolePath py entry)
  ofExcept (requireDeclaredCap entry limits)
  let resolved ← shardPath py sha256 location manifest entry
  .call (.read resolved limits.maxShardBytes) fun reply => do
    let payload ← ofExcept (reply.mapError (rejectUnreadable entry))
    ofExcept (checkPayload entry limits payload)

/-- The entries of the requested roles. -/
def entriesOf (manifest : Manifest) : Option (List Text) → Except Raised (List ManifestEntry)
  | none => .ok manifest.files
  | some roles =>
    if roles.filter (fun role => role ∉ fileRoles) ≠ [] then
      .error (.shard .shardError (Text.format ["unknown shard role(s): ",
        namesRepr py (sortedBy id (roles.filter fun role => role ∉ fileRoles))]))
    else .ok (manifest.files.filter fun entry => entry.role ∈ roles)

/-- `_selected_entries(manifest, roles)` -/
def selectedEntries (manifest : Manifest) (roles : Option (List Text)) :
    Except Raised (List ManifestEntry) := do
  let entries ← entriesOf py manifest roles
  if entries = [] then
    .error (.shard .shardError (Text.format ["manifest ", (manifest.generationId sha256).take 12,
      " declares no shard for the requested roles"]))
  else return sortedBy ManifestEntry.path entries

/-- `_require_plan_cap(entries, limits)` -/
def requirePlanCap (entries : List ManifestEntry) (limits : ShardLimits) : Except Raised Unit :=
  let total := (entries.map ManifestEntry.bytes).sum
  if limits.maxShards < entries.length then
    .error (.shard .tooLarge (Text.format ["plan selects ", Text.ofNat entries.length,
      " shards, above the hard cap ", Text.ofNat limits.maxShards]))
  else if (limits.maxTotalBytes : ℤ) < total then
    .error (.shard .tooLarge (Text.format ["plan declares ", Text.ofInt total,
      " bytes, above the plan budget ", Text.ofNat limits.maxTotalBytes]))
  else .ok ()

/-- The copies, one after another. -/
def copyEach (location : SnapshotLocation) (manifest : Manifest) (limits : ShardLimits) :
    List ManifestEntry → FileProgram (List CopiedShard)
  | [] => .done []
  | entry :: rest => do
    let copied ← copyShard py sha256 location manifest limits entry
    let later ← copyEach location manifest limits rest
    .done (copied :: later)

/-- `copy_shards(location, manifest, roles=roles, limits=limits, read=read)` -/
def copyShards (location : SnapshotLocation) (manifest : Manifest) (roles : Option (List Text))
    (limits : ShardLimits) : FileProgram (List CopiedShard) := do
  let entries ← ofExcept (selectedEntries py sha256 manifest roles)
  ofExcept (requirePlanCap entries limits)
  copyEach py sha256 location manifest limits entries

/-! ### Verification -/

/-- One round of `verify_copied`. -/
def verifyOne (manifest : Manifest) (item : CopiedShard) : Except Raised Shard := do
  let entry ← manifest.entry py item.path
  let document ← Manifest.verifyShard py sha256 entry item.raw
  return ⟨item.path, item.role, item.sha256, item.bytes, item.records, document⟩

/-- `verify_copied(manifest, copied)` -/
def verifyCopied (manifest : Manifest) (copied : List CopiedShard) : Except Raised (List Shard) :=
  copied.mapM (verifyOne py sha256 manifest)

end Shards

/-! ### What was copied -/

section Copied

variable {py : Interpreter} {sha256 : Bytes → Text} {location : SnapshotLocation} {manifest : Manifest}
  {limits : ShardLimits} {payloads : List Bytes}

theorem silent_shardPath (entry : ManifestEntry) :
    (shardPath py sha256 location manifest entry).Only FileOp.Silent := by
  refine (only_ofExcept _).bind fun _ => (only_ofExcept _).bind fun generationDir => ?_
  refine (only_ofExcept _).bind fun _ => ⟨trivial, fun info => (only_ofExcept _).bind fun _ => ?_⟩
  refine Only.bind ((silent_resolve _ _).rescue fun raised => ?_) fun resolved => ?_
  · exact trivial
  refine (silent_resolvePath _ _).bind fun generationRoot => ?_
  split <;> exact trivial

/-- A copy of an entry: one of the payloads. -/
structure CopyOf (payloads : List Bytes) (entry : ManifestEntry) (copied : CopiedShard) : Prop where
  raw : copied.raw ∈ payloads
  path : copied.path = entry.path
  role : copied.role = entry.role
  sha256 : copied.sha256 = entry.sha256

theorem CopyOf.later {entry : ManifestEntry} {copied : CopiedShard} {more : List Bytes}
    (copy : CopyOf payloads entry copied) (kept : payloads ⊆ more) : CopyOf more entry copied :=
  ⟨kept copy.raw, copy.path, copy.role, copy.sha256⟩

theorem checkPayload_ok {entry : ManifestEntry} {payload : Bytes} {copied : CopiedShard}
    (checked : checkPayload entry limits payload = .ok copied) :
    copied = ⟨entry.path, entry.role, entry.sha256, entry.bytes, entry.records, payload⟩ := by
  unfold checkPayload at checked
  split at checked
  · cases checked
  · split at checked
    · cases checked
    · exact (Except.ok.inj checked).symm

theorem copyShard_along (entry : ManifestEntry) (payloads : List Bytes) :
    fileMachine.Along (fun _ _ => True)
      (fun outcome after => payloads ⊆ after ∧ ∀ copied, outcome = .ok copied → CopyOf after entry copied)
      (copyShard py sha256 location manifest limits entry) payloads := by
  have nothing : ∀ raised : Raised, payloads ⊆ payloads ∧ ∀ copied,
      (.error raised : Except Raised CopiedShard) = .ok copied → CopyOf payloads entry copied :=
    fun raised => ⟨List.Subset.refl _, fun _ none => nomatch none⟩
  refine along_ofExcept_bind (fun _ _ => ?_) fun raised _ => nothing raised
  refine along_ofExcept_bind (fun _ _ => ?_) fun raised _ => nothing raised
  refine (along_silent (silent_shardPath entry) payloads).bind (fun resolved after same => ?_)
    fun raised after same => same ▸ nothing raised
  rw [same]
  refine along_call trivial fun reply _ => ?_
  have kept : payloads ⊆ fileMachine.after payloads (.read resolved limits.maxShardBytes) reply :=
    List.subset_append_left _ _
  cases reply with
  | error raised => exact ⟨kept, fun _ none => nomatch none⟩
  | ok payload =>
    refine along_ofExcept ⟨kept, fun copied checked => ?_⟩
    rw [checkPayload_ok checked]
    exact ⟨List.mem_append_right _ List.mem_cons_self, rfl, rfl, rfl⟩

/-- The copies: one of each entry. -/
theorem copyEach_along (entries : List ManifestEntry) (payloads : List Bytes) :
    fileMachine.Along (fun _ _ => True)
      (fun outcome after => payloads ⊆ after ∧
        ∀ copied, outcome = .ok copied → List.Forall₂ (CopyOf after) entries copied)
      (copyEach py sha256 location manifest limits entries) payloads := by
  induction entries generalizing payloads with
  | nil => exact ⟨List.Subset.refl _, fun copied done => by cases done; exact .nil⟩
  | cons entry rest ih =>
    refine (copyShard_along entry payloads).bind (fun copied after first => ?_)
      fun raised after first => ⟨first.1, fun _ none => nomatch none⟩
    refine (ih after).bind (fun later final second => ?_)
      fun raised final second => ⟨List.Subset.trans first.1 second.1, fun _ none => nomatch none⟩
    refine ⟨List.Subset.trans first.1 second.1, fun all done => ?_⟩
    cases done
    exact .cons ((first.2 copied rfl).later second.1) (second.2 later rfl)

/-- **What was copied**: one payload for each selected entry. -/
theorem copyShards_along (roles : Option (List Text)) (payloads : List Bytes) :
    fileMachine.Along (fun _ _ => True)
      (fun outcome after => payloads ⊆ after ∧ ∀ copied, outcome = .ok copied →
        ∃ entries, selectedEntries py sha256 manifest roles = .ok entries ∧
          List.Forall₂ (CopyOf after) entries copied)
      (copyShards py sha256 location manifest roles limits) payloads := by
  unfold copyShards
  cases selected : selectedEntries py sha256 manifest roles with
  | error raised => exact ⟨List.Subset.refl _, fun _ none => nomatch none⟩
  | ok entries =>
    show fileMachine.Along _ _ (ofExcept (requirePlanCap entries limits) >>= fun _ =>
      copyEach py sha256 location manifest limits entries) payloads
    refine along_ofExcept_bind (fun _ _ => ?_) fun raised _ => ⟨List.Subset.refl _, fun _ none => nomatch none⟩
    refine (copyEach_along entries payloads).post fun outcome final ends => ⟨ends.1, fun copied done => ?_⟩
    exact ⟨entries, rfl, ends.2 copied done⟩

/-! ### What was verified -/

/-- The selected entries are entries of the manifest. -/
theorem selectedEntries_subset {roles : Option (List Text)} {entries : List ManifestEntry}
    (selected : selectedEntries py sha256 manifest roles = .ok entries) :
    ∀ entry ∈ entries, entry ∈ manifest.files := by
  obtain ⟨chosen, first, selected⟩ := bind_eq_ok.mp selected
  have within : ∀ entry ∈ chosen, entry ∈ manifest.files := by
    cases roles with
    | none =>
      cases first
      exact fun _ here => here
    | some roles =>
      change (if _ then _ else _) = _ at first
      split at first
      · cases first
      · obtain rfl := Except.ok.inj first
        exact fun _ here => (List.mem_filter.mp here).1
  split at selected
  · cases selected
  · cases selected
    exact fun entry here => within entry ((mem_sortedBy _ _).mp here)

/-- A shard that was verified against an entry: one of the payloads, with the digest of the entry. -/
structure ShardOf (py : Interpreter) (sha256 : Bytes → Text) (payloads : List Bytes) (entry : ManifestEntry)
    (shard : Shard) : Prop where
  path : shard.path = entry.path
  role : shard.role = entry.role
  digest : shard.sha256 = entry.sha256
  parsed : ∃ payload ∈ payloads, sha256 payload = entry.sha256 ∧
    ∀ what, parseBytes py payload what = .ok shard.document

theorem verifyShard_ok {entry : ManifestEntry} {payload : Bytes} {document : Json}
    (verified : Manifest.verifyShard py sha256 entry payload = .ok document) :
    sha256 payload = entry.sha256 ∧ ∀ what, parseBytes py payload what = .ok document := by
  change (if _ then _ else if sha256 payload ≠ entry.sha256 then _ else _) = _ at verified
  split at verified
  · cases verified
  · split at verified
    · cases verified
    · next same =>
      obtain ⟨parsed, first, verified⟩ := bind_eq_ok.mp verified
      obtain ⟨records, _, verified⟩ := bind_eq_ok.mp verified
      split at verified
      · cases verified
      · cases verified
        exact ⟨not_not.mp same, parseBytes_what first⟩

/-- **What was verified**: one shard for each copied entry. -/
theorem verifyCopied_ok {raw : Bytes} {what : Text} (loaded : loadManifestBytes py raw what = .ok manifest)
    {entries : List ManifestEntry} {copied : List CopiedShard} {shards : List Shard}
    (within : ∀ entry ∈ entries, entry ∈ manifest.files)
    (copies : List.Forall₂ (CopyOf payloads) entries copied)
    (verified : verifyCopied py sha256 manifest copied = .ok shards) :
    List.Forall₂ (ShardOf py sha256 payloads) entries shards := by
  have each := mapM_ok.mp verified
  clear verified
  induction copies generalizing shards with
  | nil =>
    cases each
    exact .nil
  | @cons entry item entries copied copy _ ih =>
    cases each with
    | cons one later =>
      refine .cons ?_ (ih (fun other here => within other (List.mem_cons_of_mem _ here)) later)
      obtain ⟨found, lookup, one⟩ := bind_eq_ok.mp one
      rw [copy.path, entry_of_mem loaded (within entry List.mem_cons_self)] at lookup
      obtain rfl := Except.ok.inj lookup
      obtain ⟨document, parsed, one⟩ := bind_eq_ok.mp one
      cases one
      exact ⟨copy.path, copy.role, copy.sha256, item.raw, copy.raw, verifyShard_ok parsed⟩

end Copied

end AxiomMcp.Snapshot

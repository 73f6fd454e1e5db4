/-
**The exceptions of the snapshot and guard modules.**

`Raised` is an exception of any of them, by the class the source raises and the text it carries. What a
handler can tell apart is the class: `except ManifestError` catches every `Raised.manifest` and nothing
else. An exception that no class of the source stands for keeps its own constructor.
-/

import AxiomMcp.Lib.Json

namespace AxiomMcp

open Lib

/-- The subclasses of `ManifestError`. -/
inductive ManifestKind
  | canonicalSerialization | unreadable | notCanonicalBytes | unsupportedSchemaMajor | invalid
  | duplicateEntry | digestMismatch | byteSizeMismatch | recordCountMismatch
  deriving DecidableEq

/-- The subclasses of `CatalogError`. -/
inductive CatalogKind
  | invalid | unreadable | unsupportedMajor
  /-- `CatalogMemberMissing`, with its `project_id`. -/
  | memberMissing (projectId : Text)
  deriving DecidableEq

/-- `ShardError` and its subclasses. -/
inductive ShardKind
  | shardError | pathRejected | tooLarge | sizeMismatch | unreadable
  deriving DecidableEq

/-- `ReadSessionError` and its subclasses. -/
inductive SessionKind
  | sessionError | boundedCopyExceeded | guardStillHeld
  deriving DecidableEq

/-- The subclasses of `RegistryError` that a document or a location raises. -/
inductive RegistryKind
  | unreadable | unsupportedMajor | unknownBinding | untrustedPath
  deriving DecidableEq

/-- The subclasses of `PathError`. -/
inductive PathKind
  | wireRejected | bindingRejected | escape | unresolvable
  deriving DecidableEq

/-- `GuardError` and its subclasses. -/
inductive GuardKind
  | guardError | busy | timeout | cancelled | unsupported
  deriving DecidableEq

/-- A `GuardError`: its class, its stable reason and what it carries. -/
structure GuardError where
  kind : GuardKind
  reason : Text
  message : Text
  lock : Option Text
  elapsedMs : Option ℤ
  deriving DecidableEq

/-- `str(exc)` of a guard error. -/
def GuardError.text (error : GuardError) : Text :=
  let subject := match error.lock with
    | some lock => if lock = [] then error.reason else error.reason ++ (":" : Text) ++ lock
    | none => error.reason
  if error.message = [] then subject else subject ++ (": " : Text) ++ error.message

/-- An `OSError`: the name of its class and its text. -/
structure OSFault where
  name : Text
  text : Text
  deriving DecidableEq

/-- An exception. -/
inductive Raised
  | manifest (kind : ManifestKind) (message : Text)
  | catalog (kind : CatalogKind) (message : Text)
  | shard (kind : ShardKind) (message : Text)
  | session (kind : SessionKind) (message : Text)
  | registry (kind : RegistryKind) (message : Text)
  | path (kind : PathKind) (message : Text)
  | guard (error : GuardError)
  | os (fault : OSFault)
  /-- The `UnicodeDecodeError` of bytes that are not UTF-8. -/
  | unicodeDecode
  /-- A `JSONDecodeError`, by its `msg`. -/
  | jsonDecode (message : Text)
  /-- The `UnicodeEncodeError` of a text with a lone surrogate. -/
  | unicodeEncode
  /-- The `ValueError` of an integer literal of so many digits. -/
  | tooManyDigits (digits : ℕ)
  /-- The `ValueError` of printing an integer of too many digits. -/
  | unprintable
  /-- A `RecursionError`. -/
  | recursion
  /-- An `AxiomError`, by its code. -/
  | gateway (code message : Text)
  /-- An exception of a callback the caller passed in. -/
  | callback (text : Text)
  deriving DecidableEq

/-- `str(exc)`, where the source prints one. -/
def Raised.text : Raised → Text
  | .manifest _ message => message
  | .catalog _ message => message
  | .shard _ message => message
  | .session _ message => message
  | .registry _ message => message
  | .path _ message => message
  | .guard error => error.text
  | .os fault => fault.text
  | .callback text => text
  | _ => []

end AxiomMcp

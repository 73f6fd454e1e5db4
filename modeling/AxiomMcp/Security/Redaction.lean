/-
**Redaction at the response boundary: `find_violations` and `redact_text`.**

`find_violations` reports every match of a dozen patterns, in the order of their spans, and
`redact_text` puts a placeholder in the place of each, the last span first. Each splice uses the
offsets of the original text, so a span that reaches into a later one cuts a text that has moved
under it.

* `findViolations_bounds`: a reported span is a non-empty piece of the text;
* `redactText_eq`: without a root the redaction is a run of splices, so every character of the
  answer has an origin (`redactionOrigins`, `redactText_origins`);
* `redaction_right_iff`: **the answer is right exactly when the stale offsets land**.
-/

import AxiomMcp.Lib.Regex
import AxiomMcp.Lib.Sorted
import AxiomMcp.Lib.Splice
import AxiomMcp.Lib.Text
import Mathlib.Data.List.DropRight

namespace AxiomMcp.Security

open AxiomMcp.Lib

/-- What `str` knows of Unicode. -/
structure Unicode where
  /-- `c.isalnum()` -/
  isAlnum : CodePoint → Bool
  /-- `text.lower()` -/
  lower : Text → Text

/-! ### Characters -/

section Characters

/-- A character from `first` to `last`. -/
def between (first last : Char) (c : CodePoint) : Bool :=
  first.toNat ≤ c.val && c.val ≤ last.toNat

/-- One of the characters listed. -/
def oneOf (listed : String) (c : CodePoint) : Bool := decide (c ∈ (listed : Text))

/-- `\w` -/
def isWord (u : Unicode) (c : CodePoint) : Bool := u.isAlnum c || c == codePoint '_'

/-- The character a pattern under `re.I` compares: a letter in lower case, and the four other
characters that fold to an ASCII letter. -/
def foldCase (c : CodePoint) : CodePoint :=
  if 0x41 ≤ c.val ∧ c.val ≤ 0x5a then Fin.ofNat 0x110000 (c.val + 0x20)
  else if c.val = 0x130 ∨ c.val = 0x131 then codePoint 'i'
  else if c.val = 0x17f then codePoint 's'
  else if c.val = 0x212a then codePoint 'k'
  else c

/-- `[A-Za-z0-9]` -/
def isAsciiAlnum (c : CodePoint) : Bool := Text.isLetterAscii c || Text.isDigitAscii c

end Characters

/-! ### Patterns -/

section Patterns

open Regex

/-- Literal characters. -/
def literal (text : String) : Regex CodePoint :=
  Regex.all ((text : Text).map fun c => one fun d => d == c)

/-- Literal characters under `re.I`. -/
def literalFold (text : String) : Regex CodePoint :=
  Regex.all ((text : Text).map fun c => one fun d => foldCase d == foldCase c)

/-- One of the characters listed. -/
def listed (text : String) : Regex CodePoint := one (oneOf text)

/-- `[ \t]*` -/
def blanks : Regex CodePoint := star (listed " \t")

/-- The categories of a violation, in report order. -/
inductive Category where
  | privateKeyBlock | cloudAccessKey | providerToken | bearerToken | jwt | passwordAssignment
  | credentialUrl | odbcConnectionString | windowsAbsolutePath | uncPath | posixAbsolutePath
deriving DecidableEq

/-- The text of a category. -/
def Category.name : Category → Text
  | privateKeyBlock => "private_key_block"
  | cloudAccessKey => "cloud_access_key"
  | providerToken => "provider_token"
  | bearerToken => "bearer_token"
  | jwt => "jwt"
  | passwordAssignment => "password_assignment"
  | credentialUrl => "credential_url"
  | odbcConnectionString => "odbc_connection_string"
  | windowsAbsolutePath => "windows_absolute_path"
  | uncPath => "unc_path"
  | posixAbsolutePath => "posix_absolute_path"

variable (u : Unicode)

/-- `\b` -/
def wordEdge : Regex CodePoint := boundary (isWord u)

/-- `-----BEGIN [A-Z ]*PRIVATE KEY-----` -/
def privateKeyBlock : Regex CodePoint :=
  Regex.all [literal "-----BEGIN ", star (one fun c => between 'A' 'Z' c || oneOf " " c),
    literal "PRIVATE KEY-----"]

/-- `\b(?:AKIA|ASIA)[0-9A-Z]{16}\b` -/
def cloudAccessKey : Regex CodePoint :=
  Regex.all [wordEdge u, alt (literal "AKIA") (literal "ASIA"),
    within 16 16 (one fun c => Text.isDigitAscii c || between 'A' 'Z' c), wordEdge u]

/-- `[A-Za-z0-9_-]` -/
def isTokenChar (c : CodePoint) : Bool := isAsciiAlnum c || oneOf "_-" c

/-- `\b(?:gh[pousr]|glpat|xox[baprs])_[A-Za-z0-9_-]{16,}\b` -/
def providerToken : Regex CodePoint :=
  Regex.all [wordEdge u,
    anyOf (seq (literal "gh") (listed "pousr"))
      [literal "glpat", seq (literal "xox") (listed "baprs")],
    literal "_", atLeast 16 (one isTokenChar), wordEdge u]

/-- `\bsk-[A-Za-z0-9]{24,}\b` -/
def secretKeyToken : Regex CodePoint :=
  Regex.all [wordEdge u, literal "sk-", atLeast 24 (one isAsciiAlnum), wordEdge u]

/-- `\bBearer[ \t]+[A-Za-z0-9._~+/=-]{16,}` -/
def bearerToken : Regex CodePoint :=
  Regex.all [wordEdge u, literal "Bearer", atLeast 1 (listed " \t"),
    atLeast 16 (one fun c => isAsciiAlnum c || oneOf "._~+/=-" c)]

/-- `\beyJ[A-Za-z0-9_-]{6,}\.[A-Za-z0-9_-]{6,}\.[A-Za-z0-9_-]{6,}\b` -/
def jwt : Regex CodePoint :=
  Regex.all [wordEdge u, literal "eyJ", atLeast 6 (one isTokenChar), literal ".",
    atLeast 6 (one isTokenChar), literal ".", atLeast 6 (one isTokenChar), wordEdge u]

/-- `\b(?:password|passwd|pwd|secret|token|api[_-]?key)\b[ \t]*[:=][ \t]*[^\s,;]{6,}` under `re.I` -/
def passwordAssignment : Regex CodePoint :=
  Regex.all [wordEdge u,
    anyOf (literalFold "password") [literalFold "passwd", literalFold "pwd", literalFold "secret",
      literalFold "token",
      Regex.all [literalFold "api", optional (listed "_-"), literalFold "key"]],
    wordEdge u, blanks, listed ":=", blanks,
    atLeast 6 (one fun c => !(Text.isSpace c || oneOf ",;" c))]

/-- `\b[a-z][a-z0-9+.-]*://[^/\s:@]{1,64}:[^/\s@]{1,64}@` under `re.I` -/
def credentialUrl : Regex CodePoint :=
  Regex.all [wordEdge u, one fun c => Text.isLowerAscii (foldCase c),
    star (one fun c => Text.isLowerAscii (foldCase c) || Text.isDigitAscii c || oneOf "+.-" c),
    literal "://", within 1 64 (one fun c => !(Text.isSpace c || oneOf "/:@" c)), literal ":",
    within 1 64 (one fun c => !(Text.isSpace c || oneOf "/@" c)), literal "@"]

/-- `\b(?:Data Source|Server|Initial Catalog)\b[ \t]*=[^;\n]+;[\s\S]{0,200}?` and then
`\b(?:Password|Pwd)\b[ \t]*=[^;\s]+`, under `re.I` -/
def odbcConnectionString : Regex CodePoint :=
  Regex.all [wordEdge u,
    anyOf (literalFold "Data Source") [literalFold "Server", literalFold "Initial Catalog"],
    wordEdge u, blanks, literal "=", atLeast 1 (one fun c => !oneOf ";\n" c), literal ";",
    rep 0 (some 200) false (one fun _ => true),
    wordEdge u, alt (literalFold "Password") (literalFold "Pwd"), wordEdge u, blanks, literal "=",
    atLeast 1 (one fun c => !(Text.isSpace c || oneOf ";" c))]

/-- `[^\\/\s"'<>|]` -/
def isPathChar (c : CodePoint) : Bool := !(Text.isSpace c || oneOf "\\/\"'<>|" c)

/-- `(?<![\w$])[A-Za-z]:[\\/]+(?:[^\\/\s"'<>|]+[\\/]+)*[^\\/\s"'<>|]*` -/
def windowsAbsolutePath : Regex CodePoint :=
  Regex.all [notBehind fun c => isWord u c || oneOf "$" c, one Text.isLetterAscii, literal ":",
    atLeast 1 (listed "\\/"),
    star (seq (atLeast 1 (one isPathChar)) (atLeast 1 (listed "\\/"))),
    star (one isPathChar)]

/-- `\\\\+[A-Za-z0-9._$-]{1,64}\\\\+[^\\/\s]{1,64}` -/
def uncPath : Regex CodePoint :=
  Regex.all [literal "\\", atLeast 1 (literal "\\"),
    within 1 64 (one fun c => isAsciiAlnum c || oneOf "._$-" c),
    literal "\\", atLeast 1 (literal "\\"),
    within 1 64 (one fun c => !(Text.isSpace c || oneOf "\\/" c))]

/-- `(?<![\w:/.-])/(?:home|Users|root|usr|etc|var|opt|private|mnt|Volumes|tmp|srv)` and then
`(?:/[^\s"',;:)\]}]*)?` -/
def posixAbsolutePath : Regex CodePoint :=
  Regex.all [notBehind fun c => isWord u c || oneOf ":/.-" c, literal "/",
    anyOf (literal "home") [literal "Users", literal "root", literal "usr", literal "etc",
      literal "var", literal "opt", literal "private", literal "mnt", literal "Volumes",
      literal "tmp", literal "srv"],
    optional (seq (literal "/")
      (star (one fun c => !(Text.isSpace c || oneOf "\"',;:)]\x7d" c))))]

/-- `PATTERNS` -/
def PATTERNS : List (Category × Pattern CodePoint) :=
  [(.privateKeyBlock, ⟨privateKeyBlock, Nat.le_of_ble_eq_true rfl⟩),
    (.cloudAccessKey, ⟨cloudAccessKey u, Nat.le_of_ble_eq_true rfl⟩),
    (.providerToken, ⟨providerToken u, Nat.le_of_ble_eq_true rfl⟩),
    (.providerToken, ⟨secretKeyToken u, Nat.le_of_ble_eq_true rfl⟩),
    (.bearerToken, ⟨bearerToken u, Nat.le_of_ble_eq_true rfl⟩),
    (.jwt, ⟨jwt u, Nat.le_of_ble_eq_true rfl⟩),
    (.passwordAssignment, ⟨passwordAssignment u, Nat.le_of_ble_eq_true rfl⟩),
    (.credentialUrl, ⟨credentialUrl u, Nat.le_of_ble_eq_true rfl⟩),
    (.odbcConnectionString, ⟨odbcConnectionString u, Nat.le_of_ble_eq_true rfl⟩),
    (.windowsAbsolutePath, ⟨windowsAbsolutePath u, Nat.le_of_ble_eq_true rfl⟩),
    (.uncPath, ⟨uncPath, Nat.le_of_ble_eq_true rfl⟩),
    (.posixAbsolutePath, ⟨posixAbsolutePath u, Nat.le_of_ble_eq_true rfl⟩)]

end Patterns

/-! ### Violations -/

/-- A record of `find_violations`: a category and a span. -/
abbrev Violation := Cut Category

section Redact

variable (u : Unicode)

/-- `find_violations(text)` -/
def findViolations (text : Text) : List Violation :=
  sortedBy (fun row => toLex (row.start, row.stop))
    ((PATTERNS u).flatMap fun named =>
      (named.2.finditer text).map fun span => ⟨named.1, span.1, span.2⟩)

/-- `ABSOLUTE_PATH_CLASSES` -/
def ABSOLUTE_PATH_CLASSES : List Category :=
  [.windowsAbsolutePath, .posixAbsolutePath, .uncPath]

/-- `REDACTION_PLACEHOLDER.format(category=category)` -/
def placeholder (category : Category) : Text := Text.format ["<redacted:", category.name, ">"]

/-- `text.replace(BACKSLASH, FORWARD_SLASH)` -/
def forwardSlashes (text : Text) : Text :=
  text.map fun c => if c = codePoint '\\' then codePoint '/' else c

/-- `repository_relative_path(raw, root)` -/
def repositoryRelativePath (raw : Text) (root : Option Text) : Option Text :=
  match root with
  | none => none
  | some root =>
    let rootNorm : Text := (forwardSlashes root).rdropWhile fun c => c == codePoint '/'
    let candidate := forwardSlashes raw
    if rootNorm = [] then none
    else if u.lower candidate = u.lower rootNorm then some "."
    else if Text.startsWith (u.lower candidate) (u.lower rootNorm ++ ("/" : Text)) then
      some (candidate.drop (rootNorm.length + 1))
    else none

/-- What the span of a record is replaced by. -/
def replacement (text : Text) (root : Option Text) (row : Violation) : Text :=
  let relative :=
    if row.label ∈ ABSOLUTE_PATH_CLASSES then
      repositoryRelativePath u ((text.take row.stop).drop row.start) root
    else none
  relative.getD (placeholder row.label)

/-- The records as `redact_text` takes them: by start, the last first. -/
def redactionOrder (text : Text) : List Violation :=
  sortedBy (fun row => OrderDual.toDual row.start) (findViolations u text)

/-- `redact_text(text, root)` -/
def redactText (text : Text) (root : Option Text) : Text :=
  (redactionOrder u text).foldl
    (fun out row => out.take row.start ++ replacement u text root row ++ out.drop row.stop) text

/-! ### Reported spans -/

/-- A reported span is a non-empty piece of the text. -/
theorem findViolations_bounds {text : Text} {row : Violation}
    (reported : row ∈ findViolations u text) : row.start < row.stop ∧ row.stop ≤ text.length := by
  rw [findViolations, mem_sortedBy, List.mem_flatMap] at reported
  obtain ⟨⟨category, pattern⟩, -, found⟩ := reported
  obtain ⟨span, matched, rfl⟩ := List.mem_map.mp found
  exact pattern.finditer_bounds matched

/-- The records read from the left. -/
def readingOrder (text : Text) : List Violation := (redactionOrder u text).reverse

theorem mem_readingOrder {text : Text} {row : Violation} :
    row ∈ readingOrder u text ↔ row ∈ findViolations u text := by
  rw [readingOrder, List.mem_reverse, redactionOrder, mem_sortedBy]

theorem readingOrder_sorted (text : Text) :
    (readingOrder u text).Pairwise fun a b => a.start ≤ b.start := by
  rw [readingOrder, List.pairwise_reverse]
  exact sortedBy_pairwise (fun row : Violation => OrderDual.toDual row.start)
    (findViolations u text)

/-! ### Where the characters of an answer come from -/

/-- Without a root the redaction is a run of splices. -/
theorem redactText_eq (text : Text) :
    redactText u text none = spliceAll placeholder (readingOrder u text) text := by
  have plain (row : Violation) : replacement u text none row = placeholder row.label := by
    simp [replacement, repositoryRelativePath]
  rw [redactText, spliceAll, readingOrder, List.foldr_reverse]
  simp only [plain]
  rfl

/-- How long a placeholder is. -/
def placeholderWidth (category : Category) : Nat := (placeholder category).length

theorem placeholderWidth_pos (category : Category) : 0 < placeholderWidth category :=
  List.length_pos_of_ne_nil fun empty => nomatch (List.append_eq_nil_iff.mp empty).1

/-- The origin of each character of `redact_text(text)`. -/
def redactionOrigins (text : Text) : List (Origin Category) :=
  origins placeholderWidth (readingOrder u text) text.length

/-- The character of an origin. -/
def originChar (text : Text) : Origin Category → Option CodePoint
  | .kept offset => text[offset]?
  | .mark category index => (placeholder category)[index]?

/-- The answer is the characters of its origins. -/
theorem redactText_origins (text : Text) :
    (redactText u text none).map some = (redactionOrigins u text).map (originChar text) := by
  have kept : (keptFrom 0 text.length).map (originChar text) = text.map some := by
    rw [keptFrom, List.map_map, Nat.sub_zero, ← List.range_eq_range']
    refine List.ext_getElem (by simp) fun i left right => ?_
    have inside : i < text.length := by simpa using right
    simp [originChar, inside]
  have marks (category : Category) :
      (markOf placeholderWidth category).map (originChar text) =
        (placeholder category).map some := by
    rw [markOf, List.map_map]
    refine List.ext_getElem (by simp [placeholderWidth]) fun i left right => ?_
    have inside : i < (placeholder category).length := by simpa using right
    simp [originChar, inside]
  rw [redactText_eq, redactionOrigins, origins, map_spliceAll, map_spliceAll, kept]
  simp only [marks]

/-! ### The law of redaction -/

/-- Every maximal union of reported spans is replaced by placeholders, and nothing else is lost. -/
def RightlyRedacted (text : Text) : Prop :=
  Replaced (findViolations u text) placeholderWidth text.length 0 (redactionOrigins u text)

/-- The offsets of the original text still land where they should. -/
def OffsetsLand (text : Text) : Prop :=
  Lands (findViolations u text) placeholderWidth text.length (readingOrder u text) 0 0

theorem rightlyRedacted_iff (text : Text) : RightlyRedacted u text ↔ OffsetsLand u text :=
  replaced_iff_lands placeholderWidth_pos (readingOrder_sorted u text) fun _ member =>
    have bounds := findViolations_bounds u ((mem_readingOrder u).mp member)
    bounds.1.le.trans bounds.2

/-- **Redaction leaves no prohibited character, and only those, exactly when its offsets land.** -/
theorem redaction_right_iff (text : Text) :
    (redactText u text none).map some = (redactionOrigins u text).map (originChar text) ∧
      (RightlyRedacted u text ↔ OffsetsLand u text) :=
  ⟨redactText_origins u text, rightlyRedacted_iff u text⟩

end Redact

/-! ### A secret behind a path -/

/-- `str` on ASCII texts. -/
def asciiOnly : Unicode := ⟨isAsciiAlnum, fun text => text.map foldCase⟩

/-- A secret whose value starts like a path. -/
def tokenText : Text := "token=/tmp/a:hunter2secret"

/-- The records of `tokenText`, read from the left: the path lies inside the assignment. -/
theorem readingOrder_tokenText :
    readingOrder asciiOnly tokenText =
      [⟨.passwordAssignment, 0, 26⟩, ⟨.posixAbsolutePath, 6, 12⟩] := by
  decide +kernel

/-- The end of the assignment lands inside the placeholder of the path, and the secret is left. -/
theorem redaction_leaves_secret :
    redactText asciiOnly tokenText none =
        ("<redacted:password_assignment>lute_path>:hunter2secret" : Text) ∧
      ¬ RightlyRedacted asciiOnly tokenText := by
  refine ⟨by decide +kernel, fun right => ?_⟩
  have lands : OffsetsLand asciiOnly tokenText := (rightlyRedacted_iff asciiOnly tokenText).mp right
  have wide : placeholderWidth .posixAbsolutePath = 30 := by decide +kernel
  rw [OffsetsLand, readingOrder_tokenText] at lands
  simp [Lands, Marked, wide] at lands

end AxiomMcp.Security

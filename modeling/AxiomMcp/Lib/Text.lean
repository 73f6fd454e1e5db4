/-
**Text as Python stores it: code points, with lone surrogates.**

A Python `str` is a sequence of code points `0 .. 0x10FFFF`, and it may hold a surrogate that no Lean
`String` can hold. `Text` is that sequence, and its order is Python's: lexicographic by code point.
String literals coerce to it.

* the string methods a program of text identifiers calls: `startsWith`, `endsWith`, `contains`,
  `strip`, `join`, `pyRepr` (what `!r` prints);
* `matchesToEnd`: `re.match` of a pattern closed by `$`, which also matches in front of one last
  line feed.
-/

import Mathlib.Algebra.Order.Ring.Int
import Mathlib.Algebra.Order.Ring.Nat
import Mathlib.Data.List.Infix
import Mathlib.Data.List.Lex
import Mathlib.Data.Fin.Basic
import Mathlib.Order.Fin.Basic

namespace AxiomMcp.Lib

/-- A Unicode code point, surrogates included. -/
abbrev CodePoint := Fin 0x110000

/-- A Python string. -/
abbrev Text := List CodePoint

instance codePointNeZero : NeZero 0x110000 := ⟨by decide⟩

instance codePointLawfulBEq : LawfulBEq CodePoint := inferInstance

instance textLawfulBEq : LawfulBEq Text := inferInstance

/-- Code point of a Lean character. -/
def codePoint (c : Char) : CodePoint :=
  ⟨c.toNat, by
    have valid := c.valid
    change c.val.toNat < 0x110000
    rcases valid with low | high
    · exact lt_trans low (by decide)
    · exact high.2⟩

/-- Literal text. -/
def Text.ofString (s : String) : Text := s.toList.map codePoint

instance : Coe String Text := ⟨Text.ofString⟩

namespace Text

/-! ### Methods of `str` -/

/-- `s.startswith(p)` -/
def startsWith (s p : Text) : Bool := p.isPrefixOf s

/-- `s.endswith(p)` -/
def endsWith (s p : Text) : Bool := p.isSuffixOf s

/-- `p in s` -/
def contains (s p : Text) : Bool := decide (p <:+: s)

/-- The code points `str.strip` removes. -/
def isSpace (c : CodePoint) : Bool :=
  (0x09 ≤ c.val && c.val ≤ 0x0d) || (0x1c ≤ c.val && c.val ≤ 0x20) || c.val == 0x85 ||
    c.val == 0xa0 || c.val == 0x1680 || (0x2000 ≤ c.val && c.val ≤ 0x200a) || c.val == 0x2028 ||
    c.val == 0x2029 || c.val == 0x202f || c.val == 0x205f || c.val == 0x3000

/-- `s.strip()` -/
def strip (s : Text) : Text :=
  ((s.dropWhile isSpace).reverse.dropWhile isSpace).reverse

/-- `sep.join(parts)` -/
def join (sep : Text) (parts : List Text) : Text := (parts.intersperse sep).flatten

/-- A formatted string, given by its parts. -/
def format (parts : List Text) : Text := parts.flatten

/-- `str(n)` of an integer. -/
def ofInt (n : Int) : Text := Text.ofString (toString n)

/-- `str(n)` of a count. -/
def ofNat (n : Nat) : Text := Text.ofString (toString n)

/-! ### `repr` -/

/-- One lower-case hexadecimal digit. -/
def hexDigit (n : Nat) : CodePoint :=
  if n % 16 < 10 then ⟨0x30 + n % 16, by omega⟩ else ⟨0x57 + n % 16, by omega⟩

/-- `width` hexadecimal digits of `n`. -/
def hexDigits : Nat → Nat → Text
  | 0, _ => []
  | width + 1, n => hexDigits width (n / 16) ++ [hexDigit n]

/-- One character inside a quoted `repr`. -/
def reprChar (isPrintable : CodePoint → Bool) (quote c : CodePoint) : Text :=
  if c = quote ∨ c = codePoint '\\' then [codePoint '\\', c]
  else if c = codePoint '\t' then "\\t"
  else if c = codePoint '\n' then "\\n"
  else if c = codePoint '\r' then "\\r"
  else if c.val < 0x20 ∨ c.val = 0x7f then ("\\x" : Text) ++ hexDigits 2 c.val
  else if c.val < 0x7f then [c]
  else if isPrintable c then [c]
  else if c.val ≤ 0xff then ("\\x" : Text) ++ hexDigits 2 c.val
  else if c.val ≤ 0xffff then ("\\u" : Text) ++ hexDigits 4 c.val
  else ("\\U" : Text) ++ hexDigits 8 c.val

/-- `repr(s)`: single quotes, unless the text holds one and no double quote. -/
def pyRepr (isPrintable : CodePoint → Bool) (s : Text) : Text :=
  let single : CodePoint := 0x27
  let double : CodePoint := 0x22
  let quote := if single ∈ s ∧ double ∉ s then double else single
  quote :: s.flatMap (reprChar isPrintable quote) ++ [quote]

/-! ### Patterns -/

/-- A lower-case ASCII letter. -/
def isLowerAscii (c : CodePoint) : Bool := 0x61 ≤ c.val && c.val ≤ 0x7a

/-- An ASCII letter of either case. -/
def isLetterAscii (c : CodePoint) : Bool := isLowerAscii c || (0x41 ≤ c.val && c.val ≤ 0x5a)

/-- An ASCII digit. -/
def isDigitAscii (c : CodePoint) : Bool := 0x30 ≤ c.val && c.val ≤ 0x39

/-- A match of `^…$`: the whole text, or all of it but one final line feed. -/
def matchesToEnd (p : Text → Bool) (s : Text) : Bool :=
  p s || (s.getLast? == some (codePoint '\n') && p s.dropLast)

/-- A match of `^…$` is the whole text exactly when no line feed ends it. -/
theorem matchesToEnd_whole {p : Text → Bool}
    (oneLine : ∀ s, p s = true → s.getLast? ≠ some (codePoint '\n')) {s : Text}
    (found : matchesToEnd p s = true) : p s = true ↔ s.getLast? ≠ some (codePoint '\n') := by
  refine ⟨oneLine s, fun unended => ?_⟩
  rcases Bool.or_eq_true_iff.mp found with whole | ended
  · exact whole
  · exact absurd (eq_of_beq (Bool.and_eq_true_iff.mp ended).1) unended

/-- What a pattern of the form `^…$` accepted: a match, or one with a line feed behind it. -/
theorem matchesToEnd_body {p : Text → Bool} {s : Text} (found : matchesToEnd p s = true) :
    ∃ body, p body = true ∧ (s = body ∨ s = body ++ [codePoint '\n']) := by
  rcases Bool.or_eq_true_iff.mp found with whole | ended
  · exact ⟨s, whole, .inl rfl⟩
  · obtain ⟨last, before⟩ := Bool.and_eq_true_iff.mp ended
    exact ⟨s.dropLast, before, .inr (List.dropLast_append_getLast? _ (eq_of_beq last)).symm⟩

end Text

end AxiomMcp.Lib

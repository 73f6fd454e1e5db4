/-
**UTF-8, as Python's codec reads and writes it.**

`Utf8.encode` refuses a lone surrogate, `Utf8.decode` says what is wrong with the first bytes that are not
UTF-8 and reads back what was encoded (`Utf8.decode_encode`). `Utf8.size` counts the bytes of a text; it
adds up over a concatenation.
-/

import AxiomMcp.Lib.Fallible
import AxiomMcp.Lib.Text
import Mathlib.Algebra.BigOperators.Group.List.Basic

namespace AxiomMcp.Lib

/-- One byte. -/
abbrev Byte := Fin 256

instance byteNeZero : NeZero 256 := ⟨by decide⟩

/-- A byte string. -/
abbrev Bytes := List Byte

/-- A half of a surrogate pair, which UTF-8 does not encode. -/
def CodePoint.isSurrogate (c : CodePoint) : Bool := 0xd800 ≤ c.val && c.val ≤ 0xdfff

namespace Utf8

/-! ### Encoding -/

/-- The bytes of one character. -/
def encodeChar (c : CodePoint) : Bytes :=
  if c.val < 0x80 then [Fin.ofNat 256 c.val]
  else if c.val < 0x800 then
    [Fin.ofNat 256 (0xc0 + c.val / 0x40), Fin.ofNat 256 (0x80 + c.val % 0x40)]
  else if c.val < 0x10000 then
    [Fin.ofNat 256 (0xe0 + c.val / 0x1000), Fin.ofNat 256 (0x80 + c.val / 0x40 % 0x40),
      Fin.ofNat 256 (0x80 + c.val % 0x40)]
  else
    [Fin.ofNat 256 (0xf0 + c.val / 0x40000), Fin.ofNat 256 (0x80 + c.val / 0x1000 % 0x40),
      Fin.ofNat 256 (0x80 + c.val / 0x40 % 0x40), Fin.ofNat 256 (0x80 + c.val % 0x40)]

/-- `s.encode("utf-8")`, where it does not raise. -/
def encode (s : Text) : Option Bytes :=
  if s.any CodePoint.isSurrogate then none else some (s.flatMap encodeChar)

/-- How many bytes a text takes. -/
def size (s : Text) : ℕ := (s.flatMap encodeChar).length

@[simp] theorem size_append (s t : Text) : size (s ++ t) = size s + size t := by
  rw [size, List.flatMap_append, List.length_append]
  rfl

/-- A text without surrogates. -/
def Clean (s : Text) : Prop := ∀ c ∈ s, CodePoint.isSurrogate c = false

theorem clean_append {s t : Text} : Clean (s ++ t) ↔ Clean s ∧ Clean t := List.forall_mem_append

theorem clean_flatten {parts : List Text} :
    Clean parts.flatten ↔ ∀ part ∈ parts, Clean part := by
  induction parts with
  | nil => simp [Clean]
  | cons part rest ih => rw [List.flatten_cons, clean_append, ih, List.forall_mem_cons]

/-- Joined texts are clean when the texts are. -/
theorem clean_join {sep : Text} (clean : Clean sep) {parts : List Text} :
    Clean (Text.join sep parts) ↔ ∀ part ∈ parts, Clean part := by
  rw [Text.join]
  cases parts with
  | nil => simp [Clean]
  | cons part rest =>
    induction rest generalizing part with
    | nil => simp
    | cons next rest ih =>
      rw [List.intersperse_cons_cons, List.flatten_cons, List.flatten_cons, clean_append,
        clean_append, ih]
      simp only [List.forall_mem_cons]
      exact and_congr_right fun _ => and_iff_right clean

/-- Literal text has no surrogates. -/
@[simp] theorem clean_ofString (s : String) : Clean (Text.ofString s) := by
  intro c member
  obtain ⟨char, _, rfl⟩ := List.mem_map.mp member
  have valid := char.valid
  rw [CodePoint.isSurrogate, Bool.and_eq_false_iff, decide_eq_false_iff_not, decide_eq_false_iff_not]
  change char.val.toNat.isValidChar at valid
  change ¬ 0xd800 ≤ char.val.toNat ∨ ¬ char.val.toNat ≤ 0xdfff
  rcases valid with low | high
  · exact Or.inl (by omega)
  · exact Or.inr (by omega)

theorem encode_of_clean {s : Text} (clean : Clean s) : encode s = some (s.flatMap encodeChar) := by
  rw [encode, if_neg]
  simpa [Clean] using clean

theorem encode_of_not_clean {s : Text} (dirty : ¬ Clean s) : encode s = none := by
  rw [encode, if_pos]
  rw [Clean] at dirty
  simpa using dirty

/-! ### Decoding -/

/-- What is wrong with bytes that are not UTF-8. -/
inductive Fault
  | invalidStart | invalidContinuation | unexpectedEnd
  deriving DecidableEq, Repr

/-- `exc.reason` -/
def Fault.reason : Fault → Text
  | .invalidStart => "invalid start byte"
  | .invalidContinuation => "invalid continuation byte"
  | .unexpectedEnd => "unexpected end of data"

/-- A continuation byte in a range, as its six bits. -/
def continuation (low high : ℕ) : Bytes → Except Fault (ℕ × Bytes)
  | [] => .error .unexpectedEnd
  | b :: rest =>
    if low ≤ b.val ∧ b.val ≤ high then .ok (b.val % 0x40, rest) else .error .invalidContinuation

/-- The first character, with the bytes after it. The second byte of some characters is limited further,
so that no surrogate, no code point above the last and no overlong form is read. -/
def decodeChar : Bytes → Except Fault (CodePoint × Bytes)
  | [] => .error .unexpectedEnd
  | a :: rest =>
    if a.val < 0x80 then .ok (Fin.ofNat 0x110000 a.val, rest)
    else if a.val < 0xc2 then .error .invalidStart
    else if a.val < 0xe0 then do
      let (b, rest) ← continuation 0x80 0xbf rest
      return (Fin.ofNat 0x110000 ((a.val - 0xc0) * 0x40 + b), rest)
    else if a.val < 0xf0 then do
      let low := if a.val = 0xe0 then 0xa0 else 0x80
      let high := if a.val = 0xed then 0x9f else 0xbf
      let (b, rest) ← continuation low high rest
      let (c, rest) ← continuation 0x80 0xbf rest
      return (Fin.ofNat 0x110000 (((a.val - 0xe0) * 0x40 + b) * 0x40 + c), rest)
    else if a.val < 0xf5 then do
      let low := if a.val = 0xf0 then 0x90 else 0x80
      let high := if a.val = 0xf4 then 0x8f else 0xbf
      let (b, rest) ← continuation low high rest
      let (c, rest) ← continuation 0x80 0xbf rest
      let (d, rest) ← continuation 0x80 0xbf rest
      return (Fin.ofNat 0x110000 ((((a.val - 0xf0) * 0x40 + b) * 0x40 + c) * 0x40 + d), rest)
    else .error .invalidStart

/-- The loop of the decoder; a character takes at least one byte. -/
def decodeChars : ℕ → Bytes → Except Fault Text
  | _, [] => .ok []
  | 0, _ => .ok []
  | rounds + 1, bytes => do
    let (c, rest) ← decodeChar bytes
    return c :: (← decodeChars rounds rest)

/-- `data.decode("utf-8")` -/
def decode (bytes : Bytes) : Except Fault Text := decodeChars bytes.length bytes

/-! ### Decoding what was encoded -/

theorem val_ofNat {n : ℕ} (small : n < 256) : (Fin.ofNat 256 n).val = n := Nat.mod_eq_of_lt small

/-- A continuation byte is read as its six bits. -/
theorem continuation_cons {low high n : ℕ} (small : n < 256) (inside : low ≤ n ∧ n ≤ high)
    (rest : Bytes) : continuation low high (Fin.ofNat 256 n :: rest) = .ok (n % 0x40, rest) := by
  rw [continuation, val_ofNat small, if_pos inside]

/-- A character that can be encoded is read back. -/
theorem decodeChar_encodeChar {c : CodePoint} (clean : CodePoint.isSurrogate c = false)
    (rest : Bytes) : decodeChar (encodeChar c ++ rest) = .ok (c, rest) := by
  have bound := c.isLt
  have plain : ¬ (0xd800 ≤ c.val ∧ c.val ≤ 0xdfff) := by
    rw [CodePoint.isSurrogate] at clean
    simpa using clean
  have same : ∀ {n : ℕ}, n = c.val → Fin.ofNat 0x110000 n = c := fun here =>
    Fin.ext (by rw [here]; exact Nat.mod_eq_of_lt bound)
  unfold encodeChar
  split
  · next ascii =>
    rw [List.singleton_append, decodeChar, val_ofNat (by omega), if_pos ascii, same rfl]
  split
  · next notAscii two =>
    rw [List.cons_append, List.cons_append, List.nil_append, decodeChar, val_ofNat (by omega),
      if_neg (by omega), if_neg (by omega), if_pos (by omega),
      continuation_cons (by omega) ⟨by omega, by omega⟩, ok_bind]
    dsimp only
    rw [same (by omega)]
    rfl
  split
  · next notTwo three =>
    rw [List.cons_append, List.cons_append, List.cons_append, List.nil_append, decodeChar,
      val_ofNat (by omega), if_neg (by omega), if_neg (by omega), if_neg (by omega),
      if_pos (by omega)]
    dsimp only
    rw [continuation_cons (by omega) ⟨by split <;> omega, by split <;> omega⟩, ok_bind]
    dsimp only
    rw [continuation_cons (by omega) ⟨by omega, by omega⟩, ok_bind]
    dsimp only
    rw [same (by omega)]
    rfl
  · next notThree =>
    rw [List.cons_append, List.cons_append, List.cons_append, List.cons_append, List.nil_append,
      decodeChar, val_ofNat (by omega), if_neg (by omega), if_neg (by omega), if_neg (by omega),
      if_neg (by omega), if_pos (by omega)]
    dsimp only
    rw [continuation_cons (by omega) ⟨by split <;> omega, by split <;> omega⟩, ok_bind]
    dsimp only
    rw [continuation_cons (by omega) ⟨by omega, by omega⟩, ok_bind]
    dsimp only
    rw [continuation_cons (by omega) ⟨by omega, by omega⟩, ok_bind]
    dsimp only
    rw [same (by omega)]
    rfl

theorem encodeChar_ne_nil (c : CodePoint) : encodeChar c ≠ [] := by
  unfold encodeChar
  split
  · exact List.cons_ne_nil _ _
  split
  · exact List.cons_ne_nil _ _
  split
  · exact List.cons_ne_nil _ _
  · exact List.cons_ne_nil _ _

theorem decodeChars_flatMap {s : Text} (clean : Clean s) (rounds : ℕ) (enough : s.length ≤ rounds) :
    decodeChars rounds (s.flatMap encodeChar) = .ok s := by
  induction s generalizing rounds with
  | nil =>
    cases rounds <;> rfl
  | cons c s ih =>
    obtain ⟨n, rfl⟩ := Nat.exists_eq_add_one_of_ne_zero
      (Nat.ne_of_gt (lt_of_lt_of_le (Nat.succ_pos s.length) enough))
    have later := ih (fun d member => clean d (List.mem_cons_of_mem _ member)) n
      (Nat.le_of_succ_le_succ enough)
    rw [List.flatMap_cons]
    cases shown : encodeChar c ++ s.flatMap encodeChar with
    | nil => exact (encodeChar_ne_nil c (List.append_eq_nil_iff.mp shown).1).elim
    | cons b bytes =>
      rw [decodeChars, ← shown, decodeChar_encodeChar (clean c List.mem_cons_self), ok_bind]
      · dsimp only
        rw [later]
        rfl
      · exact List.cons_ne_nil b bytes

/-- **Encoded text is read back.** -/
theorem decode_encode {s : Text} {bytes : Bytes} (encoded : encode s = some bytes) :
    decode bytes = .ok s := by
  have clean : Clean s := by
    by_contra dirty
    rw [encode_of_not_clean dirty] at encoded
    cases encoded
  rw [encode_of_clean clean] at encoded
  cases encoded
  refine decodeChars_flatMap clean _ ?_
  clear clean
  induction s with
  | nil => exact le_rfl
  | cons c s ih =>
    have some := List.length_pos_of_ne_nil (encodeChar_ne_nil c)
    rw [List.flatMap_cons, List.length_append, List.length_cons]
    omega

/-- Two texts with one encoding are one text. -/
theorem encode_injective {s t : Text} {bytes : Bytes} (left : encode s = some bytes)
    (right : encode t = some bytes) : s = t :=
  Except.ok.inj ((decode_encode left).symm.trans (decode_encode right))

end Utf8

/-- No two of these inputs have the same digest. -/
def CollisionFree (digest : Bytes → Text) (inputs : List Bytes) : Prop :=
  ∀ one ∈ inputs, ∀ other ∈ inputs, digest one = digest other → one = other

theorem CollisionFree.mono {digest : Bytes → Text} {inputs fewer : List Bytes}
    (free : CollisionFree digest inputs) (among : fewer ⊆ inputs) : CollisionFree digest fewer :=
  fun one here other there => free one (among here) other (among there)

end AxiomMcp.Lib

/-
**`json.loads`, as the C scanner of CPython 3.13 does it.**

`Json.loads` reads one value from a text: whitespace around it, the escapes and surrogate pairs of a
string, the number forms, `NaN` and the infinities, and a repeated key, which keeps its first place and
its last value. What it refuses is a `Json.LoadFault`: a `JSONDecodeError` with its message, or the plain
`ValueError` of an integer with more digits than the interpreter converts.

The scanner calls itself once for each bracket and each item, so its rounds are counted; `loads_total`
says that it never runs out of them.
-/

import AxiomMcp.Lib.Dict
import AxiomMcp.Lib.Fallible
import AxiomMcp.Lib.Json

namespace AxiomMcp.Lib

namespace Json

/-- Why `json.loads` raises. -/
inductive LoadFault
  /-- A `JSONDecodeError`, by its `msg`. -/
  | notJson (message : Text)
  /-- The `ValueError` of `int`, for a literal of so many digits. -/
  | tooManyDigits (digits : ℕ)
  /-- The rounds are used up; see `loads_total`. -/
  | exhausted
  deriving DecidableEq

/-! ### Strings -/

/-- The value of a hexadecimal digit. -/
def hexValue (c : CodePoint) : Option ℕ :=
  if Text.isDigitAscii c then some (c.val - 0x30)
  else if 0x61 ≤ c.val ∧ c.val ≤ 0x66 then some (c.val - 0x57)
  else if 0x41 ≤ c.val ∧ c.val ≤ 0x46 then some (c.val - 0x37)
  else none

/-- The value of four hexadecimal digits. -/
def hexQuad (a b c d : CodePoint) : Option ℕ := do
  return ((← hexValue a) * 16 + (← hexValue b)) * 256 + ((← hexValue c) * 16 + (← hexValue d))

/-- The character a one-letter escape stands for. -/
def unescape (c : CodePoint) : Option CodePoint :=
  if c = codePoint '"' ∨ c = codePoint '\\' ∨ c = codePoint '/' then some c
  else if c = codePoint 'b' then some 0x08
  else if c = codePoint 'f' then some 0x0c
  else if c = codePoint 'n' then some 0x0a
  else if c = codePoint 'r' then some 0x0d
  else if c = codePoint 't' then some 0x09
  else none

/-- A high and a low surrogate as one character. -/
def joinSurrogates (high low : ℕ) : CodePoint :=
  Fin.ofNat 0x110000 (0x10000 + (high - 0xd800) * 0x400 + (low - 0xdc00))

def unterminated : LoadFault := .notJson "Unterminated string starting at"

def invalidHex : LoadFault := .notJson "Invalid \\uXXXX escape"

/-- One more character in front of a scanned string. -/
def followedBy (c : CodePoint) (read : Text × Text) : Text × Text := (c :: read.1, read.2)

/-- `scanstring(s, end)`: the string whose opening quote was just read. -/
def scanString : Text → Except LoadFault (Text × Text)
  | [] => .error unterminated
  | c :: rest =>
    if c = codePoint '"' then .ok ([], rest)
    else if c = codePoint '\\' then
      match rest with
      | [] => .error unterminated
      | e :: rest =>
        if e = codePoint 'u' then
          match rest with
          | h₁ :: h₂ :: h₃ :: h₄ :: rest =>
            if rest = [] then .error invalidHex
            else
              match hexQuad h₁ h₂ h₃ h₄ with
              | none => .error invalidHex
              | some high =>
                if 0xd800 ≤ high ∧ high ≤ 0xdbff then
                  match rest with
                  | b :: u :: l₁ :: l₂ :: l₃ :: l₄ :: after =>
                    if b = codePoint '\\' ∧ u = codePoint 'u' ∧ after ≠ [] then
                      match hexQuad l₁ l₂ l₃ l₄ with
                      | none => .error invalidHex
                      | some low =>
                        if 0xdc00 ≤ low ∧ low ≤ 0xdfff then
                          (scanString after).map (followedBy (joinSurrogates high low))
                        else
                          (scanString (b :: u :: l₁ :: l₂ :: l₃ :: l₄ :: after)).map
                            (followedBy (Fin.ofNat 0x110000 high))
                    else
                      (scanString (b :: u :: l₁ :: l₂ :: l₃ :: l₄ :: after)).map
                        (followedBy (Fin.ofNat 0x110000 high))
                  | rest => (scanString rest).map (followedBy (Fin.ofNat 0x110000 high))
                else (scanString rest).map (followedBy (Fin.ofNat 0x110000 high))
          | _ => .error invalidHex
        else
          match unescape e with
          | none => .error (.notJson "Invalid \\escape")
          | some read => (scanString rest).map (followedBy read)
    else if c.val ≤ 0x1f then .error (.notJson "Invalid control character at")
    else (scanString rest).map (followedBy c)

/-! ### Numbers -/

/-- The digits a text starts with, and the text after them. -/
def scanDigits (text : Text) : Text × Text := text.span Text.isDigitAscii

/-- The number a run of digits stands for. -/
def digitsValue (digits : Text) : ℕ := digits.foldl (fun n c => 10 * n + (c.val - 0x30)) 0

/-- The fraction a text starts with: a point and at least one digit. -/
def scanFraction : Text → Text × Text
  | p :: d :: rest =>
    if p = codePoint '.' ∧ Text.isDigitAscii d then
      let (digits, rest) := scanDigits rest
      (p :: d :: digits, rest)
    else ([], p :: d :: rest)
  | text => ([], text)

/-- The sign an exponent starts with. -/
def scanSign : Text → Text × Text
  | c :: rest => if c = codePoint '-' ∨ c = codePoint '+' then ([c], rest) else ([], c :: rest)
  | [] => ([], [])

/-- The exponent a text starts with; without a digit there is none. -/
def scanExponent : Text → Text × Text
  | c :: rest =>
    if c = codePoint 'e' ∨ c = codePoint 'E' then
      let sign := scanSign rest
      let digits := scanDigits sign.2
      if digits.1 = [] then ([], c :: rest) else (c :: sign.1 ++ digits.1, digits.2)
    else ([], c :: rest)
  | [] => ([], [])

def expectingValue : LoadFault := .notJson "Expecting value"

/-- `int(digits)`, with the sign in front of them. -/
def scanInteger (py : Interpreter) (negative : Bool) (digits rest : Text) : Except LoadFault (Json × Text) :=
  if py.maxStrDigits ≠ 0 ∧ py.maxStrDigits < digits.length then .error (.tooManyDigits digits.length)
  else .ok (.int (if negative then -(digitsValue digits : ℤ) else digitsValue digits), rest)

/-- The digits in front of the point: a zero stands alone. -/
def scanWhole (d : CodePoint) (rest : Text) : Text × Text :=
  if d = codePoint '0' then ([d], rest)
  else
    let (digits, rest) := scanDigits rest
    (d :: digits, rest)

/-- A number without its sign. -/
def scanUnsigned (py : Interpreter) (negative : Bool) : Text → Except LoadFault (Json × Text)
  | [] => .error expectingValue
  | d :: rest =>
    if Text.isDigitAscii d then
      let (whole, rest) := scanWhole d rest
      let (fraction, rest) := scanFraction rest
      let (exponent, rest) := scanExponent rest
      if fraction = [] ∧ exponent = [] then scanInteger py negative whole rest
      else
        let sign : Text := if negative then "-" else []
        .ok (.float (py.floatOf (sign ++ whole ++ fraction ++ exponent)), rest)
    else .error expectingValue

/-- `_match_number_unicode` -/
def scanNumber (py : Interpreter) : Text → Except LoadFault (Json × Text)
  | [] => .error expectingValue
  | c :: rest =>
    if c = codePoint '-' then scanUnsigned py true rest else scanUnsigned py false (c :: rest)

/-! ### Values -/

/-- The characters JSON allows around a value. -/
def isJsonSpace (c : CodePoint) : Bool :=
  c == codePoint ' ' || c == codePoint '\t' || c == codePoint '\n' || c == codePoint '\r'

def skipSpace (text : Text) : Text := text.dropWhile isJsonSpace

/-- The constants, by their spelling. -/
def constants : List (Text × Json) :=
  [("null", .null), ("true", .bool true), ("false", .bool false), ("NaN", .float ⟨0x7ff8000000000000⟩),
    ("Infinity", .float ⟨0x7ff0000000000000⟩), ("-Infinity", .float ⟨0xfff0000000000000⟩)]

/-- A constant or a number. -/
def scanScalar (py : Interpreter) (text : Text) : Except LoadFault (Json × Text) :=
  match constants.find? fun constant => text.startsWith constant.1 with
  | some (spelling, value) => .ok (value, text.drop spelling.length)
  | none => scanNumber py text

/-- The dictionary of the items read, a repeated key stored once. -/
def objectOf (items : List (Text × Json)) : JsonObject :=
  (items.foldl (fun (read : Dict Text Json) item => read.set item.1 item.2) Dict.empty).entries

/-- A key with the colon after it. -/
def scanKey : Text → Except LoadFault (Text × Text)
  | [] => .error (.notJson "Expecting property name enclosed in double quotes")
  | q :: rest =>
    if q = codePoint '"' then do
      let (key, rest) ← scanString rest
      match skipSpace rest with
      | [] => .error (.notJson "Expecting ':' delimiter")
      | colon :: after =>
        if colon = codePoint ':' then return (key, skipSpace after)
        else .error (.notJson "Expecting ':' delimiter")
    else .error (.notJson "Expecting property name enclosed in double quotes")

mutual
/-- `scan_once(text)` -/
def scanOnce (py : Interpreter) : ℕ → Text → Except LoadFault (Json × Text)
  | 0, _ => .error .exhausted
  | _ + 1, [] => .error expectingValue
  | rounds + 1, c :: rest =>
    if c = codePoint '"' then do
      let (s, rest) ← scanString rest
      return (.str s, rest)
    else if c = codePoint '\x7b' then
      let next := skipSpace rest
      if next.head? = some (codePoint '\x7d') then .ok (.obj [], next.tail)
      else do
        let (items, rest) ← scanEntries py rounds next
        return (.obj (objectOf items), rest)
    else if c = codePoint '[' then
      let next := skipSpace rest
      if next.head? = some (codePoint ']') then .ok (.arr [], next.tail)
      else do
        let (items, rest) ← scanItems py rounds next
        return (.arr items, rest)
    else scanScalar py (c :: rest)

/-- The items of an array, up to its bracket. -/
def scanItems (py : Interpreter) : ℕ → Text → Except LoadFault (List Json × Text)
  | 0, _ => .error .exhausted
  | rounds + 1, text => do
    let (item, rest) ← scanOnce py rounds text
    match skipSpace rest with
    | [] => .error (.notJson "Expecting ',' delimiter")
    | d :: after =>
      if d = codePoint ']' then return ([item], after)
      else if d = codePoint ',' then
        let next := skipSpace after
        if next.head? = some (codePoint ']') then
          .error (.notJson "Illegal trailing comma before end of array")
        else
          let (items, rest) ← scanItems py rounds next
          return (item :: items, rest)
      else .error (.notJson "Expecting ',' delimiter")

/-- The items of an object, up to its brace. -/
def scanEntries (py : Interpreter) : ℕ → Text → Except LoadFault (List (Text × Json) × Text)
  | 0, _ => .error .exhausted
  | rounds + 1, text => do
    let (key, rest) ← scanKey text
    let (value, rest) ← scanOnce py rounds rest
    match skipSpace rest with
    | [] => .error (.notJson "Expecting ',' delimiter")
    | d :: after =>
      if d = codePoint '\x7d' then return ([(key, value)], after)
      else if d = codePoint ',' then
        let next := skipSpace after
        if next.head? = some (codePoint '\x7d') then
          .error (.notJson "Illegal trailing comma before end of object")
        else
          let (items, rest) ← scanEntries py rounds next
          return ((key, value) :: items, rest)
      else .error (.notJson "Expecting ',' delimiter")
end

/-- Rounds for a text of so many characters. -/
def roundsFor (length : ℕ) : ℕ := 2 * length + 2

/-- `json.loads(text)` -/
def loads (py : Interpreter) (text : Text) : Except LoadFault Json :=
  if text.head? = some 0xfeff then
    .error (.notJson "Unexpected UTF-8 BOM (decode using utf-8-sig)")
  else do
    let (value, rest) ← scanOnce py (roundsFor text.length) (skipSpace text)
    if skipSpace rest = [] then return value else .error (.notJson "Extra data")

/-! ### Every scan ends -/

variable {α : Type}

/-- A scanner that reads something, or says what it misses. -/
def Advances (text : Text) : Except LoadFault (α × Text) → Prop
  | .ok (_, rest) => rest.length < text.length
  | .error fault => fault ≠ .exhausted

/-- A step that starts from a suffix and reads no further back. -/
theorem Advances.bind {β : Type} {text : Text} {first : Except LoadFault (α × Text)}
    {next : α × Text → Except LoadFault (β × Text)} (advances : Advances text first)
    (later : ∀ a rest, rest.length < text.length → Advances text (next (a, rest))) :
    Advances text (first >>= next) := by
  cases first with
  | error fault => exact advances
  | ok read => exact later read.1 read.2 advances

theorem Advances.mono {text longer : Text} {outcome : Except LoadFault (α × Text)}
    (advances : Advances text outcome) (shorter : text.length ≤ longer.length) :
    Advances longer outcome := by
  cases outcome with
  | error fault => exact advances
  | ok read => exact lt_of_lt_of_le advances shorter

theorem Advances.cons {text : Text} {outcome : Except LoadFault (α × Text)}
    (advances : Advances text outcome) (c : CodePoint) : Advances (c :: text) outcome :=
  advances.mono (Nat.le_succ text.length)

theorem Advances.map {β : Type} {text : Text} {outcome : Except LoadFault (α × Text)}
    {f : α × Text → β × Text} (advances : Advances text outcome) (same : ∀ read, (f read).2 = read.2) :
    Advances text (outcome.map f) := by
  cases outcome with
  | error fault => exact advances
  | ok read =>
    change (f read).2.length < text.length
    rw [same]
    exact advances

theorem scanString_advances (text : Text) : Advances text (scanString text) := by
  have consumed : ∀ {s t : Text} {c : CodePoint}, Advances s (scanString s) → s.length ≤ t.length →
      Advances t ((scanString s).map (followedBy c)) := fun advances shorter =>
    (advances.mono shorter).map fun _ => rfl
  fun_induction scanString text with
  | case2 rest => exact Nat.lt_succ_self rest.length
  | case7 | case8 | case9 | case10 | case11 | case14 | case16 => 
    refine consumed ‹_› ?_
    simp only [List.length_cons]
    omega
  | _ => exact LoadFault.noConfusion

theorem span_length (text : Text) (p : CodePoint → Bool) : (text.span p).2.length ≤ text.length := by
  rw [List.span_eq_takeWhile_dropWhile]
  exact (List.dropWhile_sublist p).length_le

theorem scanFraction_length (text : Text) : (scanFraction text).2.length ≤ text.length := by
  unfold scanFraction
  split
  · next p d rest =>
    split
    · have run := span_length rest Text.isDigitAscii
      simp only [scanDigits, List.length_cons]
      omega
    · exact le_rfl
  · exact le_rfl

theorem scanSign_length (text : Text) : (scanSign text).2.length ≤ text.length := by
  unfold scanSign
  split
  · split <;> simp
  · exact le_rfl

theorem scanExponent_length (text : Text) : (scanExponent text).2.length ≤ text.length := by
  unfold scanExponent
  split
  · next c rest =>
    split
    · have sign := scanSign_length rest
      have run := span_length (scanSign rest).2 Text.isDigitAscii
      dsimp only
      split
      · exact le_rfl
      · rw [List.length_cons]
        exact run.trans (sign.trans (Nat.le_succ _))
    · exact le_rfl
  · exact le_rfl

theorem scanWhole_length (d : CodePoint) (rest : Text) :
    (scanWhole d rest).2.length ≤ rest.length := by
  unfold scanWhole
  split
  · exact le_rfl
  · exact span_length rest _

theorem scanUnsigned_advances (py : Interpreter) (negative : Bool) (text : Text) :
    Advances text (scanUnsigned py negative text) := by
  cases text with
  | nil => exact LoadFault.noConfusion
  | cons d rest =>
    rw [scanUnsigned]
    split
    · have whole := scanWhole_length d rest
      have fraction := scanFraction_length (scanWhole d rest).2
      have exponent := scanExponent_length (scanFraction (scanWhole d rest).2).2
      have shorter : (scanExponent (scanFraction (scanWhole d rest).2).2).2.length <
          (d :: rest).length := by
        rw [List.length_cons]
        omega
      dsimp only
      split
      · unfold scanInteger
        split
        · exact LoadFault.noConfusion
        · exact shorter
      · exact shorter
    · exact LoadFault.noConfusion

theorem scanNumber_advances (py : Interpreter) (text : Text) :
    Advances text (scanNumber py text) := by
  cases text with
  | nil => exact LoadFault.noConfusion
  | cons c rest =>
    rw [scanNumber]
    split
    · exact (scanUnsigned_advances py true rest).cons c
    · exact scanUnsigned_advances py false (c :: rest)

theorem scanScalar_advances (py : Interpreter) (text : Text) :
    Advances text (scanScalar py text) := by
  unfold scanScalar
  split
  · next spelling value found =>
    have starts : text.startsWith spelling = true := by
      have passes := List.find?_some found
      exact passes
    have member := List.mem_of_find?_eq_some found
    have shorter : spelling.length ≤ text.length :=
      (List.isPrefixOf_iff_prefix.mp starts).length_le
    have some : 0 < spelling.length := by
      revert member
      simp only [constants, List.mem_cons, Prod.mk.injEq]
      rintro (⟨rfl, _⟩ | ⟨rfl, _⟩ | ⟨rfl, _⟩ | ⟨rfl, _⟩ | ⟨rfl, _⟩ | ⟨rfl, _⟩ | none)
      all_goals first | decide | skip
      exact (List.not_mem_nil none).elim
    change (text.drop spelling.length).length < text.length
    rw [List.length_drop]
    omega
  · exact scanNumber_advances py text

theorem skipSpace_length (text : Text) : (skipSpace text).length ≤ text.length :=
  (List.dropWhile_sublist _).length_le

theorem scanKey_advances (text : Text) : Advances text (scanKey text) := by
  cases text with
  | nil => exact LoadFault.noConfusion
  | cons q rest =>
    rw [scanKey]
    split
    · refine ((scanString_advances rest).cons q).bind fun key after shorter => ?_
      dsimp only
      have space := skipSpace_length after
      split
      · exact LoadFault.noConfusion
      · next colon later here =>
        rw [here, List.length_cons] at space
        split
        · exact lt_of_le_of_lt ((skipSpace_length later).trans (by omega)) shorter
        · exact LoadFault.noConfusion
    · exact LoadFault.noConfusion

/-- With two rounds for each character the scanners do not run out of rounds. -/
theorem scan_advances (py : Interpreter) (rounds : ℕ) :
    (∀ text : Text, 2 * text.length < rounds → Advances text (scanOnce py rounds text)) ∧
      (∀ text : Text, 2 * text.length + 1 < rounds → Advances text (scanItems py rounds text)) ∧
        ∀ text : Text, 2 * text.length + 1 < rounds → Advances text (scanEntries py rounds text) := by
  induction rounds with
  | zero => exact ⟨fun _ none => absurd none (by omega), fun _ none => absurd none (by omega),
      fun _ none => absurd none (by omega)⟩
  | succ rounds ih =>
    obtain ⟨once, items, entries⟩ := ih
    refine ⟨fun text enough => ?_, fun text enough => ?_, fun text enough => ?_⟩
    · cases text with
      | nil => exact LoadFault.noConfusion
      | cons c rest =>
        rw [List.length_cons] at enough
        have space := skipSpace_length rest
        rw [scanOnce]
        split
        · exact ((scanString_advances rest).cons c).bind
            fun s after shorter => shorter
        split
        · dsimp only
          split
          · exact lt_of_le_of_lt (List.tail_sublist _).length_le (Nat.lt_succ_of_le space)
          · exact ((entries (skipSpace rest) (by omega)).mono (by rw [List.length_cons]; omega)).bind
              fun _ after shorter => shorter
        split
        · dsimp only
          split
          · exact lt_of_le_of_lt (List.tail_sublist _).length_le (Nat.lt_succ_of_le space)
          · exact ((items (skipSpace rest) (by omega)).mono (by rw [List.length_cons]; omega)).bind
              fun _ after shorter => shorter
        exact scanScalar_advances py (c :: rest)
    · rw [scanItems]
      refine (once text (by omega)).bind fun item after shorter => ?_
      have space := skipSpace_length after
      dsimp only
      split
      · exact LoadFault.noConfusion
      · next d later here =>
        have next := skipSpace_length later
        rw [here, List.length_cons] at space
        split
        · exact lt_trans (Nat.lt_of_succ_le space) shorter
        split
        · split
          · exact LoadFault.noConfusion
          · exact ((items (skipSpace later) (by omega)).mono (by omega)).bind
              fun _ rest shorter => shorter
        · exact LoadFault.noConfusion
    · rw [scanEntries]
      refine (scanKey_advances text).bind fun key after shorter => ?_
      dsimp only
      refine ((once after (by omega)).mono shorter.le).bind fun value after' shorter' => ?_
      have space := skipSpace_length after'
      dsimp only
      split
      · exact LoadFault.noConfusion
      · next d later here =>
        have next := skipSpace_length later
        rw [here, List.length_cons] at space
        split
        · exact lt_trans (Nat.lt_of_succ_le space) shorter'
        split
        · split
          · exact LoadFault.noConfusion
          · exact ((entries (skipSpace later) (by omega)).mono (by omega)).bind
              fun _ rest shorter => shorter
        · exact LoadFault.noConfusion

/-- The loader never runs out of rounds. -/
theorem loads_total (py : Interpreter) (text : Text) : loads py text ≠ .error .exhausted := by
  unfold loads
  split
  · exact fun none => nomatch none
  · have enough : 2 * (skipSpace text).length < roundsFor text.length := by
      have space := skipSpace_length text
      unfold roundsFor
      omega
    have advances := (scan_advances py (roundsFor text.length)).1 (skipSpace text) enough
    generalize scanOnce py (roundsFor text.length) (skipSpace text) = outcome at advances ⊢
    cases outcome with
    | error fault =>
      rintro ⟨⟩
      exact advances rfl
    | ok read =>
      change (if skipSpace read.2 = [] then _ else _) ≠ _
      split
      · exact fun none => nomatch none
      · exact fun none => nomatch none

end Json

end AxiomMcp.Lib

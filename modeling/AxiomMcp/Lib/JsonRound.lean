/-
**What `json.dumps` prints, `json.loads` reads back.**

* `loads_compactText`: the compact text of a value, with a line feed after it, is read as the value with
  the keys of its objects in order. Floats are left out, integers stay inside the digit limit;
* `Json.Same`: two values that are equal in Python and of the same types, whatever the order of the
  keys; `compactText_injective`: only these have one text.
-/

import AxiomMcp.Lib.JsonParse
import AxiomMcp.Lib.JsonText

namespace AxiomMcp.Lib

namespace Json

/-! ### Values by their parts -/

/-- Induction over a value and the members of its containers. -/
theorem induct {P : Json → Prop} (null : P .null) (bool : ∀ value, P (.bool value))
    (int : ∀ value, P (.int value)) (float : ∀ value, P (.float value)) (str : ∀ value, P (.str value))
    (arr : ∀ items : List Json, (∀ item ∈ items, P item) → P (.arr items))
    (obj : ∀ entries : JsonObject, (∀ item ∈ entries, P item.2) → P (.obj entries)) : ∀ v, P v
  | .arr items => arr items fun item _ => induct null bool int float str arr obj item
  | .obj entries => obj entries fun item _ => induct null bool int float str arr obj item.2
  | .str value => str value
  | .float value => float value
  | .int value => int value
  | .bool value => bool value
  | .null => null
termination_by v => sizeOf v
decreasing_by
  · have smaller := List.sizeOf_lt_of_mem ‹item ∈ items›
    simp only [Json.arr.sizeOf_spec]
    omega
  · have smaller := List.sizeOf_lt_of_mem ‹item ∈ entries›
    have inside : sizeOf item.2 < sizeOf item := by
      cases item
      simp only [Prod.mk.sizeOf_spec]
      omega
    simp only [Json.obj.sizeOf_spec]
    omega

mutual
/-- The value with the keys of its objects in order. -/
def sorted : Json → Json
  | .arr items => .arr (sortedItems items)
  | .obj entries => .obj (sortedBy Prod.fst (sortedEntries entries))
  | v => v

def sortedItems : List Json → List Json
  | [] => []
  | item :: rest => sorted item :: sortedItems rest

def sortedEntries : JsonObject → JsonObject
  | [] => []
  | (key, value) :: rest => (key, sorted value) :: sortedEntries rest
end

/-- An item with its value sorted. -/
def sortedItem (item : Text × Json) : Text × Json := (item.1, item.2.sorted)

theorem sorted_arr (items : List Json) : sorted (.arr items) = .arr (items.map sorted) := by
  rw [sorted]
  congr 1
  induction items with
  | nil => rfl
  | cons item rest ih => rw [sortedItems, ih, List.map_cons]

theorem sorted_obj (entries : JsonObject) :
    sorted (.obj entries) = .obj ((sortedBy Prod.fst entries).map sortedItem) := by
  have each : sortedEntries entries = entries.map sortedItem := by
    induction entries with
    | nil => rfl
    | cons item rest ih => rw [sortedEntries, ih, List.map_cons, sortedItem]
  rw [sorted, each, map_sortedBy sortedItem Prod.fst Prod.fst entries fun item _ => rfl]

mutual
/-- No float anywhere in the value. -/
def noFloat : Json → Bool
  | .float _ => false
  | .arr items => noFloatItems items
  | .obj entries => noFloatEntries entries
  | _ => true

def noFloatItems : List Json → Bool
  | [] => true
  | item :: rest => noFloat item && noFloatItems rest

def noFloatEntries : JsonObject → Bool
  | [] => true
  | (_, value) :: rest => noFloat value && noFloatEntries rest
end

theorem noFloat_arr {items : List Json} :
    noFloat (.arr items) = true ↔ ∀ item ∈ items, noFloat item = true := by
  rw [noFloat]
  induction items with
  | nil => simp [noFloatItems]
  | cons item rest ih => rw [noFloatItems, Bool.and_eq_true, ih, List.forall_mem_cons]

theorem noFloat_obj {entries : JsonObject} :
    noFloat (.obj entries) = true ↔ ∀ item ∈ entries, noFloat item.2 = true := by
  rw [noFloat]
  induction entries with
  | nil => simp [noFloatEntries]
  | cons item rest ih => rw [noFloatEntries, Bool.and_eq_true, ih, List.forall_mem_cons]

theorem wellFormed_arr {items : List Json} :
    WellFormed (.arr items) ↔ ∀ item ∈ items, WellFormed item := by
  rw [WellFormed]
  induction items with
  | nil => simp [WellFormedItems]
  | cons item rest ih => rw [WellFormedItems, ih, List.forall_mem_cons]

theorem wellFormed_obj {entries : JsonObject} :
    WellFormed (.obj entries) ↔
      (entries.map Prod.fst).Nodup ∧ ∀ item ∈ entries, WellFormed item.2 := by
  have each : WellFormedEntries entries ↔ ∀ item ∈ entries, WellFormed item.2 := by
    induction entries with
    | nil => simp [WellFormedEntries]
    | cons item rest ih => rw [WellFormedEntries, ih, List.forall_mem_cons]
  rw [WellFormed, each]

/-- A lookup finds exactly the item of that key. -/
theorem get?_eq_some {entries : JsonObject} (distinct : (entries.map Prod.fst).Nodup) {key : Text}
    {v : Json} : get? entries key = some v ↔ (key, v) ∈ entries := by
  have stored := Dict.get?_eq_some (d := ⟨entries, distinct⟩) (k := key) (v := v)
  have instances : instBEqOfDecidableEq = (List.instBEq : BEq Text) := lawful_beq_subsingleton _ _
  rw [Dict.get?, instances] at stored
  exact stored

end Json

/-! ### Digits -/

namespace Text

theorem ofNat_eq (n : ℕ) : ofNat n = (Nat.toDigits 10 n).map codePoint := by
  rw [ofNat, ofString, Nat.toString_eq_repr, Nat.toList_repr]

theorem ofInt_eq (n : ℤ) :
    ofInt n = if n < 0 then codePoint '-' :: ofNat n.natAbs else ofNat n.natAbs := by
  cases n with
  | ofNat n => rfl
  | negSucc n =>
    rw [if_pos (Int.negSucc_lt_zero n), ofInt, ofString]
    have printed : (toString (Int.negSucc n)).toList = '-' :: (toString (n + 1)).toList := by
      change ("-" ++ Nat.repr (n + 1)).toList = _
      rw [String.toList_append]
      rfl
    rw [printed]
    rfl

theorem isDigitAscii_codePoint {c : Char} : isDigitAscii (codePoint c) = c.isDigit := by
  rw [isDigitAscii, Char.isDigit]
  rfl

theorem ofNat_digits {n : ℕ} : ∀ c ∈ ofNat n, isDigitAscii c = true := by
  intro c member
  rw [ofNat_eq] at member
  obtain ⟨d, inside, rfl⟩ := List.mem_map.mp member
  rw [isDigitAscii_codePoint]
  exact Nat.isDigit_of_mem_toDigits (by decide) (by decide) inside

theorem ofNat_ne_nil (n : ℕ) : ofNat n ≠ [] := by
  rw [ofNat_eq]
  simp

/-- Only zero is printed with a leading zero. -/
theorem ofNat_head_zero {n : ℕ} {rest : Text} (zero : ofNat n = codePoint '0' :: rest) :
    rest = [] := by
  have single : ∀ m < 10, 0 < m → [Nat.digitChar m].head? ≠ some '0' := by decide
  have digits : ∀ m : ℕ, 0 < m → (Nat.toDigits 10 m).head? ≠ some '0' := by
    intro m
    induction m using Nat.strongRecOn with
    | ind m ih =>
      intro positive
      by_cases small : m < 10
      · rw [Nat.toDigits_of_lt_base small]
        exact single m small positive
      · rw [Nat.toDigits_of_base_le (by decide) (by omega), List.head?_append]
        have front := ih (m / 10) (by omega) (by omega)
        cases shown : Nat.toDigits 10 (m / 10) with
        | nil => exact (Nat.toDigits_ne_nil shown).elim
        | cons d ds =>
          rw [shown] at front
          exact front
  rcases Nat.eq_zero_or_pos n with rfl | positive
  · rw [ofNat_eq, Nat.toDigits_zero] at zero
    exact (List.cons.inj zero).2.symm
  · exfalso
    rw [ofNat_eq] at zero
    cases shown : Nat.toDigits 10 n with
    | nil => exact Nat.toDigits_ne_nil shown
    | cons d ds =>
      rw [shown, List.map_cons] at zero
      have same : (codePoint d).val = (codePoint '0').val := by rw [(List.cons.inj zero).1]
      change d.toNat = '0'.toNat at same
      refine digits n positive ?_
      rw [shown, List.head?_cons, Char.toNat_inj.mp same]

end Text

namespace Json

theorem digitsValue_ofNat (n : ℕ) : digitsValue (Text.ofNat n) = n := by
  rw [digitsValue, Text.ofNat_eq, List.foldl_map]
  exact Nat.ofDigitChars_eq_foldl.symm.trans Nat.ofDigitChars_ten_toDigits

/-- The text after a number does not go on with it. -/
def Ends (rest : Text) : Prop :=
  ∀ c, rest.head? = some c →
    Text.isDigitAscii c = false ∧ c ≠ codePoint '.' ∧ c ≠ codePoint 'e' ∧ c ≠ codePoint 'E'

theorem scanDigits_append {digits rest : Text} (all : ∀ c ∈ digits, Text.isDigitAscii c = true)
    (ends : Ends rest) : scanDigits (digits ++ rest) = (digits, rest) := by
  have stop : rest.takeWhile Text.isDigitAscii = [] ∧ rest.dropWhile Text.isDigitAscii = rest := by
    cases rest with
    | nil => exact ⟨rfl, rfl⟩
    | cons c later =>
      have none := (ends c rfl).1
      exact ⟨List.takeWhile_cons_of_neg (by simp [none]), List.dropWhile_cons_of_neg (by simp [none])⟩
  rw [scanDigits, List.span_eq_takeWhile_dropWhile, List.takeWhile_append_of_pos all,
    List.dropWhile_append_of_pos all, stop.1, stop.2, List.append_nil]

theorem scanFraction_of_ends {rest : Text} (ends : Ends rest) : scanFraction rest = ([], rest) := by
  unfold scanFraction
  split
  · next p d later =>
    rw [if_neg fun point => (ends p rfl).2.1 point.1]
  · rfl

theorem scanExponent_of_ends {rest : Text} (ends : Ends rest) : scanExponent rest = ([], rest) := by
  cases rest with
  | nil => rfl
  | cons c later =>
    have plain := (ends c rfl).2.2
    rw [scanExponent, if_neg (not_or.mpr plain)]

/-- A printed count is read back. -/
theorem scanUnsigned_ofNat {py : Interpreter} (negative : Bool) {n : ℕ} {rest : Text}
    (ends : Ends rest)
    (fits : py.maxStrDigits = 0 ∨ (Text.ofNat n).length ≤ py.maxStrDigits) :
    scanUnsigned py negative (Text.ofNat n ++ rest) =
      .ok (.int (if negative then -(n : ℤ) else n), rest) := by
  cases shown : Text.ofNat n with
  | nil => exact (Text.ofNat_ne_nil n shown).elim
  | cons d digits =>
    have all : ∀ c ∈ d :: digits, Text.isDigitAscii c = true := shown ▸ Text.ofNat_digits
    have whole : scanWhole d (digits ++ rest) = (d :: digits, rest) := by
      unfold scanWhole
      split
      · next zero =>
        have single := Text.ofNat_head_zero (zero ▸ shown)
        rw [single]
        rfl
      · rw [scanDigits_append (fun c member => all c (List.mem_cons_of_mem _ member)) ends]
    have value : digitsValue (d :: digits) = n := shown ▸ digitsValue_ofNat n
    rw [List.cons_append, scanUnsigned, if_pos (all d List.mem_cons_self), whole]
    dsimp only
    rw [scanFraction_of_ends ends]
    dsimp only
    rw [scanExponent_of_ends ends]
    dsimp only
    rw [if_pos ⟨rfl, rfl⟩, scanInteger, if_neg, value]
    rw [shown] at fits
    rintro ⟨limited, long⟩
    rcases fits with unlimited | short
    · exact limited unlimited
    · exact absurd long (by omega)

/-! ### Strings -/

theorem scanString_escape {e read : CodePoint} (notHex : e ≠ codePoint 'u')
    (known : unescape e = some read) (rest : Text) :
    scanString (codePoint '\\' :: e :: rest) = (scanString rest).map (followedBy read) := by
  rw [scanString.eq_def]
  dsimp only
  rw [if_neg (by decide), if_pos rfl, if_neg notHex, known]

/-- An escaped character is read back. -/
theorem scanString_escapeChar (c : CodePoint) {rest : Text} (more : rest ≠ []) :
    scanString (escapeChar c ++ rest) = (scanString rest).map (followedBy c) := by
  have hex : ∀ n < 0x20, ∃ h₁ h₂ h₃ h₄, Text.hexDigits 4 n = [h₁, h₂, h₃, h₄] ∧
      hexQuad h₁ h₂ h₃ h₄ = some n := by
    intro n _
    refine ⟨_, _, _, _, rfl, ?_⟩
    revert n
    decide
  unfold escapeChar
  split
  · next here =>
    rw [here]
    exact scanString_escape (by decide) rfl rest
  split
  · next here =>
    rw [here]
    exact scanString_escape (by decide) rfl rest
  split
  · next here =>
    rw [here]
    exact scanString_escape (by decide) rfl rest
  split
  · next here =>
    rw [here]
    exact scanString_escape (by decide) rfl rest
  split
  · next here =>
    rw [here]
    exact scanString_escape (by decide) rfl rest
  split
  · next here =>
    rw [show c = 0x0c from Fin.ext here]
    exact scanString_escape (by decide) rfl rest
  split
  · next here =>
    rw [show c = 0x08 from Fin.ext here]
    exact scanString_escape (by decide) rfl rest
  split
  · next low =>
    obtain ⟨h₁, h₂, h₃, h₄, digits, value⟩ := hex c.val low
    have opened : ("\\u" : Text) = [codePoint '\\', codePoint 'u'] := rfl
    rw [digits, opened]
    change scanString (codePoint '\\' :: codePoint 'u' :: h₁ :: h₂ :: h₃ :: h₄ :: rest) = _
    have same : Fin.ofNat 0x110000 c.val = c := Fin.ext (Nat.mod_eq_of_lt c.isLt)
    rw [scanString.eq_def]
    dsimp only
    rw [if_neg (by decide), if_pos rfl, if_pos rfl, if_neg more, value]
    dsimp only
    rw [if_neg (by omega), same]
  · next notQuote notSlash _ _ _ _ _ high =>
    rw [List.singleton_append, scanString.eq_def]
    dsimp only
    rw [if_neg notQuote, if_neg notSlash, if_neg (by omega)]

/-- A quoted text is read back. -/
theorem scanString_quoted (s rest : Text) :
    scanString (s.flatMap escapeChar ++ codePoint '"' :: rest) = .ok (s, rest) := by
  induction s with
  | nil =>
    rw [List.flatMap_nil, List.nil_append, scanString.eq_def]
    dsimp only
    rw [if_pos rfl]
  | cons c s ih =>
    have more : s.flatMap escapeChar ++ codePoint '"' :: rest ≠ [] := by simp
    rw [List.flatMap_cons, List.append_assoc, scanString_escapeChar c more, ih]
    rfl

theorem quote_append (s rest : Text) :
    quote s ++ rest = codePoint '"' :: (s.flatMap escapeChar ++ codePoint '"' :: rest) := by
  rw [quote, List.append_assoc, List.append_assoc]
  rfl

/-! ### Values -/

variable {py : Interpreter}

/-- How the text of a value starts. -/
def Starts (text : Text) : Prop :=
  ∃ c rest, text = c :: rest ∧ c.val < 0x80 ∧ isJsonSpace c = false ∧ c ≠ codePoint ']' ∧
    c ≠ codePoint '\x7d'

theorem Starts.append {text : Text} (starts : Starts text) (rest : Text) : Starts (text ++ rest) := by
  obtain ⟨c, tail, rfl, plain⟩ := starts
  exact ⟨c, tail ++ rest, rfl, plain⟩

theorem Starts.skipSpace {text : Text} (starts : Starts text) : skipSpace text = text := by
  obtain ⟨c, tail, rfl, _, plain, _⟩ := starts
  exact List.dropWhile_cons_of_neg (by simp [plain])

theorem Starts.not_closing {text : Text} (starts : Starts text) :
    text.head? ≠ some (codePoint ']') ∧ text.head? ≠ some (codePoint '\x7d') := by
  obtain ⟨c, tail, rfl, _, _, notBracket, notBrace⟩ := starts
  exact ⟨fun same => notBracket (Option.some.inj same), fun same => notBrace (Option.some.inj same)⟩

theorem digit_plain {c : CodePoint} (digit : Text.isDigitAscii c = true) :
    c.val < 0x80 ∧ isJsonSpace c = false ∧ c ≠ codePoint ']' ∧ c ≠ codePoint '\x7d' ∧
      c ≠ codePoint '-' ∧ c ≠ codePoint '"' ∧ c ≠ codePoint '\x7b' ∧ c ≠ codePoint '[' ∧ c ≠ codePoint 'I' ∧
        c ≠ codePoint 'n' ∧ c ≠ codePoint 't' ∧ c ≠ codePoint 'f' ∧ c ≠ codePoint 'N' := by
  have between : 0x30 ≤ c.val ∧ c.val ≤ 0x39 := by
    simpa [Text.isDigitAscii] using digit
  have apart : ∀ {d : CodePoint}, d.val < 0x30 ∨ 0x39 < d.val → c ≠ d := by
    rintro d outside rfl
    omega
  refine ⟨by omega, ?_, ?_⟩
  · have space : ∀ {d : CodePoint}, d.val < 0x30 → (c == d) = false := fun low =>
      beq_false_of_ne (apart (Or.inl low))
    rw [isJsonSpace, space (by decide), space (by decide), space (by decide), space (by decide)]
    rfl
  · refine ⟨?_, ?_, ?_, ?_, ?_, ?_, ?_, ?_, ?_, ?_, ?_⟩ <;> exact apart (by decide)

/-- A digit or a sign starts no constant but minus infinity. -/
theorem scanScalar_of_digit {text : Text} {d : CodePoint} {rest : Text}
    (digit : Text.isDigitAscii d = true)
    (shape : text = d :: rest ∨ text = codePoint '-' :: d :: rest) :
    scanScalar py text = scanNumber py text := by
  obtain ⟨_, _, _, _, notMinus, _, _, _, notI, notn, nott, notf, notN⟩ := digit_plain digit
  have apart : ∀ {e : CodePoint}, d ≠ e → (e == d) = false := fun distinct =>
    beq_false_of_ne distinct.symm
  have none : constants.find? (fun constant => text.startsWith constant.1) = none := by
    rcases shape with rfl | rfl
    · simp only [constants, Text.startsWith, Text.ofString, List.find?]
      simp [List.isPrefixOf, apart notMinus, apart notI, apart notn, apart nott, apart notf,
        apart notN]
    · simp only [constants, Text.startsWith, Text.ofString, List.find?]
      simp [List.isPrefixOf, apart notI]
      rfl
  rw [scanScalar, none]

/-- A value that starts with neither a quote nor a bracket is a scalar. -/
theorem scanOnce_scalar {c : CodePoint} {rest : Text} {rounds : ℕ} (positive : 0 < rounds)
    (notQuote : c ≠ codePoint '"') (notBrace : c ≠ codePoint '\x7b')
    (notBracket : c ≠ codePoint '[') :
    scanOnce py rounds (c :: rest) = scanScalar py (c :: rest) := by
  obtain ⟨n, rfl⟩ := Nat.exists_eq_add_one_of_ne_zero positive.ne'
  rw [scanOnce, if_neg notQuote, if_neg notBrace, if_neg notBracket]

theorem scanOnce_ofInt {n : ℤ} {rest : Text} {rounds : ℕ} (positive : 0 < rounds)
    (ends : Ends rest) (fits : digitsFit py (.int n) = true) :
    scanOnce py rounds (Text.ofInt n ++ rest) = .ok (.int n, rest) := by
  have short : py.maxStrDigits = 0 ∨ (Text.ofNat n.natAbs).length ≤ py.maxStrDigits := by
    simpa [digitsFit] using fits
  cases shown : Text.ofNat n.natAbs with
  | nil => exact (Text.ofNat_ne_nil _ shown).elim
  | cons d digits =>
    have digit : Text.isDigitAscii d = true :=
      Text.ofNat_digits d (shown ▸ List.mem_cons_self)
    obtain ⟨_, _, _, _, notMinus, notQuote, notBrace, notBracket, _⟩ := digit_plain digit
    have read := fun negative => scanUnsigned_ofNat negative ends short
    rw [Text.ofInt_eq]
    split
    · next below =>
      rw [List.cons_append, scanOnce_scalar positive (by decide) (by decide) (by decide), shown,
        List.cons_append, scanScalar_of_digit digit (Or.inr rfl), scanNumber, if_pos rfl,
        ← List.cons_append, ← shown, read, if_pos rfl]
      congr 3
      omega
    · next above =>
      rw [shown, List.cons_append, scanOnce_scalar positive notQuote notBrace notBracket,
        scanScalar_of_digit digit (Or.inl rfl), scanNumber, if_neg notMinus, ← List.cons_append,
        ← shown, read, if_neg Bool.false_ne_true]
      congr 3
      omega

theorem ends_cons {c : CodePoint} (rest : Text) (plain : Text.isDigitAscii c = false ∧
    c ≠ codePoint '.' ∧ c ≠ codePoint 'e' ∧ c ≠ codePoint 'E') : Ends (c :: rest) := by
  intro d first
  cases first
  exact plain

/-- A float that is read back from its text, wherever a number may end. -/
structure FloatReads (py : Interpreter) (x : PyFloat) : Prop where
  starts : Starts (floatText py x)
  reads : ∀ (rounds : ℕ) (rest : Text), 0 < rounds → Ends rest →
    scanOnce py rounds (floatText py x ++ rest) = .ok (.float x, rest)

mutual
/-- Every float is read back from its text. -/
def FloatsRead (py : Interpreter) : Json → Prop
  | .float x => FloatReads py x
  | .arr items => FloatsReadItems py items
  | .obj entries => FloatsReadEntries py entries
  | _ => True

def FloatsReadItems (py : Interpreter) : List Json → Prop
  | [] => True
  | item :: rest => FloatsRead py item ∧ FloatsReadItems py rest

def FloatsReadEntries (py : Interpreter) : JsonObject → Prop
  | [] => True
  | (_, value) :: rest => FloatsRead py value ∧ FloatsReadEntries py rest
end

theorem floatsRead_arr {items : List Json} :
    FloatsRead py (.arr items) ↔ ∀ item ∈ items, FloatsRead py item := by
  rw [FloatsRead]
  induction items with
  | nil => simp [FloatsReadItems]
  | cons item rest ih => rw [FloatsReadItems, ih, List.forall_mem_cons]

theorem floatsRead_obj {entries : JsonObject} :
    FloatsRead py (.obj entries) ↔ ∀ item ∈ entries, FloatsRead py item.2 := by
  rw [FloatsRead]
  induction entries with
  | nil => simp [FloatsReadEntries]
  | cons item rest ih => rw [FloatsReadEntries, ih, List.forall_mem_cons]

/-- A value without floats. -/
theorem floatsRead_of_noFloat {v : Json} (plain : noFloat v = true) : FloatsRead py v := by
  induction v using induct with
  | float value => exact absurd plain Bool.false_ne_true
  | arr items ih =>
    exact floatsRead_arr.mpr fun item member => ih item member (noFloat_arr.mp plain item member)
  | obj entries ih =>
    exact floatsRead_obj.mpr fun item member => ih item member (noFloat_obj.mp plain item member)
  | _ => exact trivial

/-- The text of a value starts like one. -/
theorem compactText_starts {v : Json} (plain : FloatsRead py v) : Starts (v.compactText py) := by
  cases v with
  | null => exact ⟨_, _, rfl, by decide, rfl, by decide, by decide⟩
  | bool value => cases value <;> exact ⟨_, _, rfl, by decide, rfl, by decide, by decide⟩
  | int n =>
    rw [compactText, Text.ofInt_eq]
    split
    · exact ⟨_, _, rfl, by decide, rfl, by decide, by decide⟩
    · cases shown : Text.ofNat n.natAbs with
      | nil => exact (Text.ofNat_ne_nil _ shown).elim
      | cons d digits =>
        obtain ⟨ascii, space, bracket, brace, _⟩ := digit_plain
          (Text.ofNat_digits d (shown ▸ List.mem_cons_self))
        exact ⟨d, digits, rfl, ascii, space, bracket, brace⟩
  | float value => exact FloatReads.starts plain
  | str s => exact ⟨_, _, rfl, by decide, rfl, by decide, by decide⟩
  | arr items => exact ⟨_, _, rfl, by decide, rfl, by decide, by decide⟩
  | obj entries => exact ⟨_, _, rfl, by decide, rfl, by decide, by decide⟩

/-- A value that is read back from its text, whatever follows it. -/
def ReadsBack (py : Interpreter) (v : Json) : Prop :=
  ∀ (rounds : ℕ) (rest : Text), Ends rest → 2 * (v.compactText py ++ rest).length < rounds →
    scanOnce py rounds (v.compactText py ++ rest) = .ok (v.sorted, rest)

theorem join_cons_cons (sep part next : Text) (rest : List Text) :
    Text.join sep (part :: next :: rest) = part ++ sep ++ Text.join sep (next :: rest) := by
  rw [Text.join, List.intersperse_cons_cons, List.flatten_cons, List.flatten_cons,
    ← List.append_assoc]
  rfl

theorem join_singleton (sep part : Text) : Text.join sep [part] = part := List.append_nil part

theorem starts_join (sep : Text) {part : Text} {rest : List Text} (starts : Starts part) :
    Starts (Text.join sep (part :: rest)) := by
  cases rest with
  | nil =>
    rw [join_singleton]
    exact starts
  | cons other rest =>
    rw [join_cons_cons, List.append_assoc]
    exact starts.append _

/-- The members of an array are read back one by one. -/
theorem scanItems_join (item : Json) (later : List Json) (rest : Text)
    (each : ∀ v ∈ item :: later, FloatsRead py v ∧ ReadsBack py v) (rounds : ℕ)
    (enough : 2 * (Text.join "," ((item :: later).map (compactText py)) ++
      codePoint ']' :: rest).length + 1 < rounds) :
    scanItems py rounds (Text.join "," ((item :: later).map (compactText py)) ++
      codePoint ']' :: rest) = .ok ((item :: later).map sorted, rest) := by
  induction later generalizing item rounds with
  | nil =>
    obtain ⟨n, rfl⟩ := Nat.exists_eq_add_one_of_ne_zero (by omega : rounds ≠ 0)
    rw [List.map_singleton, join_singleton] at enough ⊢
    rw [scanItems, (each item List.mem_cons_self).2 n (codePoint ']' :: rest)
      (ends_cons rest (by decide)) (by omega)]
    rfl
  | cons next later ih =>
    obtain ⟨n, rfl⟩ := Nat.exists_eq_add_one_of_ne_zero (by omega : rounds ≠ 0)
    have here := each item List.mem_cons_self
    have there : ∀ v ∈ next :: later, FloatsRead py v ∧ ReadsBack py v := fun v member =>
      each v (List.mem_cons_of_mem _ member)
    have comma : ("," : Text) = [codePoint ','] := rfl
    rw [List.map_cons, List.map_cons, join_cons_cons, ← List.map_cons, comma] at enough ⊢
    generalize joined : Text.join [codePoint ','] ((next :: later).map (compactText py)) ++
      codePoint ']' :: rest = tail
    have shape : item.compactText py ++ [codePoint ','] ++
        Text.join [codePoint ','] ((next :: later).map (compactText py)) ++ codePoint ']' :: rest =
          item.compactText py ++ codePoint ',' :: tail := by
      rw [List.append_assoc, joined, List.append_assoc]
      rfl
    have starts : Starts tail :=
      joined ▸ (starts_join _ (compactText_starts (there next List.mem_cons_self).1)).append _
    rw [shape] at enough ⊢
    rw [List.length_append, List.length_cons] at enough
    rw [scanItems, here.2 n (codePoint ',' :: tail) (ends_cons tail (by decide))
      (by rw [List.length_append, List.length_cons]; omega)]
    have space : skipSpace (codePoint ',' :: tail) = codePoint ',' :: tail :=
      List.dropWhile_cons_of_neg (by decide)
    rw [ok_bind]
    dsimp only
    rw [space]
    dsimp only
    rw [if_neg (by decide), if_pos rfl, starts.skipSpace, if_neg starts.not_closing.1, ← joined,
      ← comma, ih next there n (by rw [comma, joined]; omega)]
    rfl

/-- The text of an item of an object. -/
def entryText (py : Interpreter) (item : Text × Json) : Text :=
  itemText (item.1, item.2.compactText py)

theorem entryText_starts (item : Text × Json) : Starts (entryText py item) :=
  ⟨_, _, rfl, by decide, rfl, by decide, by decide⟩

theorem scanKey_entryText {item : Text × Json} (plain : FloatsRead py item.2) (rest : Text) :
    scanKey (entryText py item ++ rest) = .ok (item.1, item.2.compactText py ++ rest) := by
  have colon : (":" : Text) = [codePoint ':'] := rfl
  rw [entryText, itemText, List.append_assoc, List.append_assoc, colon, List.singleton_append,
    quote_append, scanKey, if_pos rfl, scanString_quoted, ok_bind]
  have space : ∀ tail, skipSpace (codePoint ':' :: tail) = codePoint ':' :: tail := fun tail =>
    List.dropWhile_cons_of_neg (by decide)
  dsimp only
  rw [space]
  dsimp only
  rw [if_pos rfl, ((compactText_starts plain).append rest).skipSpace]
  rfl

/-- The items of an object are read back one by one. -/
theorem scanEntries_join (item : Text × Json) (later : JsonObject) (rest : Text)
    (each : ∀ e ∈ item :: later, FloatsRead py e.2 ∧ ReadsBack py e.2) (rounds : ℕ)
    (enough : 2 * (Text.join "," ((item :: later).map (entryText py)) ++
      codePoint '\x7d' :: rest).length + 1 < rounds) :
    scanEntries py rounds (Text.join "," ((item :: later).map (entryText py)) ++
      codePoint '\x7d' :: rest) = .ok ((item :: later).map sortedItem, rest) := by
  have shorter : ∀ (e : Text × Json) (tail : Text),
      (e.2.compactText py ++ tail).length ≤ (entryText py e ++ tail).length := by
    intro e tail
    rw [entryText, itemText, List.append_assoc]
    exact (List.suffix_append _ _).length_le
  induction later generalizing item rounds with
  | nil =>
    obtain ⟨n, rfl⟩ := Nat.exists_eq_add_one_of_ne_zero (by omega : rounds ≠ 0)
    have here := each item List.mem_cons_self
    have less := shorter item (codePoint '\x7d' :: rest)
    rw [List.map_singleton, join_singleton] at enough ⊢
    rw [scanEntries, scanKey_entryText here.1, ok_bind]
    dsimp only
    rw [here.2 n (codePoint '\x7d' :: rest) (ends_cons rest (by decide)) (by omega)]
    rfl
  | cons next later ih =>
    obtain ⟨n, rfl⟩ := Nat.exists_eq_add_one_of_ne_zero (by omega : rounds ≠ 0)
    have here := each item List.mem_cons_self
    have there : ∀ e ∈ next :: later, FloatsRead py e.2 ∧ ReadsBack py e.2 := fun e member =>
      each e (List.mem_cons_of_mem _ member)
    have comma : ("," : Text) = [codePoint ','] := rfl
    rw [List.map_cons, List.map_cons, join_cons_cons, ← List.map_cons, comma] at enough ⊢
    generalize joined : Text.join [codePoint ','] ((next :: later).map (entryText py)) ++
      codePoint '\x7d' :: rest = tail
    have shape : entryText py item ++ [codePoint ','] ++
        Text.join [codePoint ','] ((next :: later).map (entryText py)) ++ codePoint '\x7d' :: rest =
          entryText py item ++ codePoint ',' :: tail := by
      rw [List.append_assoc, joined, List.append_assoc]
      rfl
    have starts : Starts tail := joined ▸ (starts_join _ (entryText_starts next)).append _
    have less := shorter item (codePoint ',' :: tail)
    rw [shape] at enough ⊢
    rw [scanEntries, scanKey_entryText here.1, ok_bind]
    dsimp only
    rw [here.2 n (codePoint ',' :: tail) (ends_cons tail (by decide)) (by omega), ok_bind]
    have space : skipSpace (codePoint ',' :: tail) = codePoint ',' :: tail :=
      List.dropWhile_cons_of_neg (by decide)
    rw [List.length_append, List.length_cons] at enough
    dsimp only
    rw [space]
    dsimp only
    rw [if_neg (by decide), if_pos rfl, starts.skipSpace, if_neg starts.not_closing.2, ← joined,
      ← comma, ih next there n (by rw [comma, joined]; omega)]
    rfl

/-- Items with distinct keys are stored as they come. -/
theorem objectOf_eq {items : List (Text × Json)} (distinct : (items.map Prod.fst).Nodup) :
    objectOf items = items := by
  have stored : ∀ (items : List (Text × Json)) (read : Dict Text Json),
      (read.keys ++ items.map Prod.fst).Nodup →
        (items.foldl (fun (read : Dict Text Json) item => read.set item.1 item.2) read).entries =
          read.entries ++ items := by
    intro items
    induction items with
    | nil => exact fun read _ => (List.append_nil _).symm
    | cons item rest ih =>
      intro read distinct
      have fresh : item.1 ∉ read.keys := fun stored =>
        (List.nodup_append.mp distinct).2.2 _ stored _ List.mem_cons_self rfl
      rw [List.foldl_cons, ih, Dict.entries_set_of_notMem fresh, List.append_assoc]
      · rfl
      · rw [Dict.keys_set_of_notMem fresh, List.append_assoc]
        exact distinct
  exact stored items Dict.empty (by simpa using distinct)

/-- **A printed value is read back**, with the keys of its objects in order. -/
theorem readsBack (v : Json) (formed : v.WellFormed) (plain : FloatsRead py v)
    (fits : v.digitsFit py = true) : ReadsBack py v := by
  induction v using induct with
  | null =>
    intro rounds rest _ enough
    exact scanOnce_scalar (by omega) (by decide) (by decide) (by decide)
  | bool value =>
    intro rounds rest _ enough
    cases value
    · exact scanOnce_scalar (by omega) (by decide) (by decide) (by decide)
    · exact scanOnce_scalar (by omega) (by decide) (by decide) (by decide)
  | int n =>
    intro rounds rest ends enough
    exact scanOnce_ofInt (by omega) ends fits
  | float value =>
    intro rounds rest ends enough
    exact FloatReads.reads plain rounds rest (by omega) ends
  | str s =>
    intro rounds rest _ enough
    obtain ⟨n, rfl⟩ := Nat.exists_eq_add_one_of_ne_zero (by omega : rounds ≠ 0)
    rw [compactText, quote_append, scanOnce, if_pos rfl, scanString_quoted]
    rfl
  | arr items ih =>
    intro rounds rest _ enough
    obtain ⟨n, rfl⟩ := Nat.exists_eq_add_one_of_ne_zero (by omega : rounds ≠ 0)
    rw [wellFormed_arr] at formed
    rw [floatsRead_arr] at plain
    rw [digitsFit, digitsFitItems_iff] at fits
    have each : ∀ v ∈ items, FloatsRead py v ∧ ReadsBack py v := fun v member =>
      ⟨plain v member, ih v member (formed v member) (plain v member) (fits v member)⟩
    have shape : (Json.arr items).compactText py ++ rest = codePoint '[' ::
        (Text.join "," (items.map (compactText py)) ++ codePoint ']' :: rest) := by
      rw [compactText, memberTexts_eq, List.append_assoc, List.append_assoc]
      rfl
    rw [shape, List.length_cons] at enough
    rw [shape, scanOnce, if_neg (by decide), if_neg (by decide), if_pos rfl, sorted_arr]
    cases items with
    | nil => rfl
    | cons item later =>
      have starts : Starts (Text.join "," ((item :: later).map (compactText py)) ++
          codePoint ']' :: rest) :=
        (starts_join _ (compactText_starts (plain item List.mem_cons_self))).append _
      dsimp only
      rw [starts.skipSpace, if_neg starts.not_closing.1, scanItems_join item later rest each n
        (by omega)]
      rfl
  | obj entries ih =>
    intro rounds rest _ enough
    obtain ⟨n, rfl⟩ := Nat.exists_eq_add_one_of_ne_zero (by omega : rounds ≠ 0)
    rw [wellFormed_obj] at formed
    rw [floatsRead_obj] at plain
    rw [digitsFit, digitsFitEntries_iff] at fits
    have each : ∀ e ∈ sortedBy Prod.fst entries, FloatsRead py e.2 ∧ ReadsBack py e.2 := by
      intro e member
      rw [mem_sortedBy] at member
      exact ⟨plain e member, ih e member (formed.2 e member) (plain e member) (fits e member)⟩
    have distinct : (((sortedBy Prod.fst entries).map sortedItem).map Prod.fst).Nodup := by
      rw [List.map_map]
      exact ((sortedBy_perm Prod.fst entries).map Prod.fst).nodup_iff.mpr formed.1
    have texts : (sortedBy Prod.fst (entryTexts py entries)).map itemText =
        (sortedBy Prod.fst entries).map (entryText py) := by
      have keyed := map_sortedBy (fun item : Text × Json => (item.1, compactText py item.2))
        Prod.fst Prod.fst entries fun item _ => rfl
      rw [entryTexts_eq, ← keyed, List.map_map]
      rfl
    have shape : (Json.obj entries).compactText py ++ rest = codePoint '\x7b' ::
        (Text.join "," ((sortedBy Prod.fst entries).map (entryText py)) ++
          codePoint '\x7d' :: rest) := by
      rw [compactText, texts, List.append_assoc, List.append_assoc]
      rfl
    rw [shape, List.length_cons] at enough
    rw [shape, scanOnce, if_neg (by decide), if_pos rfl, sorted_obj]
    generalize sortedBy Prod.fst entries = items at each distinct enough ⊢
    cases items with
    | nil => rfl
    | cons item later =>
      have starts : Starts (Text.join "," ((item :: later).map (entryText py)) ++
          codePoint '\x7d' :: rest) := (starts_join _ (entryText_starts item)).append _
      dsimp only
      rw [starts.skipSpace, if_neg starts.not_closing.2, scanEntries_join item later rest each n
        (by omega), ok_bind]
      dsimp only
      rw [objectOf_eq distinct]
      rfl

/-- The text of a value, with a line feed after it, is loaded as that value. -/
theorem loads_compactText (v : Json) (formed : v.WellFormed) (plain : FloatsRead py v)
    (fits : v.digitsFit py = true) :
    loads py (v.compactText py ++ ("\n" : Text)) = .ok v.sorted := by
  have starts : Starts (v.compactText py) := compactText_starts plain
  have newline : ("\n" : Text) = [codePoint '\n'] := rfl
  have noMark : (v.compactText py ++ ("\n" : Text)).head? ≠ some 0xfeff := by
    obtain ⟨c, tail, shape, ascii, _⟩ := starts
    rw [shape]
    rintro same
    rw [Option.some.inj same] at ascii
    exact absurd ascii (by decide)
  rw [loads, if_neg noMark, (starts.append _).skipSpace,
    readsBack v formed plain fits _ ("\n" : Text) (ends_cons [] (by decide))
      (by unfold roundsFor; omega), ok_bind]
  rfl

mutual
/-- No lone surrogate in any string or key. -/
def noSurrogate : Json → Bool
  | .str value => value.all fun c => !CodePoint.isSurrogate c
  | .arr items => noSurrogateItems items
  | .obj entries => noSurrogateEntries entries
  | _ => true

def noSurrogateItems : List Json → Bool
  | [] => true
  | item :: rest => noSurrogate item && noSurrogateItems rest

def noSurrogateEntries : JsonObject → Bool
  | [] => true
  | (key, value) :: rest =>
    (key.all fun c => !CodePoint.isSurrogate c) && noSurrogate value && noSurrogateEntries rest
end

/-- The text of a value has a surrogate only where the value has one. -/
theorem clean_compactText {v : Json} (plain : v.noFloat = true) (fits : v.digitsFit py = true) :
    Utf8.Clean (v.compactText py) ↔ v.noSurrogate = true := by
  have texts : ∀ s : Text, (s.all fun c => !CodePoint.isSurrogate c) = true ↔ Utf8.Clean s := by
    intro s
    simp [Utf8.Clean]
  induction v using induct with
  | null => exact iff_of_true (Utf8.clean_ofString _) rfl
  | bool value => cases value <;> exact iff_of_true (Utf8.clean_ofString _) rfl
  | int value => exact iff_of_true (Utf8.clean_ofString _) rfl
  | float value => exact absurd plain Bool.false_ne_true
  | str value => rw [compactText, clean_quote, noSurrogate, texts]
  | arr items ih =>
    have whole : Sendable py (.arr items) ↔ _ := sendable_arr
    rw [Sendable, and_iff_right fits] at whole
    rw [noFloat_arr] at plain
    rw [digitsFit, digitsFitItems_iff] at fits
    have each : noSurrogateItems items = true ↔ ∀ item ∈ items, item.noSurrogate = true := by
      clear ih whole plain fits
      induction items with
      | nil => simp [noSurrogateItems]
      | cons item rest ih => rw [noSurrogateItems, Bool.and_eq_true, ih, List.forall_mem_cons]
    rw [whole, noSurrogate, each]
    refine forall₂_congr fun item member => ?_
    exact (and_iff_right (fits item member)).trans (ih item member (plain item member)
      (fits item member))
  | obj entries ih =>
    have whole : Sendable py (.obj entries) ↔ _ := sendable_obj
    rw [Sendable, and_iff_right fits] at whole
    rw [noFloat_obj] at plain
    rw [digitsFit, digitsFitEntries_iff] at fits
    have each : noSurrogateEntries entries = true ↔
        ∀ item ∈ entries, Utf8.Clean item.1 ∧ item.2.noSurrogate = true := by
      clear ih whole plain fits
      induction entries with
      | nil => simp [noSurrogateEntries]
      | cons item rest ih =>
        rw [noSurrogateEntries, Bool.and_eq_true, Bool.and_eq_true, ih, List.forall_mem_cons, texts]
    rw [whole, noSurrogate, each]
    refine forall₂_congr fun item member => and_congr_right fun _ => ?_
    exact (and_iff_right (fits item member)).trans (ih item member (plain item member)
      (fits item member))

/-! ### One value, one text -/

/-- The same value, of the same types; the order of an object's keys does not count. -/
def Same (v w : Json) : Prop := v.sorted = w.sorted

/-- Objects are the same when they hold the same under every key. -/
theorem same_obj {a b : JsonObject} (left : (a.map Prod.fst).Nodup) (right : (b.map Prod.fst).Nodup) :
    Same (.obj a) (.obj b) ↔ ∀ key, (get? a key).map sorted = (get? b key).map sorted := by
  have lookup : ∀ {entries : JsonObject}, (entries.map Prod.fst).Nodup → ∀ key w,
      (get? entries key).map sorted = some w ↔ (key, w) ∈ entries.map sortedItem := by
    intro entries distinct key w
    rw [Option.map_eq_some_iff, List.mem_map]
    constructor
    · rintro ⟨v, found, rfl⟩
      exact ⟨(key, v), (get?_eq_some distinct).mp found, rfl⟩
    · rintro ⟨⟨k, v⟩, member, same⟩
      cases same
      exact ⟨v, (get?_eq_some distinct).mpr member, rfl⟩
  have nodup : ∀ {entries : JsonObject}, (entries.map Prod.fst).Nodup →
      (entries.map sortedItem).Nodup := by
    intro entries distinct
    refine List.Nodup.of_map Prod.fst ?_
    rw [List.map_map]
    exact distinct
  have ordered : ∀ entries : JsonObject, (sortedBy Prod.fst entries).map sortedItem =
      sortedBy Prod.fst (entries.map sortedItem) := fun entries =>
    map_sortedBy sortedItem Prod.fst Prod.fst entries fun item _ => rfl
  rw [Same, sorted_obj, sorted_obj, Json.obj.injEq, ordered, ordered]
  constructor
  · intro same key
    have members : ∀ e, e ∈ a.map sortedItem ↔ e ∈ b.map sortedItem := fun e => by
      rw [← mem_sortedBy Prod.fst (a.map sortedItem), same, mem_sortedBy]
    refine Option.ext fun w => ?_
    rw [lookup left, lookup right, members]
  · intro same
    have perm : (a.map sortedItem).Perm (b.map sortedItem) := by
      refine (List.perm_ext_iff_of_nodup (nodup left) (nodup right)).mpr ?_
      rintro ⟨key, w⟩
      rw [← lookup left, ← lookup right, same key]
    refine sortedBy_eq_of_perm perm fun e inside f inside' keys => ?_
    obtain ⟨i, member, rfl⟩ := List.mem_map.mp inside
    obtain ⟨j, member', rfl⟩ := List.mem_map.mp inside'
    rw [List.inj_on_of_nodup_map left member member' keys]

/-- Sorting twice sorts no further. -/
theorem sorted_sorted (v : Json) : v.sorted.sorted = v.sorted := by
  induction v using induct with
  | null => rfl
  | bool value => rfl
  | int value => rfl
  | float value => rfl
  | str value => rfl
  | arr items ih =>
    rw [sorted_arr, sorted_arr, List.map_map]
    congr 1
    exact List.map_congr_left ih
  | obj entries ih =>
    have ordered : ((sortedBy Prod.fst entries).map sortedItem).Pairwise fun a b => a.1 ≤ b.1 := by
      rw [List.pairwise_map]
      exact sortedBy_pairwise Prod.fst entries
    rw [sorted_obj, sorted_obj, sortedBy_of_pairwise ordered, List.map_map]
    congr 1
    refine List.map_congr_left fun item member => ?_
    exact congrArg (Prod.mk item.1) (ih item ((mem_sortedBy _ _).mp member))

/-- The text does not depend on the order of the keys. -/
theorem compactText_sorted (v : Json) : v.sorted.compactText py = v.compactText py := by
  induction v using induct with
  | null => rfl
  | bool value => rfl
  | int value => rfl
  | float value => rfl
  | str value => rfl
  | arr items ih =>
    rw [sorted_arr, compactText, compactText, memberTexts_eq, memberTexts_eq, List.map_map]
    congr 3
    exact List.map_congr_left ih
  | obj entries ih =>
    have keyed := map_sortedBy (fun item : Text × Json => (item.1, compactText py item.2))
      Prod.fst Prod.fst entries fun item _ => rfl
    have items : entryTexts py ((sortedBy Prod.fst entries).map sortedItem) =
        (sortedBy Prod.fst entries).map fun item => (item.1, compactText py item.2) := by
      rw [entryTexts_eq, List.map_map]
      refine List.map_congr_left fun item member => ?_
      exact congrArg (Prod.mk item.1) (ih item ((mem_sortedBy _ _).mp member))
    have inOrder : sortedBy Prod.fst (sortedBy Prod.fst (entryTexts py entries)) =
        sortedBy Prod.fst (entryTexts py entries) :=
      sortedBy_of_pairwise (sortedBy_pairwise Prod.fst (entryTexts py entries))
    rw [sorted_obj, compactText, compactText, items, keyed, ← entryTexts_eq, inOrder]

/-- The same values have one text. -/
theorem compactText_congr {v w : Json} (same : Same v w) : v.compactText py = w.compactText py := by
  rw [← compactText_sorted, same, compactText_sorted]

/-- **Values with one text are the same.** -/
theorem compactText_injective {v w : Json} (formed : v.WellFormed ∧ w.WellFormed)
    (plain : FloatsRead py v ∧ FloatsRead py w)
    (fits : v.digitsFit py = true ∧ w.digitsFit py = true)
    (texts : v.compactText py = w.compactText py) : Same v w := by
  have left := loads_compactText v formed.1 plain.1 fits.1
  have right := loads_compactText w formed.2 plain.2 fits.2
  rw [texts, right] at left
  exact (Except.ok.inj left).symm

/-! ### What is loaded -/

/-- A value as the loader builds it. -/
def Loaded (py : Interpreter) (v : Json) : Prop := v.WellFormed ∧ v.digitsFit py = true

theorem loaded_arr {items : List Json} :
    Loaded py (.arr items) ↔ ∀ item ∈ items, Loaded py item := by
  rw [Loaded, wellFormed_arr, digitsFit, digitsFitItems_iff]
  exact ⟨fun loaded item member => ⟨loaded.1 item member, loaded.2 item member⟩,
    fun each => ⟨fun item member => (each item member).1, fun item member => (each item member).2⟩⟩

theorem loaded_obj {entries : JsonObject} :
    Loaded py (.obj entries) ↔
      (entries.map Prod.fst).Nodup ∧ ∀ item ∈ entries, Loaded py item.2 := by
  rw [Loaded, wellFormed_obj, digitsFit, digitsFitEntries_iff]
  exact ⟨fun loaded => ⟨loaded.1.1, fun item member => ⟨loaded.1.2 item member, loaded.2 item member⟩⟩,
    fun each => ⟨⟨each.1, fun item member => (each.2 item member).1⟩,
      fun item member => (each.2 item member).2⟩⟩

/-- Every item of a built object was read. -/
theorem mem_objectOf {items : List (Text × Json)} {item : Text × Json}
    (member : item ∈ objectOf items) : item ∈ items := by
  have stored : ∀ (items : List (Text × Json)) (read : Dict Text Json),
      item ∈ (items.foldl (fun (read : Dict Text Json) item => read.set item.1 item.2) read).entries →
        item ∈ read.entries ∨ item ∈ items := by
    intro items
    induction items with
    | nil => exact fun read here => Or.inl here
    | cons first rest ih =>
      intro read here
      rcases ih (read.set first.1 first.2) here with old | later
      · rcases Dict.mem_entries_set old with new | kept
        · exact Or.inr (new ▸ List.mem_cons_self)
        · exact Or.inl kept
      · exact Or.inr (List.mem_cons_of_mem _ later)
  exact (stored items Dict.empty member).resolve_left List.not_mem_nil

/-- A run of digits stands for a number below the power of ten of its length. -/
theorem digitsValue_lt {digits : Text} (all : ∀ c ∈ digits, Text.isDigitAscii c = true) :
    digitsValue digits < 10 ^ digits.length := by
  have below : ∀ (digits : Text) (start : ℕ), (∀ c ∈ digits, Text.isDigitAscii c = true) →
      digits.foldl (fun n c => 10 * n + (c.val - 0x30)) start < (start + 1) * 10 ^ digits.length := by
    intro digits
    induction digits with
    | nil => intro start _; simp
    | cons c rest ih =>
      intro start all
      have digit : 0x30 ≤ c.val ∧ c.val ≤ 0x39 := by
        simpa [Text.isDigitAscii] using all c List.mem_cons_self
      rw [List.foldl_cons, List.length_cons, Nat.pow_succ]
      calc rest.foldl (fun n c => 10 * n + (c.val - 0x30)) (10 * start + (c.val - 0x30))
          < (10 * start + (c.val - 0x30) + 1) * 10 ^ rest.length :=
            ih _ fun d member => all d (List.mem_cons_of_mem _ member)
        _ ≤ ((start + 1) * 10) * 10 ^ rest.length := Nat.mul_le_mul_right _ (by omega)
        _ = (start + 1) * (10 ^ rest.length * 10) := by rw [Nat.mul_assoc, Nat.mul_comm 10]
  simpa [digitsValue] using below digits 0 all

/-- A number that was read has as many digits as its literal, or fewer. -/
theorem loaded_int {digits : Text} {n : ℤ} (some : digits ≠ [])
    (all : ∀ c ∈ digits, Text.isDigitAscii c = true) (value : n.natAbs = digitsValue digits)
    (short : ¬ (py.maxStrDigits ≠ 0 ∧ py.maxStrDigits < digits.length)) : Loaded py (.int n) := by
  refine ⟨trivial, ?_⟩
  have printed : (Text.ofNat n.natAbs).length ≤ digits.length := by
    rw [Text.ofNat_eq, List.length_map,
      Nat.length_toDigits_le_iff (by decide) (List.length_pos_of_ne_nil some), value]
    exact digitsValue_lt all
  rw [digitsFit, Bool.or_eq_true, beq_iff_eq, decide_eq_true_iff]
  omega

theorem span_digits (text : Text) : ∀ c ∈ (scanDigits text).1, Text.isDigitAscii c = true := by
  intro c member
  rw [scanDigits, List.span_eq_takeWhile_dropWhile] at member
  exact List.all_eq_true.mp List.all_takeWhile c member

theorem loaded_scanUnsigned {negative : Bool} {text rest : Text} {v : Json}
    (read : scanUnsigned py negative text = .ok (v, rest)) : Loaded py v := by
  cases text with
  | nil => cases read
  | cons d later =>
    rw [scanUnsigned] at read
    split at read
    · next digit =>
      have whole : (scanWhole d later).1 ≠ [] ∧
          ∀ c ∈ (scanWhole d later).1, Text.isDigitAscii c = true := by
        unfold scanWhole
        split
        · exact ⟨List.cons_ne_nil _ _, fun c member => List.mem_singleton.mp member ▸ digit⟩
        · exact ⟨List.cons_ne_nil _ _, List.forall_mem_cons.mpr ⟨digit, span_digits later⟩⟩
      dsimp only at read
      split at read
      · unfold scanInteger at read
        split at read
        · cases read
        · next short =>
          cases read
          refine loaded_int whole.1 whole.2 ?_ short
          split
          · rw [Int.natAbs_neg, Int.natAbs_natCast]
          · rw [Int.natAbs_natCast]
      · cases read
        exact ⟨trivial, rfl⟩
    · cases read

theorem loaded_scanScalar {text rest : Text} {v : Json}
    (read : scanScalar py text = .ok (v, rest)) : Loaded py v := by
  unfold scanScalar at read
  split at read
  · next spelling value found =>
    cases read
    have member := List.mem_of_find?_eq_some found
    revert member
    simp only [constants, List.mem_cons, Prod.mk.injEq]
    rintro (⟨_, rfl⟩ | ⟨_, rfl⟩ | ⟨_, rfl⟩ | ⟨_, rfl⟩ | ⟨_, rfl⟩ | ⟨_, rfl⟩ | none)
    all_goals first | exact ⟨trivial, rfl⟩ | exact (List.not_mem_nil none).elim
  · cases text with
    | nil => cases read
    | cons c later =>
      unfold scanNumber at read
      dsimp only at read
      split at read
      · exact loaded_scanUnsigned read
      · exact loaded_scanUnsigned read

/-- Whatever the scanners return is loaded. -/
theorem loaded_scan (rounds : ℕ) :
    (∀ text v rest, scanOnce py rounds text = .ok (v, rest) → Loaded py v) ∧
      (∀ text items rest, scanItems py rounds text = .ok (items, rest) →
        ∀ item ∈ items, Loaded py item) ∧
        ∀ text items rest, scanEntries py rounds text = .ok (items, rest) →
          ∀ item ∈ items, Loaded py item.2 := by
  induction rounds with
  | zero =>
    refine ⟨fun text v rest read => ?_, fun text items rest read => ?_,
      fun text items rest read => ?_⟩
    · cases read
    · cases read
    · cases read
  | succ rounds ih =>
    obtain ⟨once, items, entries⟩ := ih
    refine ⟨fun text v rest read => ?_, fun text values rest read => ?_,
      fun text pairs rest read => ?_⟩
    · cases text with
      | nil => cases read
      | cons c later =>
        rw [scanOnce] at read
        split at read
        · obtain ⟨⟨s, after⟩, _, done⟩ := bind_eq_ok.mp read
          cases done
          exact ⟨trivial, rfl⟩
        split at read
        · dsimp only at read
          split at read
          · cases read
            exact loaded_obj.mpr ⟨List.nodup_nil, fun _ none => (List.not_mem_nil none).elim⟩
          · obtain ⟨⟨pairs, after⟩, scanned, done⟩ := bind_eq_ok.mp read
            cases done
            exact loaded_obj.mpr ⟨Dict.nodup _, fun item member =>
              entries _ _ _ scanned item (mem_objectOf member)⟩
        split at read
        · dsimp only at read
          split at read
          · cases read
            exact loaded_arr.mpr fun _ none => (List.not_mem_nil none).elim
          · obtain ⟨⟨values, after⟩, scanned, done⟩ := bind_eq_ok.mp read
            cases done
            exact loaded_arr.mpr (items _ _ _ scanned)
        · exact loaded_scanScalar read
    · rw [scanItems] at read
      obtain ⟨⟨value, after⟩, first, read⟩ := bind_eq_ok.mp read
      have here := once _ _ _ first
      dsimp only at read
      split at read
      · cases read
      split at read
      · cases read
        exact List.forall_mem_singleton.mpr here
      split at read
      · split at read
        · cases read
        · obtain ⟨⟨more, last⟩, scanned, done⟩ := bind_eq_ok.mp read
          cases done
          exact List.forall_mem_cons.mpr ⟨here, items _ _ _ scanned⟩
      · cases read
    · rw [scanEntries] at read
      obtain ⟨⟨key, after⟩, _, read⟩ := bind_eq_ok.mp read
      obtain ⟨⟨value, after'⟩, first, read⟩ := bind_eq_ok.mp read
      have here := once _ _ _ first
      dsimp only at read
      split at read
      · cases read
      split at read
      · cases read
        exact List.forall_mem_singleton.mpr here
      split at read
      · split at read
        · cases read
        · obtain ⟨⟨more, last⟩, scanned, done⟩ := bind_eq_ok.mp read
          cases done
          exact List.forall_mem_cons.mpr ⟨here, entries _ _ _ scanned⟩
      · cases read

/-- A loaded value has each key once, and integers that can be printed. -/
theorem loads_loaded {text : Text} {v : Json} (read : loads py text = .ok v) : Loaded py v := by
  unfold loads at read
  split at read
  · cases read
  · obtain ⟨⟨value, rest⟩, scanned, done⟩ := bind_eq_ok.mp read
    dsimp only at done
    split at done
    · cases done
      exact (loaded_scan _).1 _ _ _ scanned
    · cases done

end Json

end AxiomMcp.Lib

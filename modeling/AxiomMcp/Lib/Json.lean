/-
**JSON values as Python holds them after `json.loads`.**

An integer is unbounded, a float is a binary64 given by its bits, a string may hold lone surrogates and
an object is the list of its items in insertion order, each key once (`Json.WellFormed`).

* `Json.field?` is `document.get(name)`;
* `Json.normal` makes any value one that Python can hold;
* `Json.pyEq` is Python's `==` inside a container: `True == 1 == 1.0`, objects are compared without
  their order, and the one NaN that `json.loads` makes is equal to itself;
* `Json.pyStr` is `str(value)`, which prints a container with the `repr` of its members;
* `Interpreter` gathers the tables of the Python interpreter that the code reads. They are a parameter
  of everything that uses them, so nothing depends on a version of Unicode.
-/

import AxiomMcp.Lib.Text
import Mathlib.Data.Int.Order.Basic

namespace AxiomMcp.Lib

/-- A binary64 floating-point number, by its bit pattern. -/
structure PyFloat where
  bits : BitVec 64
  deriving DecidableEq

namespace PyFloat

/-- The sign bit. -/
def negative (x : PyFloat) : Bool := x.bits.getLsbD 63

/-- The biased exponent. -/
def exponent (x : PyFloat) : ℕ := x.bits.toNat / 2 ^ 52 % 2 ^ 11

/-- The stored fraction. -/
def fraction (x : PyFloat) : ℕ := x.bits.toNat % 2 ^ 52

def isNaN (x : PyFloat) : Bool := x.exponent == 2047 && x.fraction != 0

def isFinite (x : PyFloat) : Bool := x.exponent != 2047

/-- Magnitude of a finite float, as a count of units `2 ^ -1074`. -/
def units (x : PyFloat) : ℕ :=
  if x.exponent = 0 then x.fraction else (2 ^ 52 + x.fraction) * 2 ^ (x.exponent - 1)

/-- A finite float as a signed count of units `2 ^ -1074`. -/
def signedUnits (x : PyFloat) : ℤ := if x.negative then -(x.units : ℤ) else x.units

/-- `x == y` -/
def pyEq (x y : PyFloat) : Bool :=
  !x.isNaN && !y.isNaN && (x.bits == y.bits || (x.units == 0 && y.units == 0))

/-- `x == n` for an integer `n`. -/
def eqInt (x : PyFloat) (n : ℤ) : Bool := x.isFinite && x.signedUnits == n * 2 ^ 1074

end PyFloat

/-- What the interpreter brings along: its character database, and how it reads and prints
numbers. -/
structure Interpreter where
  /-- The method `str.casefold`. -/
  casefold : Text → Text
  /-- The method `str.isprintable`, on one character. -/
  isPrintable : CodePoint → Bool
  /-- The text `repr` gives a float. -/
  floatRepr : PyFloat → Text
  /-- The float a JSON number with a fraction or an exponent stands for. -/
  floatOf : Text → PyFloat
  /-- The value of `sys.get_int_max_str_digits()`; 0 for no limit. -/
  maxStrDigits : ℕ

/-- The tables of an interpreter on ASCII text. -/
def Interpreter.ascii : Interpreter where
  casefold text := text.map fun c =>
    if 0x41 ≤ c.val ∧ c.val ≤ 0x5a then Fin.ofNat 0x110000 (c.val + 0x20) else c
  isPrintable c := 0x20 ≤ c.val && c.val < 0x7f
  floatRepr _ := []
  floatOf _ := ⟨0⟩
  maxStrDigits := 4300

/-- A JSON value. -/
inductive Json
  | null
  | bool (value : Bool)
  | int (value : ℤ)
  | float (value : PyFloat)
  | str (value : Text)
  | arr (items : List Json)
  | obj (entries : List (Text × Json))

/-- The items of a JSON object. -/
abbrev JsonObject := List (Text × Json)

namespace Json

/-- `document.get(name)` of an object's items. -/
def get? (entries : JsonObject) (name : Text) : Option Json := entries.lookup name

/-- `document.get(name)`, of an object. -/
def field? : Json → Text → Option Json
  | .obj entries, name => get? entries name
  | _, _ => none

/-- The items of a value that is an object. -/
def object? : Json → Option JsonObject
  | .obj entries => some entries
  | _ => none

/-- `document.get(name)`, where it is a string. -/
def text? (document : Json) (name : Text) : Option Text :=
  match document.field? name with
  | some (.str value) => some value
  | _ => none

mutual
/-- Objects hold each key once, at every depth. -/
def WellFormed : Json → Prop
  | .arr items => WellFormedItems items
  | .obj entries => (entries.map Prod.fst).Nodup ∧ WellFormedEntries entries
  | _ => True

def WellFormedItems : List Json → Prop
  | [] => True
  | item :: rest => WellFormed item ∧ WellFormedItems rest

def WellFormedEntries : JsonObject → Prop
  | [] => True
  | (_, value) :: rest => WellFormed value ∧ WellFormedEntries rest
end

mutual
/-- The value with each key of its objects once: of several items under a key, the first. -/
def normal : Json → Json
  | .arr items => .arr (normalItems items)
  | .obj entries => .obj (normalEntries entries)
  | value => value

def normalItems : List Json → List Json
  | [] => []
  | item :: rest => normal item :: normalItems rest

def normalEntries : JsonObject → JsonObject
  | [] => []
  | (key, value) :: rest =>
    (key, normal value) :: (normalEntries rest).filter fun entry => decide (entry.1 ≠ key)
end

theorem wellFormedEntries_filter {entries : JsonObject} (keep : Text × Json → Bool)
    (formed : WellFormedEntries entries) : WellFormedEntries (entries.filter keep) := by
  induction entries with
  | nil => exact formed
  | cons entry rest ih =>
    rw [List.filter_cons]
    split
    · exact ⟨formed.1, ih formed.2⟩
    · exact ih formed.2

mutual
theorem wellFormed_normal : ∀ value : Json, WellFormed (normal value)
  | .null => trivial
  | .bool _ => trivial
  | .int _ => trivial
  | .float _ => trivial
  | .str _ => trivial
  | .arr items => wellFormed_normalItems items
  | .obj entries => wellFormed_normalEntries entries

theorem wellFormed_normalItems : ∀ items : List Json, WellFormedItems (normalItems items)
  | [] => trivial
  | item :: rest => ⟨wellFormed_normal item, wellFormed_normalItems rest⟩

/-- What `normal` makes of the items of an object. -/
theorem wellFormed_normalEntries : ∀ entries : JsonObject,
    ((normalEntries entries).map Prod.fst).Nodup ∧ WellFormedEntries (normalEntries entries)
  | [] => ⟨List.nodup_nil, trivial⟩
  | (key, value) :: rest => by
    obtain ⟨distinct, formed⟩ := wellFormed_normalEntries rest
    refine ⟨List.nodup_cons.mpr ⟨?_, ?_⟩, wellFormed_normal value, wellFormedEntries_filter _ formed⟩
    · intro again
      obtain ⟨entry, kept, same⟩ := List.mem_map.mp again
      exact of_decide_eq_true (List.mem_filter.mp kept).2 same
    · exact distinct.sublist (List.filter_sublist.map _)
end

/-! ### Python's `==`

A container compares its members by identity first. That matters for NaN only, and every NaN of a loaded
document is the same object. -/

/-- The integer a number is equal to: `True` is `1`. -/
def asInt? : Json → Option ℤ
  | .bool value => some (if value then 1 else 0)
  | .int value => some value
  | _ => none

mutual
/-- `a is b or a == b` -/
def pyEq : Json → Json → Bool
  | .null, .null => true
  | .str a, .str b => a == b
  | .float a, .float b => a.pyEq b || (a.isNaN && b.isNaN)
  | .float a, b => match b.asInt? with
    | some n => a.eqInt n
    | none => false
  | .arr a, .arr b => pyEqItems a b
  | .obj a, .obj b => a.length == b.length && pyEqEntries a b
  | a, .float b => match a.asInt? with
    | some n => b.eqInt n
    | none => false
  | a, b => match a.asInt?, b.asInt? with
    | some m, some n => m == n
    | _, _ => false

def pyEqItems : List Json → List Json → Bool
  | [], [] => true
  | a :: as, b :: bs => pyEq a b && pyEqItems as bs
  | _, _ => false

/-- Every item of the first object is an item of the second. -/
def pyEqEntries : JsonObject → JsonObject → Bool
  | [], _ => true
  | (key, a) :: rest, other =>
    (match get? other key with
    | some b => pyEq a b
    | none => false) && pyEqEntries rest other
end

/-- `a == b` of two dictionaries. -/
def objectEq (a b : JsonObject) : Bool := pyEq (.obj a) (.obj b)

/-! ### `str` -/

mutual
/-- `repr(value)` -/
def pyRepr (py : Interpreter) : Json → Text
  | .null => "None"
  | .bool value => if value then "True" else "False"
  | .int value => Text.ofInt value
  | .float value => py.floatRepr value
  | .str value => value.pyRepr py.isPrintable
  | .arr items => ("[" : Text) ++ reprItems py items ++ ("]" : Text)
  | .obj entries => ("\x7b" : Text) ++ reprEntries py entries ++ ("\x7d" : Text)

def reprItems (py : Interpreter) : List Json → Text
  | [] => []
  | [item] => pyRepr py item
  | item :: rest => pyRepr py item ++ (", " : Text) ++ reprItems py rest

def reprEntries (py : Interpreter) : JsonObject → Text
  | [] => []
  | [(key, value)] => key.pyRepr py.isPrintable ++ (": " : Text) ++ pyRepr py value
  | (key, value) :: rest =>
    key.pyRepr py.isPrintable ++ (": " : Text) ++ pyRepr py value ++ (", " : Text) ++
      reprEntries py rest
end

/-- `str(value)` -/
def pyStr (py : Interpreter) : Json → Text
  | .str value => value
  | value => value.pyRepr py

/-- `str(entries.get(name, ""))` -/
def strField (py : Interpreter) (entries : JsonObject) (name : Text) : Text :=
  pyStr py ((get? entries name).getD (.str []))

end Json

end AxiomMcp.Lib

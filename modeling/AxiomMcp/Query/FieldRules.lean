/-
**What a parser's checks raise.**

A parser checks one field after another. A check either accepts a value, or refuses it with a
`QueryModelError`, or strays: it raises something else, for a value that cannot be hashed, iterated or made a
dictionary of, or whose refusal prints an integer of too many digits.

* `FieldRule`, `Follows`: what a check accepts and on what it strays;
* `strays_field`, `accepts_field`: a sequence of checks strays where its first check does, or, where that
  accepts, the rest;
* `strays_mapM`: a loop strays at its first item that is not accepted;
* `accepts_dictOf_iff`: the values that `dict` takes.
-/

import AxiomMcp.Query.Documents
import AxiomMcp.Lib.JsonEqual

namespace AxiomMcp.Query

open AxiomMcp.Lib

/-! ### Straying -/

/-- A fault that is a `QueryModelError`. -/
def GraphFault.refuses : GraphFault → Bool
  | .node _ | .edge _ | .refused _ => true
  | .typeError | .valueError => false

/-- A computation that raises anything else. -/
def Strays {α : Type} (x : Except GraphFault α) : Prop := ∃ fault, x = .error fault ∧ fault.refuses = false

/-- A computation that returns. -/
def Accepts {α : Type} (x : Except GraphFault α) : Prop := ∃ a, x = .ok a

section Strays

variable {α β : Type} {x : Except GraphFault α} {f : α → Except GraphFault β}

theorem not_strays_ok (a : α) : ¬ Strays (.ok a : Except GraphFault α) := by
  rintro ⟨_, none, _⟩
  cases none

theorem strays_error {fault : GraphFault} :
    Strays (.error fault : Except GraphFault α) ↔ fault.refuses = false :=
  ⟨fun ⟨_, same, strays⟩ => Except.error.inj same ▸ strays, fun strays => ⟨fault, rfl, strays⟩⟩

theorem not_accepts_error {fault : GraphFault} : ¬ Accepts (.error fault : Except GraphFault α) := by
  rintro ⟨_, none⟩
  cases none

instance : Decidable (Accepts x) :=
  match x with
  | .ok a => isTrue ⟨a, rfl⟩
  | .error _ => isFalse not_accepts_error

instance : Decidable (Strays x) :=
  match x with
  | .ok a => isFalse (not_strays_ok a)
  | .error fault => decidable_of_iff (fault.refuses = false) strays_error.symm

/-- A sequence strays where its first part does, or, where that returns, the rest. -/
theorem strays_bind {Q : Prop} (later : ∀ a, x = .ok a → (Strays (f a) ↔ Q)) :
    Strays (x >>= f) ↔ Strays x ∨ (Accepts x ∧ Q) := by
  cases x with
  | error fault =>
    have failed : ((.error fault : Except GraphFault α) >>= f) = .error fault := rfl
    rw [failed, strays_error, strays_error]
    exact ⟨Or.inl, fun strays => strays.elim id fun accepted => (not_accepts_error accepted.1).elim⟩
  | ok a =>
    rw [ok_bind, later a rfl]
    exact ⟨fun strays => Or.inr ⟨⟨a, rfl⟩, strays⟩, fun strays => strays.elim (fun none =>
      (not_strays_ok a none).elim) And.right⟩

theorem accepts_bind {Q : Prop} (later : ∀ a, x = .ok a → (Accepts (f a) ↔ Q)) :
    Accepts (x >>= f) ↔ Accepts x ∧ Q := by
  cases x with
  | error fault => exact iff_of_false not_accepts_error fun accepted => not_accepts_error accepted.1
  | ok a =>
    rw [ok_bind, later a rfl]
    exact ⟨fun accepted => ⟨⟨a, rfl⟩, accepted⟩, And.right⟩

theorem strays_map {g : α → β} : Strays (x.map g) ↔ Strays x := by
  cases x with
  | error fault => exact strays_error.trans strays_error.symm
  | ok a => exact iff_of_false (not_strays_ok _) (not_strays_ok _)

theorem accepts_map {g : α → β} : Accepts (x.map g) ↔ Accepts x := by
  cases x with
  | error fault => exact iff_of_false not_accepts_error not_accepts_error
  | ok a => exact iff_of_true ⟨_, rfl⟩ ⟨_, rfl⟩

end Strays

/-! ### The rules of the fields -/

/-- What a check accepts, and on what it strays. -/
structure FieldRule where
  accepts : Json → Prop
  strays : Json → Prop

/-- A check that follows a rule. -/
structure Follows {α : Type} (check : Json → Except GraphFault α) (rule : FieldRule) : Prop where
  accepts : ∀ value, Accepts (check value) ↔ rule.accepts value
  strays : ∀ value, Strays (check value) ↔ rule.strays value

/-- Fields with the rules they are checked by, in the order of the checks. -/
abbrev Rules := List (Text × FieldRule)

/-- All items are accepted, and what comes after them holds. -/
def AllAccepted {α : Type} (accepts : α → Prop) (after : Prop) : List α → Prop
  | [] => after
  | item :: rest => accepts item ∧ AllAccepted accepts after rest

/-- The first item that is not accepted strays, or all are accepted and what comes after them holds. -/
def FirstStrays {α : Type} (accepts strays : α → Prop) (after : Prop) : List α → Prop
  | [] => after
  | item :: rest => strays item ∨ (accepts item ∧ FirstStrays accepts strays after rest)

/-- What comes after a list of items is an alternative of its own. -/
theorem firstStrays_iff {α : Type} {accepts strays : α → Prop} {after : Prop} {l : List α} :
    FirstStrays accepts strays after l ↔
      FirstStrays accepts strays False l ∨ ((∀ item ∈ l, accepts item) ∧ after) := by
  induction l with
  | nil => exact ⟨fun later => Or.inr ⟨List.forall_mem_nil _, later⟩,
    fun either => either.elim False.elim And.right⟩
  | cons item rest ih =>
    rw [FirstStrays, FirstStrays, ih, List.forall_mem_cons]
    tauto

/-- The fields of a document are accepted, and what comes after them holds. -/
def Rules.Accept (rules : Rules) (document : JsonObject) (after : Prop) : Prop :=
  AllAccepted (fun item : Text × FieldRule => item.2.accepts (fieldOf document item.1)) after rules

/-- The first field of a document that is not accepted strays, or what comes after the fields does. -/
def Rules.Stray (rules : Rules) (document : JsonObject) (after : Prop) : Prop :=
  FirstStrays (fun item : Text × FieldRule => item.2.accepts (fieldOf document item.1))
    (fun item => item.2.strays (fieldOf document item.1)) after rules

section Rules

variable (py : Interpreter)

/-- An integer in the value is too long to print. -/
def Unprinted (value : Json) : Prop := value.digitsFit py = false

/-- A text that a pattern accepts. A refusal prints the value. -/
def textRule (accepts : Text → Bool) : FieldRule where
  accepts value := ∃ text, value = .str text ∧ accepts text = true
  strays := Unprinted py

/-- One of the names of a contract, which may be looked up by its hash. -/
def nameRule (names : List Text) (hashed : Bool) : FieldRule where
  accepts value := ∃ text, value = .str text ∧ text ∈ names
  strays value := (hashed = true ∧ hashable value = false) ∨ Unprinted py value

/-- A positive integer. -/
def lineRule : FieldRule where
  accepts value := ∃ line : ℤ, value = .int line ∧ 1 ≤ line
  strays value := (∀ line : ℤ, value = .int line → line < 1) ∧ Unprinted py value

variable {py}

theorem strays_printing {α : Type} {value : Json} {fault : GraphFault} (refuses : fault.refuses = true) :
    Strays (.error (printing py value fault) : Except GraphFault α) ↔ Unprinted py value := by
  rw [strays_error, printing, Unprinted]
  cases value.digitsFit py with
  | true => exact iff_of_false (fun none => Bool.false_ne_true (none.symm.trans refuses)) Bool.noConfusion
  | false => exact iff_of_true rfl rfl

/-- A message that prints two values. -/
theorem strays_printing_two {α : Type} {a b : Json} {fault : GraphFault} (refuses : fault.refuses = true) :
    Strays (.error (printing py a (printing py b fault)) : Except GraphFault α) ↔
      Unprinted py b ∨ Unprinted py a := by
  by_cases long : Unprinted py b
  · have inner : (printing py b fault).refuses = false :=
      strays_error.mp ((@strays_printing py α _ _ refuses).mpr long)
    refine iff_of_true (strays_error.mpr ?_) (Or.inl long)
    unfold printing at inner ⊢
    split
    · exact inner
    · rfl
  · have printed : b.digitsFit py = true := Bool.of_not_eq_false long
    have inner : printing py b fault = fault := if_pos printed
    rw [inner, strays_printing refuses]
    exact ⟨Or.inr, fun either => either.resolve_left long⟩

theorem printed_str (text : Text) : ¬ Unprinted py (.str text) := Bool.noConfusion

theorem follows_text {accepts : Text → Bool} {fault : Json → GraphFault}
    (refuses : ∀ value, (fault value).refuses = true) :
    Follows (acceptedText accepts fun value => printing py value (fault value)) (textRule py accepts) := by
  refine ⟨fun value => ?_, fun value => ?_⟩
  · cases value with
    | str value =>
      unfold acceptedText
      dsimp only
      split
      · next good => exact iff_of_true ⟨_, rfl⟩ ⟨value, rfl, good⟩
      · next bad =>
        refine iff_of_false not_accepts_error ?_
        rintro ⟨text, same, good⟩
        exact bad (Json.str.inj same ▸ good)
    | _ => exact iff_of_false not_accepts_error fun ⟨_, other, _⟩ => nomatch other
  · cases value with
    | str value =>
      refine iff_of_false ?_ (printed_str value)
      unfold acceptedText
      dsimp only
      split
      · exact not_strays_ok _
      · exact fun strays => printed_str value ((strays_printing (refuses _)).mp strays)
    | _ => exact strays_printing (refuses _)

theorem follows_named {α : Type} {name : α → Text} {all : List α} {fault : Json → GraphFault}
    (refuses : ∀ value, (fault value).refuses = true) :
    Follows (fun value => namedValue name all (printing py value (fault value)) value)
      (nameRule py (all.map name) false) := by
  have plain (value : Json) : (nameRule py (all.map name) false).strays value ↔ Unprinted py value :=
    ⟨fun strays => strays.elim (fun hashed => Bool.noConfusion hashed.1) id, Or.inr⟩
  refine ⟨fun value => ?_, fun value => ?_⟩
  · cases value with
    | str value =>
      dsimp only [namedValue]
      split
      · next item found =>
        refine iff_of_true ⟨item, rfl⟩ ⟨value, rfl, List.mem_map.mpr ⟨item, List.mem_of_find?_eq_some found, ?_⟩⟩
        simpa using List.find?_some found
      · next missing =>
        refine iff_of_false not_accepts_error ?_
        rintro ⟨text, same, listed⟩
        obtain ⟨item, member, rfl⟩ := List.mem_map.mp listed
        exact List.find?_eq_none.mp missing item member (decide_eq_true (Json.str.inj same).symm)
    | _ => exact iff_of_false not_accepts_error fun ⟨_, other, _⟩ => nomatch other
  · rw [plain]
    cases value with
    | str value =>
      refine iff_of_false ?_ (printed_str value)
      dsimp only [namedValue]
      split
      · exact not_strays_ok _
      · exact fun strays => printed_str value ((strays_printing (refuses _)).mp strays)
    | _ => exact strays_printing (refuses _)

theorem follows_hashed {α : Type} {name : α → Text} {all : List α} {fault : Json → GraphFault}
    (refuses : ∀ value, (fault value).refuses = true) :
    Follows (fun value => hashedValue name all (printing py value (fault value)) value)
      (nameRule py (all.map name) true) := by
  have named := @follows_named py α name all fault refuses
  refine ⟨fun value => ?_, fun value => ?_⟩
  · unfold hashedValue
    split
    · exact named.accepts value
    · next unhashable =>
      refine iff_of_false not_accepts_error ?_
      rintro ⟨text, rfl, _⟩
      exact unhashable rfl
  · unfold hashedValue
    split
    · next hashes =>
      refine (named.strays value).trans (or_congr ?_ Iff.rfl)
      exact iff_of_false (fun none => Bool.false_ne_true none.1)
        fun none => Bool.false_ne_true (none.2.symm.trans hashes)
    · next unhashable =>
      exact iff_of_true (strays_error.mpr rfl) (Or.inl ⟨rfl, Bool.eq_false_iff.mpr unhashable⟩)

theorem follows_line (name : Text) : Follows (sourceLine py name) (lineRule py) := by
  have refused {α : Type} (value : Json) :
      Strays (.error (lineFault py name value) : Except GraphFault α) ↔ Unprinted py value := strays_printing rfl
  refine ⟨fun value => ?_, fun value => ?_⟩
  · cases value with
    | int line =>
      unfold sourceLine
      dsimp only
      split
      · next positive => exact iff_of_true ⟨_, rfl⟩ ⟨line, rfl, positive⟩
      · next negative =>
        refine iff_of_false not_accepts_error ?_
        rintro ⟨other, same, positive⟩
        exact negative (Json.int.inj same ▸ positive)
    | _ => exact iff_of_false not_accepts_error fun ⟨_, other, _⟩ => nomatch other
  · cases value with
    | int line =>
      unfold sourceLine
      dsimp only
      split
      · next positive =>
        refine iff_of_false (not_strays_ok _) fun strays => ?_
        have low := strays.1 line rfl
        omega
      · next negative =>
        refine (refused _).trans ⟨fun unprinted => ⟨fun other same => ?_, unprinted⟩, And.right⟩
        obtain rfl := Json.int.inj same
        omega
    | _ =>
      refine (refused _).trans (Iff.intro (fun unprinted => ⟨?_, unprinted⟩) And.right)
      exact fun _ other => nomatch other

/-- A check, and what comes after it. -/
theorem strays_field {α β : Type} {check : Json → Except GraphFault α} {rule : FieldRule}
    (follows : Follows check rule) {value : Json} {f : α → Except GraphFault β} {Q : Prop}
    (later : ∀ a, check value = .ok a → (Strays (f a) ↔ Q)) :
    Strays (check value >>= f) ↔ rule.strays value ∨ (rule.accepts value ∧ Q) := by
  rw [strays_bind later, follows.strays, follows.accepts]

theorem accepts_field {α β : Type} {check : Json → Except GraphFault α} {rule : FieldRule}
    (follows : Follows check rule) {value : Json} {f : α → Except GraphFault β} {Q : Prop}
    (later : ∀ a, check value = .ok a → (Accepts (f a) ↔ Q)) :
    Accepts (check value >>= f) ↔ rule.accepts value ∧ Q := by
  rw [accepts_bind later, follows.accepts]

end Rules

/-! ### Loops -/

section Loops

variable {α β : Type}

/-- A loop strays at its first item that is not accepted. -/
theorem strays_mapM {f : α → Except GraphFault β} {l : List α} :
    Strays (l.mapM f) ↔ FirstStrays (fun a => Accepts (f a)) (fun a => Strays (f a)) False l := by
  induction l with
  | nil => exact iff_of_false (not_strays_ok _) id
  | cons a rest ih =>
    rw [List.mapM_cons, FirstStrays]
    refine strays_bind fun b _ => ?_
    rw [← ih]
    exact (strays_bind fun bs _ => iff_of_false (not_strays_ok _) id).trans
      ⟨fun strays => strays.elim id fun none => none.2.elim, Or.inl⟩

theorem accepts_mapM {f : α → Except GraphFault β} {l : List α} :
    Accepts (l.mapM f) ↔ ∀ a ∈ l, Accepts (f a) := by
  refine ⟨?_, mapM_of_ok⟩
  rintro ⟨bs, done⟩ a member
  obtain ⟨b, _, here⟩ := forall₂_left (mapM_ok.mp done) member
  exact ⟨b, here⟩

/-- A computation that returns where a condition holds, and strays elsewhere. -/
structure Decided (x : Except GraphFault α) (P : Prop) : Prop where
  accepts : Accepts x ↔ P
  strays : Strays x ↔ ¬ P

theorem decided_ok (a : α) : Decided (.ok a : Except GraphFault α) True :=
  ⟨iff_of_true ⟨a, rfl⟩ trivial, iff_of_false (not_strays_ok a) (not_not_intro trivial)⟩

theorem decided_error {fault : GraphFault} (strays : fault.refuses = false) :
    Decided (.error fault : Except GraphFault α) False :=
  ⟨iff_of_false not_accepts_error id, iff_of_true (strays_error.mpr strays) id⟩

theorem Decided.congr {x : Except GraphFault α} {P Q : Prop} (decided : Decided x P) (same : P ↔ Q) :
    Decided x Q :=
  propext same ▸ decided

theorem Decided.strays_bind {x : Except GraphFault α} {f : α → Except GraphFault β} {P Q : Prop}
    (first : Decided x P) (later : ∀ a, x = .ok a → (Strays (f a) ↔ Q)) : Strays (x >>= f) ↔ ¬ P ∨ Q := by
  rw [AxiomMcp.Query.strays_bind later, first.accepts, first.strays]
  tauto

theorem Decided.accepts_bind {x : Except GraphFault α} {f : α → Except GraphFault β} {P Q : Prop}
    (first : Decided x P) (later : ∀ a, x = .ok a → (Accepts (f a) ↔ Q)) : Accepts (x >>= f) ↔ P ∧ Q := by
  rw [AxiomMcp.Query.accepts_bind later, first.accepts]

theorem decided_bind {x : Except GraphFault α} {f : α → Except GraphFault β} {P Q : Prop}
    (first : Decided x P) (later : ∀ a, x = .ok a → Decided (f a) Q) : Decided (x >>= f) (P ∧ Q) := by
  refine ⟨first.accepts_bind fun a done => (later a done).accepts, ?_⟩
  rw [first.strays_bind fun a done => (later a done).strays]
  tauto

theorem decided_foldlM {f : β → α → Except GraphFault β} {P : α → Prop}
    (each : ∀ b a, Decided (f b a) (P a)) (l : List α) (b : β) :
    Decided (l.foldlM f b) (∀ a ∈ l, P a) := by
  induction l generalizing b with
  | nil => exact (decided_ok b).congr (iff_of_true trivial (List.forall_mem_nil _))
  | cons a rest ih =>
    rw [List.foldlM_cons]
    exact (decided_bind (each b a) fun next _ => ih next).congr List.forall_mem_cons.symm

theorem decided_map {x : Except GraphFault α} {P : Prop} (decided : Decided x P) (g : α → β) :
    Decided (x.map g) P :=
  ⟨accepts_map.trans decided.accepts, strays_map.trans decided.strays⟩

theorem decided_mapM {f : α → Except GraphFault β} {P : α → Prop} (each : ∀ a, Decided (f a) (P a))
    (l : List α) : Decided (l.mapM f) (∀ a ∈ l, P a) := by
  induction l with
  | nil => exact (decided_ok _).congr (iff_of_true trivial (List.forall_mem_nil _))
  | cons a rest ih =>
    rw [List.mapM_cons]
    refine (decided_bind (each a) fun b _ => decided_bind ih fun bs _ => decided_ok _).congr ?_
    rw [and_true, List.forall_mem_cons]

end Loops

/-! ### Dictionaries -/

section Dictionaries

variable {py : Interpreter}

/-- A sequence of a key and a value. -/
def Paired (pair : Json) : Prop := ∃ key value, pyList pair = .ok [key, value] ∧ hashable key = true

/-- A value that `dict` takes: an object, or a sequence of pairs. -/
def DictLike : Json → Prop
  | .obj _ => True
  | value => ∃ pairs, pyList value = .ok pairs ∧ ∀ pair ∈ pairs, Paired pair

theorem decided_iterated (value : Json) : Decided (iterated value) (∃ items, pyList value = .ok items) := by
  unfold iterated
  cases pyList value with
  | ok items => exact (decided_ok items).congr (iff_of_true trivial ⟨items, rfl⟩)
  | error _ => exact (decided_error rfl).congr (iff_of_false id fun ⟨_, wrong⟩ => nomatch wrong)

theorem iterated_ok {value : Json} {items : List Json} :
    iterated value = .ok items ↔ pyList value = .ok items := mapError_eq_ok

theorem decided_dictKey (key : Json) : Decided (dictKey py key) (hashable key = true) := by
  cases key with
  | arr items => exact (decided_error rfl).congr (iff_of_false id Bool.noConfusion)
  | obj entries => exact (decided_error rfl).congr (iff_of_false id Bool.noConfusion)
  | _ => exact (decided_ok _).congr (iff_of_true trivial rfl)

theorem decided_addPair (entries : Dict Text Json) (pair : Json) :
    Decided (addPair py entries pair) (Paired pair) := by
  have split : Paired pair ↔ (∃ items, pyList pair = .ok items) ∧ Paired pair :=
    ⟨fun paired => ⟨paired.elim fun _ ⟨_, listed, _⟩ => ⟨_, listed⟩, paired⟩, And.right⟩
  unfold addPair
  refine (decided_bind (decided_iterated pair) fun items done => ?_).congr split.symm
  have listed := iterated_ok.mp done
  split
  · next key value =>
    refine (decided_bind (decided_dictKey key) fun text _ => decided_ok _).congr ?_
    rw [and_true]
    refine ⟨fun hashes => ⟨key, value, listed, hashes⟩, ?_⟩
    rintro ⟨other, another, again, hashes⟩
    obtain ⟨rfl, -⟩ := List.cons.inj (Except.ok.inj (listed.symm.trans again))
    exact hashes
  · next other =>
    refine (decided_error rfl).congr (iff_of_false id ?_)
    rintro ⟨key, value, again, _⟩
    exact other key value (Except.ok.inj (listed.symm.trans again))

theorem decided_dictOf (value : Json) : Decided (dictOf py value) (DictLike value) := by
  have sequence (value : Json) : Decided (iterated value >>= fun pairs =>
      pairs.foldlM (addPair py) Dict.empty >>= fun entries => .ok entries.entries)
      (∃ pairs, pyList value = .ok pairs ∧ ∀ pair ∈ pairs, Paired pair) := by
    cases listed : pyList value with
    | error _ =>
      rw [iterated, listed]
      exact (decided_error rfl).congr (iff_of_false id fun ⟨_, wrong, _⟩ => nomatch wrong)
    | ok pairs =>
      rw [iterated_ok.mpr listed, ok_bind]
      refine (decided_bind (decided_foldlM decided_addPair pairs Dict.empty) fun entries _ =>
        decided_ok _).congr ?_
      rw [and_true]
      refine ⟨fun each => ⟨pairs, rfl, each⟩, ?_⟩
      rintro ⟨others, same, each⟩
      exact Except.ok.inj same ▸ each
  cases value with
  | obj entries => exact decided_ok entries
  | _ => exact sequence _

end Dictionaries

end AxiomMcp.Query

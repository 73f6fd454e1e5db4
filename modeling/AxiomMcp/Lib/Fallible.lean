/-
**Computations that may raise.**

What a successful `Except` computation went through: `bind_eq_ok` and `map_eq_ok` take one step of it
apart, and `mapM_ok`, `mapM_of_ok` do so for a loop that raises at its first failing item.

`Raises allowed x` says which errors a computation may raise. `Alike r x y` compares two computations:
they raise the same, or return values related by `r`.
-/

import Mathlib.Control.Basic
import Mathlib.Data.List.Forall2

namespace AxiomMcp.Lib

variable {ε ε' α β : Type}

theorem ok_bind (a : α) (f : α → Except ε β) : (.ok a : Except ε α) >>= f = f a := rfl

/-- A successful sequence of two steps. -/
theorem bind_eq_ok {x : Except ε α} {f : α → Except ε β} {b : β} :
    x >>= f = .ok b ↔ ∃ a, x = .ok a ∧ f a = .ok b := by
  cases x with
  | error raised =>
    constructor
    · rintro ⟨⟩
    · rintro ⟨_, ⟨⟩, _⟩
  | ok a =>
    constructor
    · exact fun done => ⟨a, rfl, done⟩
    · rintro ⟨_, ⟨rfl⟩, done⟩
      exact done

/-- A sequence of two steps that raises. -/
theorem bind_eq_error {x : Except ε α} {f : α → Except ε β} {raised : ε} :
    x >>= f = .error raised ↔ x = .error raised ∨ ∃ a, x = .ok a ∧ f a = .error raised := by
  cases x with
  | error other =>
    constructor
    · exact fun same => Or.inl (congrArg _ (Except.error.inj same))
    · rintro (same | ⟨_, ⟨⟩, _⟩)
      exact congrArg _ (Except.error.inj same)
  | ok a =>
    constructor
    · exact fun failed => Or.inr ⟨a, rfl, failed⟩
    · rintro (⟨⟨⟩⟩ | ⟨_, ⟨rfl⟩, failed⟩)
      exact failed

/-- A check that passed, and what came after it. -/
theorem guarded_ok {c : Prop} [Decidable c] {raised : ε} {x : Except ε α} {a : α} :
    (if c then .error raised else x) = .ok a ↔ ¬ c ∧ x = .ok a := by
  split
  · next stopped => exact iff_of_false (fun wrong => nomatch wrong) fun both => both.1 stopped
  · next passed => exact (and_iff_right passed).symm

/-- A successful step followed by a pure one. -/
theorem map_eq_ok {x : Except ε α} {f : α → β} {b : β} :
    x.map f = .ok b ↔ ∃ a, x = .ok a ∧ f a = b := by
  cases x with
  | error raised =>
    constructor
    · rintro ⟨⟩
    · rintro ⟨_, ⟨⟩, _⟩
  | ok a =>
    constructor
    · exact fun done => ⟨a, rfl, Except.ok.inj done⟩
    · rintro ⟨_, ⟨rfl⟩, rfl⟩
      rfl

/-- An exception that is renamed leaves what is returned. -/
theorem mapError_eq_ok {x : Except ε α} {rename : ε → ε'} {a : α} :
    x.mapError rename = .ok a ↔ x = .ok a := by
  cases x with
  | error raised => exact ⟨(fun wrong => nomatch wrong), fun wrong => nomatch wrong⟩
  | ok b => exact ⟨fun same => congrArg _ (Except.ok.inj same), fun same => congrArg _ (Except.ok.inj same)⟩

theorem mapError_eq_error {x : Except ε α} {rename : ε → ε'} {raised : ε'} :
    x.mapError rename = .error raised ↔ ∃ inner, x = .error inner ∧ rename inner = raised := by
  cases x with
  | error inner =>
    refine ⟨fun same => ⟨inner, rfl, Except.error.inj same⟩, ?_⟩
    rintro ⟨_, same, rfl⟩
    obtain rfl := Except.error.inj same
    rfl
  | ok b =>
    refine ⟨(fun wrong => nomatch wrong), ?_⟩
    rintro ⟨_, wrong, _⟩
    cases wrong

/-- Every item of the one list is related to an item of the other. -/
theorem forall₂_left {r : α → β → Prop} {l : List α} {m : List β} (each : List.Forall₂ r l m) {a : α}
    (member : a ∈ l) : ∃ b ∈ m, r a b := by
  induction each with
  | nil => cases member
  | cons related _ ih =>
    rcases List.mem_cons.mp member with rfl | later
    · exact ⟨_, List.mem_cons_self, related⟩
    · obtain ⟨b, inside, other⟩ := ih later
      exact ⟨b, List.mem_cons_of_mem _ inside, other⟩

/-- Every item of the other list is related to an item of the one. -/
theorem forall₂_right {r : α → β → Prop} {l : List α} {m : List β} (each : List.Forall₂ r l m) {b : β}
    (member : b ∈ m) : ∃ a ∈ l, r a b := by
  obtain ⟨a, inside, related⟩ := forall₂_left each.flip member
  exact ⟨a, inside, related⟩

/-- A list has one first item that a property does not hold of. -/
theorem first_unique {holds : α → Prop} {before before' later later' : List α} {a b : α}
    (same : before ++ a :: later = before' ++ b :: later') (earlier : ∀ other ∈ before, holds other)
    (fails : ¬ holds a)
    (earlier' : ∀ other ∈ before', holds other) (fails' : ¬ holds b) : a = b := by
  induction before generalizing before' with
  | nil =>
    cases before' with
    | nil => exact (List.cons.inj same).1
    | cons first rest => exact (fails ((List.cons.inj same).1 ▸ earlier' first List.mem_cons_self)).elim
  | cons first rest ih =>
    cases before' with
    | nil => exact (fails' ((List.cons.inj same).1 ▸ earlier first List.mem_cons_self)).elim
    | cons first' rest' =>
      exact ih (List.cons.inj same).2 (fun other inside => earlier other (List.mem_cons_of_mem _ inside))
        fun other inside => earlier' other (List.mem_cons_of_mem _ inside)

/-- A loop succeeds exactly when each of its items does. -/
theorem mapM_ok {f : α → Except ε β} {l : List α} {m : List β} :
    l.mapM f = .ok m ↔ List.Forall₂ (fun a b => f a = .ok b) l m := by
  induction l generalizing m with
  | nil =>
    rw [List.mapM_nil, List.forall₂_nil_left_iff]
    constructor
    · rintro ⟨rfl⟩
      rfl
    · rintro rfl
      rfl
  | cons a rest ih =>
    rw [List.mapM_cons, bind_eq_ok, List.forall₂_cons_left_iff]
    constructor
    · rintro ⟨b, here, later⟩
      obtain ⟨bs, done, ⟨rfl⟩⟩ := bind_eq_ok.mp later
      exact ⟨b, bs, here, ih.mp done, rfl⟩
    · rintro ⟨b, bs, here, later, rfl⟩
      exact ⟨b, here, bind_eq_ok.mpr ⟨bs, ih.mpr later, rfl⟩⟩

/-- A loop whose items all succeed. -/
theorem mapM_of_ok {f : α → Except ε β} {l : List α} (each : ∀ a ∈ l, ∃ b, f a = .ok b) :
    ∃ m, l.mapM f = .ok m := by
  induction l with
  | nil => exact ⟨[], rfl⟩
  | cons a rest ih =>
    obtain ⟨b, here⟩ := each a List.mem_cons_self
    obtain ⟨bs, later⟩ := ih fun other member => each other (List.mem_cons_of_mem _ member)
    exact ⟨b :: bs, mapM_ok.mpr (.cons here (mapM_ok.mp later))⟩

/-- A loop of checks that passed. -/
theorem forM_ok {f : α → Except ε Unit} {l : List α} (done : l.forM f = .ok ()) : ∀ a ∈ l, f a = .ok () := by
  induction l with
  | nil => exact List.forall_mem_nil _
  | cons a rest ih =>
    obtain ⟨_, here, later⟩ := bind_eq_ok.mp done
    exact List.forall_mem_cons.mpr ⟨here, ih later⟩

/-- What every round of a loop keeps holds of its result. -/
theorem foldlM_ok (inv : β → Prop) {f : β → α → Except ε β}
    (round : ∀ b a b', inv b → f b a = .ok b' → inv b') {l : List α} {b b' : β} (first : inv b)
    (done : l.foldlM f b = .ok b') : inv b' := by
  induction l generalizing b with
  | nil =>
    obtain rfl := Except.ok.inj done
    exact first
  | cons a rest ih =>
    rw [List.foldlM_cons] at done
    obtain ⟨next, here, later⟩ := bind_eq_ok.mp done
    exact ih (round b a next first here) later

/-- A loop that appends one value for each item. -/
theorem foldlM_append_ok {γ : Type} {r : α → γ → Prop} {f : List γ → α → Except ε (List γ)}
    (round : ∀ done a done', f done a = .ok done' → ∃ c, r a c ∧ done' = done ++ [c]) {l : List α}
    {done done' : List γ} (ran : l.foldlM f done = .ok done') :
    ∃ m, List.Forall₂ r l m ∧ done' = done ++ m := by
  induction l generalizing done with
  | nil =>
    obtain rfl := Except.ok.inj ran
    exact ⟨[], .nil, (List.append_nil _).symm⟩
  | cons a rest ih =>
    rw [List.foldlM_cons] at ran
    obtain ⟨next, here, later⟩ := bind_eq_ok.mp ran
    obtain ⟨c, first, rfl⟩ := round done a next here
    obtain ⟨m, others, rfl⟩ := ih later
    exact ⟨c :: m, .cons first others, by rw [List.append_assoc, List.singleton_append]⟩

/-! ### What a computation may raise -/

/-- Only allowed errors are raised. -/
def Raises (allowed : ε → Prop) (x : Except ε α) : Prop := ∀ raised, x = .error raised → allowed raised

namespace Raises

variable {allowed : ε → Prop} {x : Except ε α}

theorem ok (a : α) : Raises allowed (.ok a : Except ε α) := fun _ none => nomatch none

theorem error {raised : ε} (allows : allowed raised) : Raises allowed (.error raised : Except ε α) := by
  rintro _ ⟨⟩
  exact allows

theorem mono {allowed' : ε → Prop} (raises : Raises allowed x) (more : ∀ raised, allowed raised → allowed' raised) :
    Raises allowed' x :=
  fun raised failed => more raised (raises raised failed)

theorem bind {f : α → Except ε β} (first : Raises allowed x) (next : ∀ a, Raises allowed (f a)) :
    Raises allowed (x >>= f) := by
  cases x with
  | error raised =>
    rintro _ ⟨⟩
    exact first raised rfl
  | ok a => exact next a

theorem map {f : α → β} (raises : Raises allowed x) : Raises allowed (x.map f) := by
  cases x with
  | error raised => exact error (raises raised rfl)
  | ok a => exact ok (f a)

/-- An exception that is renamed is of the kind it is renamed to. -/
theorem mapError {allowed' : ε' → Prop} {rename : ε → ε'} (x : Except ε α)
    (renamed : ∀ raised, allowed' (rename raised)) : Raises allowed' (x.mapError rename) := by
  cases x with
  | error raised => exact error (renamed raised)
  | ok a => exact ok a

theorem mapM {f : α → Except ε β} (round : ∀ a, Raises allowed (f a)) (l : List α) :
    Raises allowed (l.mapM f) := by
  induction l with
  | nil => exact ok []
  | cons a rest ih =>
    rw [List.mapM_cons]
    exact (round a).bind fun _ => ih.bind fun _ => ok _

/-- A loop raises what one round of it may raise. -/
theorem forM {f : α → Except ε Unit} (round : ∀ a, Raises allowed (f a)) (l : List α) :
    Raises allowed (l.forM f) := by
  induction l with
  | nil => exact ok ()
  | cons a rest ih => exact (round a).bind fun _ => ih

theorem foldlM {f : β → α → Except ε β} (round : ∀ b a, Raises allowed (f b a)) (l : List α) (b : β) :
    Raises allowed (l.foldlM f b) := by
  induction l generalizing b with
  | nil => exact ok b
  | cons a rest ih =>
    rw [List.foldlM_cons]
    exact (round b a).bind ih

end Raises

/-! ### Two computations side by side -/

/-- Two computations raise the same, or return related values. -/
inductive Alike (r : α → β → Prop) : Except ε α → Except ε β → Prop
  | error (raised : ε) : Alike r (.error raised) (.error raised)
  | ok {a : α} {b : β} (related : r a b) : Alike r (.ok a) (.ok b)

namespace Alike

variable {γ δ : Type} {r : α → β → Prop} {x : Except ε α} {y : Except ε β}

/-- Both raise, or both return. -/
theorem outcomes (alike : Alike r x y) :
    (∃ raised, x = .error raised ∧ y = .error raised) ∨
      ∃ a b, x = .ok a ∧ y = .ok b ∧ r a b := by
  cases alike with
  | error raised => exact Or.inl ⟨raised, rfl, rfl⟩
  | ok related => exact Or.inr ⟨_, _, rfl, rfl, related⟩

/-- Related values, used alike, give one result. -/
theorem bind_eq (alike : Alike r x y) {f : α → Except ε γ} {g : β → Except ε γ}
    (same : ∀ a b, r a b → f a = g b) : x >>= f = y >>= g := by
  cases alike with
  | error raised => rfl
  | ok related => exact same _ _ related

theorem bind {s : γ → δ → Prop} (alike : Alike r x y) {f : α → Except ε γ} {g : β → Except ε δ}
    (next : ∀ a b, r a b → Alike s (f a) (g b)) : Alike s (x >>= f) (y >>= g) := by
  cases alike with
  | error raised => exact .error raised
  | ok related => exact next _ _ related

/-- One computation, followed by two that are alike for each of its values. -/
theorem after {s : γ → δ → Prop} (first : Except ε α) {f : α → Except ε γ} {g : α → Except ε δ}
    (next : ∀ a, Alike s (f a) (g a)) : Alike s (first >>= f) (first >>= g) := by
  cases first with
  | error raised => exact .error raised
  | ok a => exact next a

/-- Computations are alike when what they are mapped to is. -/
theorem of_map {s : γ → δ → Prop} {f : α → γ} {g : β → δ} (alike : Alike s (x.map f) (y.map g)) :
    Alike (fun a b => s (f a) (g b)) x y := by
  cases x with
  | error raised =>
    cases y with
    | error other =>
      cases alike
      exact .error _
    | ok b => cases alike
  | ok a =>
    cases y with
    | error other => cases alike
    | ok b =>
      cases alike with
      | ok related => exact .ok related

end Alike

end AxiomMcp.Lib

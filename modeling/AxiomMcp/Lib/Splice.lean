/-
**Cutting spans out of a text, one after another.**

`splice mark cut out` puts the placeholder of a cut in the place of its span, by the offsets of the
original text: `out[:start] + placeholder + out[stop:]`. A run of splices from the last span to the
first (`spliceAll`) never moves what stands left of a span, but the offset `stop` of a span that
reaches into a later one is stale by then.

To say which characters such a run keeps, it is run on *origins*: `kept i` for the character at
offset `i` of the text, and `mark k j` for the `j`-th character of the placeholder of `k`. Slicing
never looks at an element, so the run on origins is the run on the text (`map_spliceAll`).

* `Replaced`: what a right answer is: everything outside the spans kept in order, and each union of
  overlapping spans replaced by one or more whole placeholders;
* `Lands`: the condition on the offsets alone. It reads the cuts from the left with the offset at
  which the text is taken up again, and asks where that offset lands;
* `replaced_iff_lands`: **the run is right if and only if its offsets land**.
-/

import Mathlib.Algebra.Order.Ring.Nat
import Mathlib.Data.List.Basic
import Mathlib.Logic.Relation

namespace AxiomMcp.Lib

/-- A span of a text, half open, and what it is cut out as. -/
structure Cut (κ : Type*) where
  label : κ
  start : Nat
  stop : Nat
deriving DecidableEq

variable {κ α β : Type*}

/-- The character at `i` is one of the span's. -/
def Cut.Holds (cut : Cut κ) (i : Nat) : Prop := cut.start ≤ i ∧ i < cut.stop

/-- Two spans share a character. -/
def Cut.Overlaps (a b : Cut κ) : Prop := ∃ i, a.Holds i ∧ b.Holds i

/-! ### Splices -/

/-- `out[:start] + placeholder + out[stop:]` -/
def splice (mark : κ → List α) (cut : Cut κ) (out : List α) : List α :=
  out.take cut.start ++ mark cut.label ++ out.drop cut.stop

/-- The splices of the cuts, the last cut first. -/
def spliceAll (mark : κ → List α) (cuts : List (Cut κ)) (out : List α) : List α :=
  cuts.foldr (splice mark) out

@[simp] theorem spliceAll_nil (mark : κ → List α) (out : List α) : spliceAll mark [] out = out := rfl

@[simp] theorem spliceAll_cons (mark : κ → List α) (cut : Cut κ) (cuts : List (Cut κ))
    (out : List α) :
    spliceAll mark (cut :: cuts) out = splice mark cut (spliceAll mark cuts out) := rfl

/-- A splice never looks at an element. -/
theorem map_spliceAll (f : α → β) (mark : κ → List α) (cuts : List (Cut κ)) (out : List α) :
    (spliceAll mark cuts out).map f = spliceAll (fun k => (mark k).map f) cuts (out.map f) := by
  induction cuts with
  | nil => rfl
  | cons cut cuts ih =>
      rw [spliceAll_cons, spliceAll_cons, ← ih]
      simp only [splice, List.map_append, List.map_take, List.map_drop]

/-! ### Origins -/

/-- Where a character of the answer comes from. -/
inductive Origin (κ : Type*) where
  /-- The character at this offset of the text. -/
  | kept (offset : Nat)
  /-- A character of a placeholder. -/
  | mark (label : κ) (index : Nat)
deriving DecidableEq

/-- The origins of the characters `from, …, upto - 1` of the text. -/
def keptFrom (start stop : Nat) : List (Origin κ) := (List.range' start (stop - start)).map .kept

/-- The origins of a placeholder of `width k` characters. -/
def markOf (width : κ → Nat) (k : κ) : List (Origin κ) := (List.range (width k)).map (.mark k)

/-- The run on the origins of a text of `n` characters. -/
def origins (width : κ → Nat) (cuts : List (Cut κ)) (n : Nat) : List (Origin κ) :=
  spliceAll (markOf width) cuts (keptFrom 0 n)

/-! ### A right answer -/

section Spans

variable (spans : List (Cut κ))

/-- The character at `i` lies inside a span. -/
def Covered (i : Nat) : Prop := ∃ cut ∈ spans, cut.Holds i

/-- Reached from a span over overlapping ones. -/
def Linked : Cut κ → Cut κ → Prop :=
  Relation.ReflTransGen fun a b => b ∈ spans ∧ a.Overlaps b

/-- A maximal union of overlapping spans: the characters of all the spans linked to one. -/
def IsUnion (p q : Nat) : Prop :=
  ∃ cut ∈ spans, ∀ i, (p ≤ i ∧ i < q) ↔ ∃ other, Linked spans cut other ∧ other.Holds i

/-- No character from `p` to `q` lies inside a span. -/
def Clear (p q : Nat) : Prop := ∀ i, p ≤ i → i < q → ¬ Covered spans i

/-- The right answers for a text of `n` characters, from offset `p` on. -/
inductive Replaced (width : κ → Nat) (n : Nat) : Nat → List (Origin κ) → Prop
  | done : Replaced width n n []
  /-- A character outside every span is kept. -/
  | keep {p out} : p < n → ¬ Covered spans p → Replaced width n (p + 1) out →
      Replaced width n p (.kept p :: out)
  /-- A union is left out for a placeholder. -/
  | union {p q out} (k : κ) : IsUnion spans p q → Replaced width n q out →
      Replaced width n p (markOf width k ++ out)
  /-- Behind it another placeholder may stand for the same union. -/
  | more {p q out} (k : κ) : IsUnion spans p q → Replaced width n q out →
      Replaced width n q (markOf width k ++ out)

/-! ### Where the offsets land -/

/-- A placeholder at `q` opens a union, which is behind it at `e`, or stands behind one that ended
there; what follows is right from there. -/
def Marked (next : Nat → Prop) (q : Nat) : Prop :=
  (∃ e, IsUnion spans q e ∧ next e) ∨ ((∃ a, IsUnion spans a q) ∧ next q)

/-- `Lands cuts x p`: taking up the answer made from `cuts` at offset `x` goes on rightly from
offset `p` of the text. -/
def Lands (width : κ → Nat) (n : Nat) : List (Cut κ) → Nat → Nat → Prop
  | [], x, p => if x < n then p = x ∧ Clear spans x n else p = n
  | cut :: cuts, x, p =>
    if x < cut.start then
      p = x ∧ Clear spans x cut.start ∧ Marked spans (Lands width n cuts cut.stop) cut.start
    else if x = cut.start then Marked spans (Lands width n cuts cut.stop) p
    -- The whole placeholder is jumped over, or a part of it is left.
    else if cut.start + width cut.label ≤ x then
      Lands width n cuts (x - (cut.start + width cut.label) + cut.stop) p
    else False

end Spans

/-! ### The run on origins -/

theorem keptFrom_self (x : Nat) : (keptFrom x x : List (Origin κ)) = [] := by simp [keptFrom]

theorem keptFrom_cons {x s : Nat} (below : x < s) :
    (keptFrom x s : List (Origin κ)) = .kept x :: keptFrom (x + 1) s := by
  obtain ⟨k, rfl⟩ := Nat.exists_eq_add_of_lt below
  rw [keptFrom, keptFrom, show x + k + 1 - x = k + 1 by omega,
    show x + k + 1 - (x + 1) = k by omega, List.range'_succ, List.map_cons]

@[simp] theorem length_keptFrom (x s : Nat) : (keptFrom x s : List (Origin κ)).length = s - x := by
  simp [keptFrom]

theorem drop_keptFrom (x s : Nat) : (keptFrom 0 s : List (Origin κ)).drop x = keptFrom x s := by
  simp [keptFrom, List.drop_range', ← List.map_drop]

theorem take_keptFrom {x s : Nat} (below : x ≤ s) :
    (keptFrom 0 s : List (Origin κ)).take x = keptFrom 0 x := by
  simp [keptFrom, ← List.map_take, List.take_range'_of_length_ge, below]

@[simp] theorem length_markOf (width : κ → Nat) (k : κ) : (markOf width k).length = width k := by
  simp [markOf]

/-- What is left of a placeholder begins with the character it was cut at. -/
theorem drop_markOf {width : κ → Nat} {k : κ} {j : Nat} (short : j < width k) :
    ∃ rest, (markOf width k).drop j = .mark k j :: rest := by
  refine ⟨(markOf width k).drop (j + 1), ?_⟩
  rw [List.drop_eq_getElem_cons (by rwa [length_markOf])]
  congr 1
  simp [markOf]

theorem origins_cons (width : κ → Nat) (cut : Cut κ) (cuts : List (Cut κ)) (n : Nat) :
    origins width (cut :: cuts) n =
      (origins width cuts n).take cut.start ++ markOf width cut.label ++
        (origins width cuts n).drop cut.stop := rfl

/-- The run leaves alone what stands left of every span. -/
theorem take_origins {width : κ → Nat} {cuts : List (Cut κ)} {n s : Nat} (short : s ≤ n)
    (left : ∀ cut ∈ cuts, s ≤ cut.start) : (origins width cuts n).take s = keptFrom 0 s := by
  induction cuts with
  | nil => exact take_keptFrom short
  | cons cut cuts ih =>
      have later : ∀ other ∈ cuts, s ≤ other.start := fun other member =>
        left other (List.mem_cons_of_mem _ member)
      have kept := ih later
      have long : s ≤ (origins width cuts n).length := by
        have size := congrArg List.length kept
        rw [List.length_take, length_keptFrom] at size
        omega
      have front : s ≤ cut.start := left cut List.mem_cons_self
      rw [origins_cons, List.append_assoc, List.take_append_of_le_length, List.take_take,
        Nat.min_eq_left front, kept]
      rw [List.length_take]
      exact Nat.le_min.mpr ⟨front, long⟩

/-! ### The right answers, read from the front -/

section Right

variable {spans : List (Cut κ)} {width : κ → Nat} {n : Nat}

theorem replaced_nil (wide : ∀ k, 0 < width k) {p : Nat} :
    Replaced spans width n p [] ↔ p = n := by
  have long (k : κ) (out : List (Origin κ)) : markOf width k ++ out ≠ [] := by
    intro empty
    have short := congrArg List.length (List.append_eq_nil_iff.mp empty).1
    rw [length_markOf, List.length_nil] at short
    exact absurd short (wide k).ne'
  constructor
  · intro right
    generalize shape : ([] : List (Origin κ)) = out at right
    cases right with
    | done => rfl
    | keep _ _ _ => exact absurd shape (List.cons_ne_nil _ _).symm
    | union k _ _ => exact absurd shape.symm (long k _)
    | more k _ _ => exact absurd shape.symm (long k _)
  · rintro rfl
    exact .done

/-- A kept character is the next one of the text, outside every span. -/
theorem replaced_kept (wide : ∀ k, 0 < width k) {p i : Nat} {out : List (Origin κ)} :
    Replaced spans width n p (.kept i :: out) ↔
      p = i ∧ i < n ∧ ¬ Covered spans i ∧ Replaced spans width n (i + 1) out := by
  have apart (k : κ) (rest : List (Origin κ)) : .kept i :: out ≠ markOf width k ++ rest := by
    obtain ⟨tail, head⟩ := drop_markOf (wide k)
    rw [List.drop_zero] at head
    rw [head]
    exact fun same => nomatch (List.cons.inj same).1
  constructor
  · intro right
    generalize shape : Origin.kept i :: out = all at right
    cases right with
    | done => exact absurd shape (List.cons_ne_nil _ _)
    | keep inside outside later =>
        obtain ⟨head, rfl⟩ := List.cons.inj shape
        obtain rfl := Origin.kept.inj head
        exact ⟨rfl, inside, outside, later⟩
    | union k _ _ => exact absurd shape (apart k _)
    | more k _ _ => exact absurd shape (apart k _)
  · rintro ⟨rfl, inside, outside, later⟩
    exact .keep inside outside later

/-- A whole placeholder is the first of a union, or a further one behind it. -/
theorem replaced_marked (wide : ∀ k, 0 < width k) {p : Nat} {k : κ} {out : List (Origin κ)} :
    Replaced spans width n p (markOf width k ++ out) ↔
      Marked spans (fun q => Replaced spans width n q out) p := by
  have same {other : κ} {rest : List (Origin κ)}
      (shape : markOf width k ++ out = markOf width other ++ rest) : out = rest := by
    obtain ⟨tail, head⟩ := drop_markOf (wide k)
    obtain ⟨tail', head'⟩ := drop_markOf (wide other)
    rw [List.drop_zero] at head head'
    have first := shape
    rw [head, head'] at first
    obtain rfl := (Origin.mark.inj (List.cons.inj first).1).1
    exact List.append_cancel_left shape
  constructor
  · intro right
    generalize shape : markOf width k ++ out = all at right
    cases right with
    | done =>
        obtain ⟨tail, head⟩ := drop_markOf (wide k)
        rw [List.drop_zero] at head
        rw [head] at shape
        exact absurd shape (List.cons_ne_nil _ _)
    | keep _ _ _ =>
        obtain ⟨tail, head⟩ := drop_markOf (wide k)
        rw [List.drop_zero] at head
        rw [head] at shape
        exact nomatch (List.cons.inj shape).1
    | union other here later => exact .inl ⟨_, here, same shape ▸ later⟩
    | more other here later => exact .inr ⟨⟨_, here⟩, same shape ▸ later⟩
  · rintro (⟨e, here, later⟩ | ⟨⟨a, here⟩, later⟩)
    · exact .union k here later
    · exact .more k here later

/-- A piece of a placeholder is never right. -/
theorem not_replaced_piece (wide : ∀ k, 0 < width k) {p j : Nat} {k : κ}
    {out : List (Origin κ)} (cut : 0 < j) (short : j < width k) :
    ¬ Replaced spans width n p ((markOf width k).drop j ++ out) := by
  obtain ⟨tail, head⟩ := drop_markOf short
  rw [head]
  have apart (other : κ) (rest : List (Origin κ)) :
      .mark k j :: tail ++ out ≠ markOf width other ++ rest := by
    obtain ⟨tail', head'⟩ := drop_markOf (wide other)
    rw [List.drop_zero] at head'
    rw [head']
    exact fun same => absurd (Origin.mark.inj (List.cons.inj same).1).2 cut.ne'
  intro right
  generalize shape : Origin.mark k j :: tail ++ out = all at right
  cases right with
  | done => exact absurd shape (List.cons_ne_nil _ _)
  | keep _ _ _ => exact nomatch (List.cons.inj shape).1
  | union other _ _ => exact apart other _ shape
  | more other _ _ => exact apart other _ shape

/-- A stretch of kept characters goes on where the text was left, outside every span. -/
theorem replaced_keptFrom (wide : ∀ k, 0 < width k) {x s p : Nat} {out : List (Origin κ)}
    (below : x < s) (inside : s ≤ n) :
    Replaced spans width n p (keptFrom x s ++ out) ↔
      p = x ∧ Clear spans x s ∧ Replaced spans width n s out := by
  obtain ⟨k, rfl⟩ := Nat.exists_eq_add_of_lt below
  induction k generalizing x p with
  | zero =>
      rw [keptFrom_cons below, List.cons_append, replaced_kept wide, Nat.add_zero, keptFrom_self,
        List.nil_append]
      constructor
      · rintro ⟨rfl, -, outside, later⟩
        refine ⟨rfl, fun i low high => ?_, later⟩
        rwa [show i = p by omega]
      · rintro ⟨rfl, clear, later⟩
        exact ⟨rfl, by omega, clear p le_rfl (by omega), later⟩
  | succ k ih =>
      have next : x + 1 + k + 1 = x + (k + 1) + 1 := by omega
      have tail := @ih (x + 1) (x + 1) (by omega) (by omega)
      rw [next] at tail
      rw [keptFrom_cons below, List.cons_append, replaced_kept wide, tail]
      constructor
      · rintro ⟨rfl, -, outside, -, clear, later⟩
        refine ⟨rfl, fun i low high => ?_, later⟩
        rcases Nat.eq_or_lt_of_le low with rfl | above
        · exact outside
        · exact clear i above high
      · rintro ⟨rfl, clear, later⟩
        exact ⟨rfl, by omega, clear p le_rfl (by omega), rfl,
          fun i low high => clear i (by omega) high, later⟩

theorem Marked.congr {next next' : Nat → Prop} (same : ∀ q, next q ↔ next' q) (p : Nat) :
    Marked spans next p ↔ Marked spans next' p := by
  simp only [Marked, same]

/-- **A run of splices is right from an offset on if and only if the offset lands there.** -/
theorem replaced_drop_iff (wide : ∀ k, 0 < width k) {cuts : List (Cut κ)}
    (sorted : cuts.Pairwise fun a b => a.start ≤ b.start) (inside : ∀ cut ∈ cuts, cut.start ≤ n)
    (x p : Nat) :
    Replaced spans width n p ((origins width cuts n).drop x) ↔ Lands spans width n cuts x p := by
  induction cuts generalizing x p with
  | nil =>
      rw [Lands, origins, spliceAll_nil, drop_keptFrom]
      split
      · rename_i below
        have stretch := @replaced_keptFrom _ spans width n wide x n p [] below le_rfl
        rw [List.append_nil] at stretch
        rw [stretch, replaced_nil wide]
        exact ⟨fun ⟨same, clear, _⟩ => ⟨same, clear⟩, fun ⟨same, clear⟩ => ⟨same, clear, rfl⟩⟩
      · rename_i behind
        have empty : (keptFrom x n : List (Origin κ)) = [] := by
          rw [keptFrom, Nat.sub_eq_zero_of_le (Nat.le_of_not_lt behind)]
          rfl
        rw [empty, replaced_nil wide]
  | cons cut cuts ih =>
      obtain ⟨first, later⟩ := List.pairwise_cons.mp sorted
      have short : cut.start ≤ n := inside cut List.mem_cons_self
      have rest := ih later fun other member => inside other (List.mem_cons_of_mem _ member)
      -- What follows the placeholder of this cut.
      have marked (q : Nat) :
          Replaced spans width n q
              (markOf width cut.label ++ (origins width cuts n).drop cut.stop) ↔
            Marked spans (Lands spans width n cuts cut.stop) q :=
        (replaced_marked wide).trans (Marked.congr (fun e => rest cut.stop e) q)
      rw [Lands, origins_cons, take_origins short first, List.append_assoc]
      split
      · rename_i below
        rw [List.drop_append_of_le_length (by rw [length_keptFrom]; omega), drop_keptFrom,
          replaced_keptFrom wide below short, marked]
      · rename_i behind
        have skip : ((keptFrom 0 cut.start : List (Origin κ)) ++ (markOf width cut.label ++
              (origins width cuts n).drop cut.stop)).drop x =
            (markOf width cut.label ++ (origins width cuts n).drop cut.stop).drop
              (x - cut.start) := by
          rw [List.drop_append, List.drop_eq_nil_of_le (by rw [length_keptFrom]; omega),
            List.nil_append, length_keptFrom, Nat.sub_zero]
        rw [skip]
        split
        · rename_i here
          rw [here, Nat.sub_self, List.drop_zero, marked]
        · rename_i apart
          split
          · rename_i beyond
            rw [List.drop_append, List.drop_eq_nil_of_le (by rw [length_markOf]; omega),
              List.nil_append, length_markOf, List.drop_drop, ← rest]
            rw [show cut.stop + (x - cut.start - width cut.label) =
              x - (cut.start + width cut.label) + cut.stop by omega]
          · rename_i within
            rw [List.drop_append_of_le_length (by rw [length_markOf]; omega)]
            exact iff_false_intro (not_replaced_piece wide (by omega) (by omega))

/-- **The run is right if and only if its offsets land.** -/
theorem replaced_iff_lands (wide : ∀ k, 0 < width k) {cuts : List (Cut κ)}
    (sorted : cuts.Pairwise fun a b => a.start ≤ b.start) (inside : ∀ cut ∈ cuts, cut.start ≤ n) :
    Replaced spans width n 0 (origins width cuts n) ↔ Lands spans width n cuts 0 0 := by
  have whole := @replaced_drop_iff _ spans width n wide cuts sorted inside 0 0
  rwa [List.drop_zero] at whole

/-! ### Disjoint spans -/

end Right

end AxiomMcp.Lib

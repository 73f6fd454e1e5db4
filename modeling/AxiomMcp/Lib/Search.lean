/-
**A level-by-level search under a budget of nodes and a budget of edges.**

`Net` is what a search walks over: the edges at a node in the order they are tried, where each leads,
and the slot an edge is counted under: a key and a tag. `Net.run net limits roots n` is the search
after `n` levels. An edge with a new key is refused once the edge budget is spent, a new node once the
node budget is spent, and either refusal sets `cut`.

* `Net.Examined` lists what trying one edge can do, and `Net.Scanned` what trying a list of edges
  does: the budgets are permanent, so a refused edge or node stays refused.
* `Net.Searched` is the invariant of a whole run, kept by one level (`Searched.level`). Uncut, the
  search is at the frontier of a ball; cut, it has a witness of what it left out.
* `Searched.cut_iff` — **the search was cut exactly when its nodes are not the ball or its edges not
  the edges at the inner ball.**
-/

import AxiomMcp.Lib.Reach
import Mathlib.Data.List.Nodup
import Mathlib.Data.List.Infix

namespace AxiomMcp.Lib

variable {V E K C : Type*}

/-- What a search walks over. -/
structure Net (V E K C : Type*) where
  /-- The edges at a node, in the order they are tried. -/
  incident : V → List E
  /-- Where an edge leads from a node. -/
  far : V → E → Option V
  /-- The key an edge is known by. -/
  key : E → K
  /-- Edges of one key and two tags are counted twice. -/
  tag : E → C

/-- The budgets of a search; `none` is no bound. -/
structure Limits where
  nodes : Option ℕ
  edges : Option ℕ

/-- A budget is spent. -/
def full : Option ℕ → ℕ → Bool
  | none, _ => false
  | some limit, used => decide (limit ≤ used)

theorem full_mono {limit : Option ℕ} {used more : ℕ} (le : used ≤ more)
    (spent : full limit used = true) : full limit more = true := by
  cases limit with
  | none => cases spent
  | some limit => exact decide_eq_true ((of_decide_eq_true spent).trans le)

theorem full_some {limit used : ℕ} : full (some limit) used = true ↔ limit ≤ used :=
  decide_eq_true_iff

@[simp] theorem full_none {used : ℕ} : full none used = false := rfl

/-- What a search knows inside a level. -/
@[ext] structure Scan (V K C : Type*) where
  /-- The slots counted so far, in the order they were met. -/
  known : List (K × C)
  /-- The nodes discovered in this level. -/
  found : List V
  /-- A budget refused something. -/
  cut : Bool

/-- What a search knows between two levels. -/
@[ext] structure Stage (V K C : Type*) where
  seen : List V
  front : List V
  known : List (K × C)
  cut : Bool

instance slotLawfulBEq {K C : Type*} [DecidableEq K] [DecidableEq C] : LawfulBEq (K × C) := inferInstance

/-- Count a slot. -/
def Scan.enter [DecidableEq K] [DecidableEq C] (s : Scan V K C) (slot : K × C) : Scan V K C :=
  { s with known := if slot ∈ s.known then s.known else s.known ++ [slot] }

namespace Net

variable (net : Net V E K C) (limits : Limits)

/-- The slot of an edge. -/
def slot (e : E) : K × C := (net.key e, net.tag e)

/-- One hop along some edge. -/
def Hop (u v : V) : Prop := ∃ e ∈ net.incident u, net.far u e = some v

/-- The edges to try from a front, each with the node it is tried from. -/
def steps (front : List V) : List (V × E) :=
  front.flatMap fun u => (net.incident u).map fun e => (u, e)

/-- The roots that fit the node budget. -/
def admitted (roots : List V) : List V :=
  match limits.nodes with
  | none => roots
  | some limit => roots.take limit

/-- The search before its first level. -/
def start (roots : List V) : Stage V K C :=
  ⟨admitted limits roots, admitted limits roots, [],
    decide ((admitted limits roots).length < roots.length)⟩

section

variable {net}

theorem mem_steps {front : List V} {step : V × E} :
    step ∈ net.steps front ↔ step.1 ∈ front ∧ step.2 ∈ net.incident step.1 := by
  rw [steps, List.mem_flatMap]
  constructor
  · rintro ⟨u, inFront, member⟩
    obtain ⟨e, inside, rfl⟩ := List.mem_map.mp member
    exact ⟨inFront, inside⟩
  · rintro ⟨inFront, inside⟩
    exact ⟨step.1, inFront, List.mem_map.mpr ⟨step.2, inside, rfl⟩⟩

theorem steps_cons (u : V) (rest : List V) :
    net.steps (u :: rest) = ((net.incident u).map fun e => (u, e)) ++ net.steps rest :=
  List.flatMap_cons

end

variable [DecidableEq V] [DecidableEq K] [DecidableEq C]

/-- Try one edge. -/
def examine (seen : List V) (s : Scan V K C) (step : V × E) : Scan V K C :=
  if net.key step.2 ∉ s.known.map Prod.fst ∧ full limits.edges s.known.length = true then
    { s with cut := true }
  else
    match net.far step.1 step.2 with
    | none => s.enter (net.slot step.2)
    | some w =>
      if w ∈ seen ∨ w ∈ s.found then s.enter (net.slot step.2)
      else if full limits.nodes (seen.length + s.found.length) = true then
        { s.enter (net.slot step.2) with cut := true }
      else { s.enter (net.slot step.2) with found := s.found ++ [w] }

/-- Try a list of edges. -/
def scan (seen : List V) (steps : List (V × E)) (s : Scan V K C) : Scan V K C :=
  steps.foldl (net.examine limits seen) s

/-- One level. -/
def level (st : Stage V K C) : Stage V K C :=
  let s := net.scan limits st.seen (net.steps st.front) ⟨st.known, [], st.cut⟩
  ⟨st.seen ++ s.found, s.found, s.known, s.cut⟩

/-- The search after a number of levels. -/
def run (roots : List V) : ℕ → Stage V K C
  | 0 => start limits roots
  | n + 1 => net.level limits (run roots n)

variable {net limits} {seen : List V} {s : Scan V K C} {u : V} {e : E}

theorem scan_append (seen : List V) (first second : List (V × E)) (s : Scan V K C) :
    net.scan limits seen (first ++ second) s =
      net.scan limits seen second (net.scan limits seen first s) := List.foldl_append

/-! ### What trying one edge can do -/

section Examine

variable (net limits seen s u e)

/-- The edge is known, or there is room for it. -/
def Room : Prop := net.key e ∈ s.known.map Prod.fst ∨ full limits.edges s.known.length = false

/-- What trying one edge can do. -/
inductive Examined : Scan V K C → Prop
  /-- A new edge over the budget. -/
  | skipped (fresh : net.key e ∉ s.known.map Prod.fst)
      (spent : full limits.edges s.known.length = true) : Examined { s with cut := true }
  /-- An edge that leads nowhere new. -/
  | old (room : net.Room limits s e)
      (nothing : ∀ w, net.far u e = some w → w ∈ seen ∨ w ∈ s.found) :
      Examined (s.enter (net.slot e))
  /-- A new node over the budget. -/
  | blocked (room : net.Room limits s e) (w : V) (leads : net.far u e = some w)
      (unseen : w ∉ seen) (fresh : w ∉ s.found)
      (spent : full limits.nodes (seen.length + s.found.length) = true) :
      Examined { s.enter (net.slot e) with cut := true }
  /-- A new node. -/
  | discovered (room : net.Room limits s e) (w : V) (leads : net.far u e = some w)
      (unseen : w ∉ seen) (fresh : w ∉ s.found)
      (space : full limits.nodes (seen.length + s.found.length) = false) :
      Examined { s.enter (net.slot e) with found := s.found ++ [w] }

variable {net limits seen s u e}

omit [DecidableEq V] [DecidableEq K] [DecidableEq C] in
theorem not_refused (room : net.Room limits s e) :
    ¬ (net.key e ∉ s.known.map Prod.fst ∧ full limits.edges s.known.length = true) := by
  rintro ⟨fresh, spent⟩
  rcases room with known | space
  · exact fresh known
  · rw [space] at spent
    cases spent

theorem examine_skipped (fresh : net.key e ∉ s.known.map Prod.fst)
    (spent : full limits.edges s.known.length = true) :
    net.examine limits seen s (u, e) = { s with cut := true } := if_pos ⟨fresh, spent⟩

theorem examine_old (room : net.Room limits s e)
    (nothing : ∀ w, net.far u e = some w → w ∈ seen ∨ w ∈ s.found) :
    net.examine limits seen s (u, e) = s.enter (net.slot e) := by
  rw [examine, if_neg (not_refused room)]
  cases leads : net.far u e with
  | none => rfl
  | some w => exact if_pos (nothing w leads)

theorem examine_blocked (room : net.Room limits s e) {w : V} (leads : net.far u e = some w)
    (unseen : w ∉ seen) (fresh : w ∉ s.found)
    (spent : full limits.nodes (seen.length + s.found.length) = true) :
    net.examine limits seen s (u, e) = { s.enter (net.slot e) with cut := true } := by
  rw [examine, if_neg (not_refused room)]
  simp only [leads]
  rw [if_neg (not_or.mpr ⟨unseen, fresh⟩), if_pos spent]

theorem examine_discovered (room : net.Room limits s e) {w : V} (leads : net.far u e = some w)
    (unseen : w ∉ seen) (fresh : w ∉ s.found)
    (space : full limits.nodes (seen.length + s.found.length) = false) :
    net.examine limits seen s (u, e) =
      { s.enter (net.slot e) with found := s.found ++ [w] } := by
  rw [examine, if_neg (not_refused room)]
  simp only [leads]
  rw [if_neg (not_or.mpr ⟨unseen, fresh⟩), if_neg (by rw [space]; exact Bool.false_ne_true)]

variable (net limits seen s u e) in
theorem examined : net.Examined limits seen s u e (net.examine limits seen s (u, e)) := by
  by_cases refused : net.key e ∉ s.known.map Prod.fst ∧ full limits.edges s.known.length = true
  · rw [examine_skipped refused.1 refused.2]
    exact .skipped refused.1 refused.2
  · have room : net.Room limits s e := by
      rw [not_and_or, not_not, Bool.not_eq_true] at refused
      exact refused
    by_cases nothing : ∀ w, net.far u e = some w → w ∈ seen ∨ w ∈ s.found
    · rw [examine_old room nothing]
      exact .old room nothing
    · push Not at nothing
      obtain ⟨w, leads, unseen, fresh⟩ := nothing
      cases space : full limits.nodes (seen.length + s.found.length) with
      | true =>
        rw [examine_blocked room leads unseen fresh space]
        exact .blocked room w leads unseen fresh space
      | false =>
        rw [examine_discovered room leads unseen fresh space]
        exact .discovered room w leads unseen fresh space

end Examine

end Net

/-! ### Counting a slot -/

namespace Scan

variable [DecidableEq K] [DecidableEq C] {s : Scan V K C} {slot : K × C}

theorem mem_enter {other : K × C} :
    other ∈ (s.enter slot).known ↔ other ∈ s.known ∨ other = slot := by
  unfold enter
  by_cases counted : slot ∈ s.known
  · rw [if_pos counted]
    constructor
    · exact Or.inl
    · rintro (old | rfl)
      · exact old
      · exact counted
  · rw [if_neg counted, List.mem_append, List.mem_singleton]

theorem prefix_enter : s.known <+: (s.enter slot).known := by
  unfold enter
  by_cases counted : slot ∈ s.known
  · rw [if_pos counted]
  · rw [if_neg counted]
    exact List.prefix_append _ _

theorem nodup_enter (distinct : s.known.Nodup) : (s.enter slot).known.Nodup := by
  unfold enter
  by_cases counted : slot ∈ s.known
  · rw [if_pos counted]
    exact distinct
  · rw [if_neg counted, List.nodup_append]
    refine ⟨distinct, List.nodup_singleton _, ?_⟩
    intro a inside b last equal
    rw [List.mem_singleton] at last
    exact counted (last ▸ equal ▸ inside)

end Scan

/-! ### What trying a list of edges does -/

/-- No key was counted under two tags. -/
def OneTag (known : List (K × C)) : Prop := ∀ a ∈ known, ∀ b ∈ known, a.1 = b.1 → a = b

/-- What trying a list of edges does to a scan. -/
structure Net.Scanned (net : Net V E K C) (limits : Limits) (seen : List V) (steps : List (V × E))
    (s t : Scan V K C) : Prop where
  known_initial : s.known <+: t.known
  found_initial : s.found <+: t.found
  known_from : ∀ slot ∈ t.known, slot ∈ s.known ∨ ∃ step ∈ steps, net.slot step.2 = slot
  found_from : ∀ w ∈ t.found, w ∈ s.found ∨ w ∉ seen ∧ ∃ step ∈ steps,
    net.far step.1 step.2 = some w
  known_nodup : s.known.Nodup → t.known.Nodup
  found_nodup : s.found.Nodup → t.found.Nodup
  /-- A node budget that was respected is respected. -/
  nodes_fit : ∀ limit, limits.nodes = some limit → seen.length + s.found.length ≤ limit →
    seen.length + t.found.length ≤ limit
  /-- With one tag a key, an edge budget that was respected is respected. -/
  edges_fit : ∀ limit, limits.edges = some limit → OneTag t.known → s.known.length ≤ limit →
    t.known.length ≤ limit
  /-- A spent node budget admits no node. -/
  nodes_spent : full limits.nodes (seen.length + s.found.length) = true → t.found = s.found
  /-- A spent edge budget admits no key. -/
  edges_spent : full limits.edges s.known.length = true →
    ∀ slot ∈ t.known, slot.1 ∈ s.known.map Prod.fst
  /-- Uncut, every edge was counted and followed. -/
  clean : t.cut = false → s.cut = false ∧ ∀ step ∈ steps, net.slot step.2 ∈ t.known ∧
    ∀ w, net.far step.1 step.2 = some w → w ∈ seen ∨ w ∈ t.found
  /-- Cut, an edge or a node was left out for good. -/
  witness : t.cut = true → s.cut = true ∨
    (full limits.edges t.known.length = true ∧
      ∃ step ∈ steps, net.key step.2 ∉ t.known.map Prod.fst) ∨
    (full limits.nodes (seen.length + t.found.length) = true ∧
      ∃ step ∈ steps, ∃ w, net.far step.1 step.2 = some w ∧ w ∉ seen ∧ w ∉ t.found)

namespace Net.Scanned

variable {net : Net V E K C} {limits : Limits} {seen : List V} {s t r : Scan V K C}

theorem refl (s : Scan V K C) : net.Scanned limits seen [] s s where
  known_initial := List.prefix_rfl
  found_initial := List.prefix_rfl
  known_from := fun _ member => Or.inl member
  found_from := fun _ member => Or.inl member
  known_nodup := id
  found_nodup := id
  nodes_fit := fun _ _ fits => fits
  edges_fit := fun _ _ _ fits => fits
  nodes_spent := fun _ => rfl
  edges_spent := fun _ _ member => List.mem_map_of_mem member
  clean := fun uncut => ⟨uncut, fun _ member => (List.not_mem_nil member).elim⟩
  witness := Or.inl

theorem trans {first second : List (V × E)} (left : net.Scanned limits seen first s t)
    (right : net.Scanned limits seen second t r) :
    net.Scanned limits seen (first ++ second) s r where
  known_initial := left.known_initial.trans right.known_initial
  found_initial := left.found_initial.trans right.found_initial
  known_from := by
    intro slot member
    rcases right.known_from slot member with before | ⟨step, inside, equal⟩
    · rcases left.known_from slot before with old | ⟨step, inside, equal⟩
      · exact Or.inl old
      · exact Or.inr ⟨step, List.mem_append_left _ inside, equal⟩
    · exact Or.inr ⟨step, List.mem_append_right _ inside, equal⟩
  found_from := by
    intro w member
    rcases right.found_from w member with before | ⟨unseen, step, inside, leads⟩
    · rcases left.found_from w before with old | ⟨unseen, step, inside, leads⟩
      · exact Or.inl old
      · exact Or.inr ⟨unseen, step, List.mem_append_left _ inside, leads⟩
    · exact Or.inr ⟨unseen, step, List.mem_append_right _ inside, leads⟩
  known_nodup := fun distinct => right.known_nodup (left.known_nodup distinct)
  found_nodup := fun distinct => right.found_nodup (left.found_nodup distinct)
  nodes_fit := fun limit bound fits => right.nodes_fit limit bound (left.nodes_fit limit bound fits)
  edges_fit := fun limit bound single fits => right.edges_fit limit bound single
    (left.edges_fit limit bound (fun a left b right' => single a (right.known_initial.subset left) b
      (right.known_initial.subset right')) fits)
  nodes_spent := by
    intro spent
    rw [right.nodes_spent (full_mono (Nat.add_le_add_left left.found_initial.length_le _) spent),
      left.nodes_spent spent]
  edges_spent := by
    intro spent slot member
    have later := right.edges_spent (full_mono left.known_initial.length_le spent) slot member
    obtain ⟨other, inside, equal⟩ := List.mem_map.mp later
    exact equal ▸ left.edges_spent spent other inside
  clean := by
    intro uncut
    obtain ⟨between, after⟩ := right.clean uncut
    obtain ⟨start, before⟩ := left.clean between
    refine ⟨start, fun step member => ?_⟩
    rcases List.mem_append.mp member with inside | inside
    · obtain ⟨counted, followed⟩ := before step inside
      refine ⟨right.known_initial.subset counted, fun w leads => ?_⟩
      rcases followed w leads with old | new
      · exact Or.inl old
      · exact Or.inr (right.found_initial.subset new)
    · exact after step inside
  witness := by
    intro cut
    rcases right.witness cut with between | ⟨spent, step, inside, missed⟩ | ⟨spent, step, inside, missed⟩
    · rcases left.witness between with old | ⟨spent, step, inside, missed⟩ |
        ⟨spent, step, inside, w, leads, unseen, missed⟩
      · exact Or.inl old
      · refine Or.inr (Or.inl ⟨full_mono right.known_initial.length_le spent, step,
          List.mem_append_left _ inside, fun later => missed ?_⟩)
        obtain ⟨slot, member, equal⟩ := List.mem_map.mp later
        exact equal ▸ right.edges_spent spent slot member
      · refine Or.inr (Or.inr ⟨?_, step, List.mem_append_left _ inside, w, leads, unseen, ?_⟩)
        · rw [right.nodes_spent spent]
          exact spent
        · rw [right.nodes_spent spent]
          exact missed
    · exact Or.inr (Or.inl ⟨spent, step, List.mem_append_right _ inside, missed⟩)
    · exact Or.inr (Or.inr ⟨spent, step, List.mem_append_right _ inside, missed⟩)

variable [DecidableEq K] [DecidableEq C]

private theorem known_from_enter {u : V} {e : E} :
    ∀ slot ∈ (s.enter (net.slot e)).known, slot ∈ s.known ∨
      ∃ step ∈ [(u, e)], net.slot step.2 = slot := by
  intro slot member
  rcases Scan.mem_enter.mp member with old | rfl
  · exact Or.inl old
  · exact Or.inr ⟨(u, e), List.mem_singleton.mpr rfl, rfl⟩

private theorem edges_spent_enter {e : E} (room : net.Room limits s e)
    (spent : full limits.edges s.known.length = true) :
    ∀ slot ∈ (s.enter (net.slot e)).known, slot.1 ∈ s.known.map Prod.fst := by
  intro slot member
  rcases Scan.mem_enter.mp member with old | rfl
  · exact List.mem_map_of_mem old
  · rcases room with known | space
    · exact known
    · rw [spent] at space
      cases space

private theorem edges_fit_enter {e : E} (room : net.Room limits s e) :
    ∀ limit, limits.edges = some limit → OneTag (s.enter (net.slot e)).known →
      s.known.length ≤ limit → (s.enter (net.slot e)).known.length ≤ limit := by
  intro limit bound single fits
  by_cases counted : net.slot e ∈ s.known
  · rw [Scan.enter, if_pos counted]
    exact fits
  · rw [Scan.enter, if_neg counted, List.length_append, List.length_singleton]
    rcases room with known | space
    · obtain ⟨other, member, equal⟩ := List.mem_map.mp known
      have same := single other (Scan.mem_enter.mpr (Or.inl member)) (net.slot e)
        (Scan.mem_enter.mpr (Or.inr rfl)) equal
      exact (counted (same ▸ member)).elim
    · rw [bound] at space
      have below : ¬ limit ≤ s.known.length := of_decide_eq_false space
      omega

variable [DecidableEq V]

/-- One edge. -/
theorem one (u : V) (e : E) :
    net.Scanned limits seen [(u, e)] s (net.examine limits seen s (u, e)) := by
  have tried := net.examined limits seen s u e
  generalize net.examine limits seen s (u, e) = t at tried ⊢
  cases tried with
  | skipped fresh spent =>
    exact {
      known_initial := List.prefix_rfl
      found_initial := List.prefix_rfl
      known_from := fun _ member => Or.inl member
      found_from := fun _ member => Or.inl member
      known_nodup := id
      found_nodup := id
      nodes_fit := fun _ _ fits => fits
      edges_fit := fun _ _ _ fits => fits
      nodes_spent := fun _ => rfl
      edges_spent := fun _ _ member => List.mem_map_of_mem member
      clean := fun uncut => (Bool.noConfusion uncut)
      witness := fun _ =>
        Or.inr (Or.inl ⟨spent, (u, e), List.mem_singleton.mpr rfl, fresh⟩) }
  | old room nothing =>
    exact {
      known_initial := Scan.prefix_enter
      found_initial := List.prefix_rfl
      known_from := known_from_enter
      found_from := fun _ member => Or.inl member
      known_nodup := Scan.nodup_enter
      found_nodup := id
      nodes_fit := fun _ _ fits => fits
      edges_fit := edges_fit_enter room
      nodes_spent := fun _ => rfl
      edges_spent := edges_spent_enter room
      clean := fun uncut => ⟨uncut, fun step member => by
        obtain rfl := List.mem_singleton.mp member
        exact ⟨Scan.mem_enter.mpr (Or.inr rfl), nothing⟩⟩
      witness := Or.inl }
  | blocked room w leads unseen fresh spent =>
    exact {
      known_initial := Scan.prefix_enter
      found_initial := List.prefix_rfl
      known_from := known_from_enter
      found_from := fun _ member => Or.inl member
      known_nodup := Scan.nodup_enter
      found_nodup := id
      nodes_fit := fun _ _ fits => fits
      edges_fit := edges_fit_enter room
      nodes_spent := fun _ => rfl
      edges_spent := edges_spent_enter room
      clean := fun uncut => (Bool.noConfusion uncut)
      witness := fun _ => Or.inr (Or.inr
        ⟨spent, (u, e), List.mem_singleton.mpr rfl, w, leads, unseen, fresh⟩) }
  | discovered room w leads unseen fresh space =>
    exact {
      known_initial := Scan.prefix_enter
      found_initial := List.prefix_append _ _
      known_from := known_from_enter
      found_from := by
        intro v member
        rcases List.mem_append.mp member with old | new
        · exact Or.inl old
        · obtain rfl := List.mem_singleton.mp new
          exact Or.inr ⟨unseen, (u, e), List.mem_singleton.mpr rfl, leads⟩
      known_nodup := Scan.nodup_enter
      found_nodup := by
        intro distinct
        rw [List.nodup_append]
        refine ⟨distinct, List.nodup_singleton w, ?_⟩
        intro a inside b last equal
        rw [List.mem_singleton] at last
        exact fresh (last ▸ equal ▸ inside)
      nodes_fit := by
        intro limit bound fits
        rw [bound] at space
        have room : ¬ limit ≤ seen.length + s.found.length := of_decide_eq_false space
        rw [List.length_append, List.length_singleton]
        omega
      edges_fit := edges_fit_enter room
      nodes_spent := by
        intro spent
        rw [spent] at space
        cases space
      edges_spent := edges_spent_enter room
      clean := fun uncut => ⟨uncut, fun step member => by
        obtain rfl := List.mem_singleton.mp member
        refine ⟨Scan.mem_enter.mpr (Or.inr rfl), fun v there => ?_⟩
        rw [leads] at there
        cases there
        exact Or.inr (List.mem_append_right _ (List.mem_singleton.mpr rfl))⟩
      witness := Or.inl }

variable (net limits seen) in
/-- All edges of a list. -/
theorem scan (steps : List (V × E)) (s : Scan V K C) :
    net.Scanned limits seen steps s (net.scan limits seen steps s) := by
  induction steps generalizing s with
  | nil => exact refl s
  | cons step rest ih => exact (one step.1 step.2).trans (ih _)

end Net.Scanned

/-! ### Whole runs -/

namespace Net

variable (net : Net V E K C) (limits : Limits) (roots : List V)

/-- The nodes within a number of hops of the roots. -/
def Within (n : ℕ) : Set V := Ball net.Hop {r | r ∈ roots} n

/-- The slots of the edges at nodes less than `n` hops away. -/
def Inner (n : ℕ) : Set (K × C) :=
  {slot | ∃ m < n, ∃ u ∈ net.Within roots m, ∃ e ∈ net.incident u, net.slot e = slot}

/-- What a search knows after `n` levels. -/
structure Searched (n : ℕ) (st : Stage V K C) : Prop where
  front_seen : ∀ v ∈ st.front, v ∈ st.seen
  seen_within : ∀ v ∈ st.seen, v ∈ net.Within roots n
  known_inner : ∀ slot ∈ st.known, slot ∈ net.Inner roots n
  seen_nodup : st.seen.Nodup
  known_nodup : st.known.Nodup
  nodes_fit : ∀ limit, limits.nodes = some limit → st.seen.length ≤ limit
  edges_fit : ∀ limit, limits.edges = some limit → OneTag st.known → st.known.length ≤ limit
  /-- Uncut, it is at the frontier of the ball. -/
  frontier : st.cut = false →
    Frontier net.Hop {r | r ∈ roots} n {v | v ∈ st.seen} {v | v ∈ st.front}
  /-- Uncut, the edges behind the front are counted. -/
  behind : st.cut = false → ∀ u ∈ st.seen, u ∉ st.front → ∀ e ∈ net.incident u,
    net.slot e ∈ st.known
  /-- Uncut, the inner edges are counted. -/
  inner_known : st.cut = false → ∀ slot ∈ net.Inner roots n, slot ∈ st.known
  /-- Cut, a node or an edge is left out, and its budget is spent. -/
  witness : st.cut = true →
    (full limits.nodes st.seen.length = true ∧ ∃ w ∈ net.Within roots n, w ∉ st.seen) ∨
    (full limits.edges st.known.length = true ∧
      ∃ slot ∈ net.Inner roots n, slot.1 ∉ st.known.map Prod.fst)

variable {net limits roots}

theorem within_mono {m n : ℕ} (le : m ≤ n) : net.Within roots m ⊆ net.Within roots n := ball_mono le

theorem inner_mono {m n : ℕ} (le : m ≤ n) : net.Inner roots m ⊆ net.Inner roots n := by
  rintro slot ⟨k, bound, rest⟩
  exact ⟨k, bound.trans_le le, rest⟩

theorem mem_inner_succ {n : ℕ} {u : V} (inside : u ∈ net.Within roots n) {e : E}
    (member : e ∈ net.incident u) : net.slot e ∈ net.Inner roots (n + 1) :=
  ⟨n, Nat.lt_succ_self n, u, inside, e, member, rfl⟩

/-- The inner edges are those at the ball one hop smaller. -/
theorem inner_succ_iff {n : ℕ} {slot : K × C} :
    slot ∈ net.Inner roots (n + 1) ↔
      ∃ u ∈ net.Within roots n, ∃ e ∈ net.incident u, net.slot e = slot := by
  constructor
  · rintro ⟨m, bound, u, inside, rest⟩
    exact ⟨u, within_mono (Nat.le_of_lt_succ bound) inside, rest⟩
  · rintro ⟨u, inside, e, member, rfl⟩
    exact mem_inner_succ inside member

theorem inner_zero {slot : K × C} : slot ∉ net.Inner roots 0 := by
  rintro ⟨m, bound, _⟩
  exact Nat.not_lt_zero m bound

theorem admitted_initial : admitted limits roots <+: roots := by
  unfold admitted
  cases limits.nodes with
  | none => exact List.prefix_rfl
  | some limit => exact List.take_prefix limit roots

theorem Searched.start (distinct : roots.Nodup) :
    net.Searched limits roots 0 (start limits roots : Stage V K C) where
  front_seen := fun _ member => member
  seen_within := fun v member => roots_subset_ball 0 (admitted_initial.subset member)
  known_inner := fun _ member => (List.not_mem_nil member).elim
  seen_nodup := admitted_initial.sublist.nodup distinct
  known_nodup := List.nodup_nil
  nodes_fit := by
    intro limit bound
    change (admitted limits roots).length ≤ limit
    unfold admitted
    rw [bound]
    exact List.length_take_le _ _
  edges_fit := fun limit _ _ => Nat.zero_le limit
  frontier := by
    intro uncut
    have all : admitted limits roots = roots :=
      admitted_initial.eq_of_length_le (not_lt.mp (of_decide_eq_false uncut))
    change Frontier net.Hop {r | r ∈ roots} 0 {v | v ∈ admitted limits roots}
      {v | v ∈ admitted limits roots}
    rw [all]
    exact Frontier.init
  behind := fun _ u member outside => (outside member).elim
  inner_known := fun _ _ inside => (inner_zero inside).elim
  witness := by
    intro cut
    have short : (admitted limits roots).length < roots.length := of_decide_eq_true cut
    refine Or.inl ⟨?_, ?_⟩
    · change full limits.nodes (admitted limits roots).length = true
      unfold admitted at short ⊢
      cases bound : limits.nodes with
      | none =>
        rw [bound] at short
        exact (lt_irrefl _ short).elim
      | some limit =>
        rw [bound] at short
        simp only [List.length_take] at short ⊢
        refine full_some.mpr ?_
        omega
    · by_contra all
      push Not at all
      have every : roots ⊆ admitted limits roots := fun r member =>
        all r (roots_subset_ball 0 member)
      exact absurd (List.Nodup.length_le_of_subset distinct every) (not_le.mpr short)

namespace Searched

variable {n : ℕ} {st : Stage V K C}

theorem seen_iff (here : net.Searched limits roots n st) (uncut : st.cut = false) {v : V} :
    v ∈ st.seen ↔ v ∈ net.Within roots n := by
  rw [Within, ← (here.frontier uncut).exact_ball]
  rfl

theorem known_iff (here : net.Searched limits roots n st) (uncut : st.cut = false) {slot : K × C} :
    slot ∈ st.known ↔ slot ∈ net.Inner roots n :=
  ⟨here.known_inner slot, here.inner_known uncut slot⟩

/-- A search is uncut exactly when its nodes are the ball and its keys those of the inner edges. -/
theorem cut_iff (here : net.Searched limits roots n st) :
    st.cut = false ↔ (∀ v, v ∈ st.seen ↔ v ∈ net.Within roots n) ∧
      ∀ key, key ∈ st.known.map Prod.fst ↔ ∃ slot ∈ net.Inner roots n, slot.1 = key := by
  constructor
  · intro uncut
    refine ⟨fun v => here.seen_iff uncut, fun key => ?_⟩
    rw [List.mem_map]
    simp only [here.known_iff uncut]
  · rintro ⟨nodes, keys⟩
    by_contra cut
    rw [Bool.not_eq_false] at cut
    rcases here.witness cut with ⟨_, w, within, unseen⟩ | ⟨_, slot, inner, missed⟩
    · exact unseen ((nodes w).mpr within)
    · exact missed ((keys slot.1).mpr ⟨slot, inner, rfl⟩)

end Searched

variable [DecidableEq V] [DecidableEq K] [DecidableEq C]

/-- One level keeps the invariant. -/
theorem Searched.level {n : ℕ} {st : Stage V K C} (here : net.Searched limits roots n st) :
    net.Searched limits roots (n + 1) (net.level limits st) := by
  have done := Scanned.scan net limits st.seen (net.steps st.front) ⟨st.known, [], st.cut⟩
  unfold Net.level
  generalize net.scan limits st.seen (net.steps st.front) ⟨st.known, [], st.cut⟩ = t at done ⊢
  dsimp only
  have front_within : ∀ step ∈ net.steps st.front, step.1 ∈ net.Within roots n := fun step member =>
    here.seen_within _ (here.front_seen _ (mem_steps.mp member).1)
  have hops : ∀ step ∈ net.steps st.front, ∀ w, net.far step.1 step.2 = some w →
      w ∈ net.Within roots (n + 1) := fun step member w leads =>
    ball_step (front_within step member) ⟨step.2, (mem_steps.mp member).2, leads⟩
  have slots : ∀ step ∈ net.steps st.front, net.slot step.2 ∈ net.Inner roots (n + 1) :=
    fun step member => mem_inner_succ (front_within step member) (mem_steps.mp member).2
  have fresh : ∀ w ∈ t.found, w ∉ st.seen ∧ ∃ step ∈ net.steps st.front,
      net.far step.1 step.2 = some w := fun w member =>
    (done.found_from w member).resolve_left List.not_mem_nil
  have before : t.cut = false → st.cut = false := fun uncut => (done.clean uncut).1
  have counted : t.cut = false → ∀ u ∈ st.seen, ∀ e ∈ net.incident u, net.slot e ∈ t.known := by
    intro uncut u member e inside
    by_cases inFront : u ∈ st.front
    · exact ((done.clean uncut).2 (u, e) (mem_steps.mpr ⟨inFront, inside⟩)).1
    · exact done.known_initial.subset (here.behind (before uncut) u member inFront e inside)
  exact {
    front_seen := fun v member => List.mem_append_right _ member
    seen_within := by
      intro v member
      rcases List.mem_append.mp member with old | new
      · exact within_mono (Nat.le_succ n) (here.seen_within v old)
      · obtain ⟨_, step, inside, leads⟩ := fresh v new
        exact hops step inside v leads
    known_inner := by
      intro slot member
      rcases done.known_from slot member with old | ⟨step, inside, rfl⟩
      · exact inner_mono (Nat.le_succ n) (here.known_inner slot old)
      · exact slots step inside
    seen_nodup := by
      rw [List.nodup_append]
      refine ⟨here.seen_nodup, done.found_nodup List.nodup_nil, ?_⟩
      rintro a old b new rfl
      exact (fresh a new).1 old
    known_nodup := done.known_nodup here.known_nodup
    nodes_fit := by
      intro limit bound
      rw [List.length_append]
      exact done.nodes_fit limit bound (here.nodes_fit limit bound)
    edges_fit := by
      intro limit bound single
      refine done.edges_fit limit bound single (here.edges_fit limit bound fun a left b right => ?_)
      exact single a (done.known_initial.subset left) b (done.known_initial.subset right)
    frontier := by
      intro uncut
      have next : ∀ v, v ∈ {v | v ∈ t.found} ↔ v ∉ {v | v ∈ st.seen} ∧
          ∃ u ∈ {v | v ∈ st.front}, net.Hop u v := by
        intro v
        constructor
        · intro member
          obtain ⟨unseen, step, inside, leads⟩ := fresh v member
          obtain ⟨inFront, incident⟩ := mem_steps.mp inside
          exact ⟨unseen, step.1, inFront, step.2, incident, leads⟩
        · rintro ⟨unseen, u, inFront, e, incident, leads⟩
          have followed := ((done.clean uncut).2 (u, e) (mem_steps.mpr ⟨inFront, incident⟩)).2
          exact (followed v leads).resolve_left unseen
      have moved := (here.frontier (before uncut)).step next
      have union : {v | v ∈ st.seen} ∪ {v | v ∈ t.found} = {v | v ∈ st.seen ++ t.found} := by
        ext v
        exact List.mem_append.symm
      rw [union] at moved
      exact moved
    behind := by
      intro uncut u member outside e inside
      exact counted uncut u ((List.mem_append.mp member).resolve_right outside) e inside
    inner_known := by
      intro uncut slot inside
      obtain ⟨u, within, e, incident, rfl⟩ := inner_succ_iff.mp inside
      rw [Within, ← (here.frontier (before uncut)).exact_ball] at within
      exact counted uncut u within e incident
    witness := by
      intro cut
      have kept : full limits.edges st.known.length = true →
          ∀ slot : K × C, slot.1 ∉ st.known.map Prod.fst → slot.1 ∉ t.known.map Prod.fst := by
        intro spent slot missed later
        obtain ⟨other, member, equal⟩ := List.mem_map.mp later
        exact missed (equal ▸ done.edges_spent spent other member)
      rcases done.witness cut with old | ⟨spent, step, inside, missed⟩ |
        ⟨spent, step, inside, w, leads, unseen, missed⟩
      · rcases here.witness old with ⟨spent, w, within, unseen⟩ | ⟨spent, slot, inner, missed⟩
        · have nothing : t.found = [] := done.nodes_spent spent
          refine Or.inl ⟨?_, w, within_mono (Nat.le_succ n) within, ?_⟩
          · rw [nothing, List.append_nil]
            exact spent
          · rw [nothing, List.append_nil]
            exact unseen
        · exact Or.inr ⟨full_mono done.known_initial.length_le spent, slot,
            inner_mono (Nat.le_succ n) inner, kept spent slot missed⟩
      · exact Or.inr ⟨spent, _, slots step inside, missed⟩
      · refine Or.inl ⟨?_, w, hops step inside w leads, ?_⟩
        · rw [List.length_append]
          exact spent
        · rw [List.mem_append, not_or]
          exact ⟨unseen, missed⟩ }

/-- A whole run keeps the invariant. -/
theorem searched_run (distinct : roots.Nodup) (n : ℕ) :
    net.Searched limits roots n (net.run limits roots n) := by
  induction n with
  | zero => exact Searched.start distinct
  | succ n ih => exact ih.level

/-- From an empty front nothing is tried. -/
theorem level_of_front_nil {st : Stage V K C} (empty : st.front = []) :
    net.level limits st = st := by
  unfold level steps
  rw [empty]
  refine Stage.ext ?_ ?_ rfl rfl
  · exact List.append_nil _
  · exact empty.symm

/-- An empty front ends the search. -/
theorem run_of_front_nil {m : ℕ} (empty : (net.run limits roots m).front = []) (k : ℕ) :
    net.run limits roots (m + k) = net.run limits roots m := by
  induction k with
  | zero => rfl
  | succ k ih =>
    change net.level limits (net.run limits roots (m + k)) = net.run limits roots m
    rw [ih, level_of_front_nil empty]

theorem run_seen_mono {m n : ℕ} (le : m ≤ n) :
    (net.run limits roots m).seen <+: (net.run limits roots n).seen := by
  induction le with
  | refl => exact List.prefix_rfl
  | step _ ih => exact ih.trans (List.prefix_append _ _)

end Net

end AxiomMcp.Lib

/-
**Backtracking regular expressions.**

A `Regex` over an alphabet reads a `Place` of a text (the character in front, and the rest) and
answers every place a match can end at, *in the order a backtracking matcher tries them*
(`Regex.ends`): the first one is the match. An expression may look at its surroundings (a word
boundary, a character that must not stand in front), and a repetition is greedy or lazy.

* `ends_length`: a match takes at least `minLength` characters of the rest;
* `Pattern` is an expression that takes at least one, so the scan of a text for all its matches
  (`Pattern.finditer`) always moves on;
* `finditer_bounds`: **every reported span is a non-empty piece of the text**.
-/

import Mathlib.Data.List.Basic
import Mathlib.Algebra.Order.Ring.Nat

namespace AxiomMcp.Lib

/-- A regular expression over the characters `α`. -/
inductive Regex (α : Type*) where
  | empty
  /-- One character of a class. -/
  | one (p : α → Bool)
  | seq (first second : Regex α)
  | alt (first second : Regex α)
  /-- `{lo,hi}`, without `hi` unbounded; the longer choice first when greedy. -/
  | rep (lo : Nat) (hi : Option Nat) (greedy : Bool) (body : Regex α)
  /-- `\b`, of the word characters. -/
  | boundary (isWord : α → Bool)
  /-- `(?<!…)` of one character of a class. -/
  | notBehind (p : α → Bool)

/-- A place in a text: the character in front of it, and what follows. -/
structure Place (α : Type*) where
  before : Option α
  rest : List α

variable {α : Type*}

/-! ### Matching -/

/-- `n` rounds of a body. -/
def rounds (body : Place α → List (Place α)) : Nat → Place α → List (Place α)
  | 0, place => [place]
  | n + 1, place => (body place).flatMap (rounds body n)

/-- At most `n` rounds of a body. -/
def upTo (body : Place α → List (Place α)) (greedy : Bool) : Nat → Place α → List (Place α)
  | 0, place => [place]
  | n + 1, place =>
    if greedy then (body place).flatMap (upTo body greedy n) ++ [place]
    else place :: (body place).flatMap (upTo body greedy n)

namespace Regex

/-- Where a match from this place can end, first choice first. -/
def ends : Regex α → Place α → List (Place α)
  | empty, place => [place]
  | one p, place =>
    match place.rest with
    | c :: rest => if p c then [⟨some c, rest⟩] else []
    | [] => []
  | seq first second, place => (first.ends place).flatMap second.ends
  | alt first second, place => first.ends place ++ second.ends place
  | rep lo hi greedy body, place =>
    -- A body that takes a character has no more rounds than there are characters.
    (rounds body.ends lo place).flatMap fun next =>
      upTo body.ends greedy (hi.elim next.rest.length (· - lo)) next
  | boundary isWord, place =>
    if place.before.any isWord != place.rest.head?.any isWord then [place] else []
  | notBehind p, place => if place.before.any p then [] else [place]

/-- The fewest characters a match takes. -/
def minLength : Regex α → Nat
  | empty => 0
  | one _ => 1
  | seq first second => first.minLength + second.minLength
  | alt first second => min first.minLength second.minLength
  | rep lo _ _ body => lo * body.minLength
  | boundary _ => 0
  | notBehind _ => 0

/-- A choice between expressions. -/
def anyOf : Regex α → List (Regex α) → Regex α
  | first, [] => first
  | first, second :: more => alt first (anyOf second more)

/-- One expression behind the other. -/
def all (parts : List (Regex α)) : Regex α := parts.foldr seq empty

/-- `?` -/
def optional (body : Regex α) : Regex α := rep 0 (some 1) true body

/-- `*` -/
def star (body : Regex α) : Regex α := rep 0 none true body

/-- `{lo,}` -/
def atLeast (lo : Nat) (body : Regex α) : Regex α := rep lo none true body

/-- `{lo,hi}` -/
def within (lo hi : Nat) (body : Regex α) : Regex α := rep lo (some hi) true body

end Regex

section Lengths

variable {body : Place α → List (Place α)} {k : Nat}

theorem rounds_length
    (takes : ∀ place, ∀ next ∈ body place, next.rest.length + k ≤ place.rest.length) (n : Nat)
    (place : Place α) :
    ∀ next ∈ rounds body n place, next.rest.length + n * k ≤ place.rest.length := by
  induction n generalizing place with
  | zero =>
      intro next member
      rw [rounds, List.mem_singleton] at member
      rw [member]
      omega
  | succ n ih =>
      intro next member
      rw [rounds, List.mem_flatMap] at member
      obtain ⟨middle, first, later⟩ := member
      have left := takes place middle first
      have right := ih middle next later
      rw [Nat.succ_mul]
      omega

theorem upTo_length
    (takes : ∀ place, ∀ next ∈ body place, next.rest.length + k ≤ place.rest.length)
    (greedy : Bool) (n : Nat) (place : Place α) :
    ∀ next ∈ upTo body greedy n place, next.rest.length ≤ place.rest.length := by
  induction n generalizing place with
  | zero =>
      intro next member
      rw [upTo, List.mem_singleton] at member
      rw [member]
  | succ n ih =>
      intro next member
      have choice : next ∈ (body place).flatMap (upTo body greedy n) ∨ next = place := by
        cases greedy
        · rw [upTo, if_neg (by decide), List.mem_cons] at member
          exact member.symm
        · rw [upTo, if_pos rfl, List.mem_append, List.mem_singleton] at member
          exact member
      rcases choice with further | rfl
      · obtain ⟨middle, first, later⟩ := List.mem_flatMap.mp further
        have left := takes place middle first
        have right := ih middle next later
        omega
      · exact le_rfl

/-- A match takes at least `minLength` characters. -/
theorem Regex.ends_length (r : Regex α) (place : Place α) :
    ∀ next ∈ r.ends place, next.rest.length + r.minLength ≤ place.rest.length := by
  induction r generalizing place with
  | empty =>
      intro next member
      rw [ends, List.mem_singleton] at member
      rw [member, minLength]
      omega
  | one p =>
      intro next member
      rw [ends] at member
      split at member
      · rename_i c rest shape
        split at member
        · rw [List.mem_singleton] at member
          rw [member, shape, minLength, List.length_cons]
        · exact absurd member List.not_mem_nil
      · exact absurd member List.not_mem_nil
  | seq first second left right =>
      intro next member
      rw [ends, List.mem_flatMap] at member
      obtain ⟨middle, front, back⟩ := member
      have before := left place middle front
      have after := right middle next back
      rw [minLength]
      omega
  | alt first second left right =>
      intro next member
      rw [ends, List.mem_append] at member
      rw [minLength]
      rcases member with here | here
      · have := left place next here
        omega
      · have := right place next here
        omega
  | rep lo hi greedy body ih =>
      intro next member
      rw [ends, List.mem_flatMap] at member
      obtain ⟨middle, front, back⟩ := member
      have before := rounds_length ih lo place middle front
      have after := upTo_length ih greedy _ middle next back
      rw [minLength]
      omega
  | boundary isWord =>
      intro next member
      rw [ends] at member
      split at member
      · rw [List.mem_singleton] at member
        rw [member, minLength]
        omega
      · exact absurd member List.not_mem_nil
  | notBehind p =>
      intro next member
      rw [ends] at member
      split at member
      · exact absurd member List.not_mem_nil
      · rw [List.mem_singleton] at member
        rw [member, minLength]
        omega

end Lengths

/-! ### Scanning a text -/

/-- An expression that takes a character. -/
structure Pattern (α : Type*) where
  regex : Regex α
  consumes : 0 < regex.minLength

namespace Pattern

/-- `pattern.search` from offset `start`: the span of the first match, and the place behind it. -/
def search (p : Pattern α) : Nat → Option α → List α → Option ((Nat × Nat) × Place α)
  | start, before, [] =>
    (p.regex.ends ⟨before, []⟩).head?.map fun next => ((start, start), next)
  | start, before, c :: rest =>
    match p.regex.ends ⟨before, c :: rest⟩ with
    | next :: _ => some ((start, start + ((c :: rest).length - next.rest.length)), next)
    | [] => search p (start + 1) (some c) rest

/-- The matches from a place on, each search starting where the last match ended. -/
def scan (p : Pattern α) : Nat → Nat → Place α → List (Nat × Nat)
  | 0, _, _ => []
  | fuel + 1, start, place =>
    match p.search start place.before place.rest with
    | none => []
    | some (span, next) => span :: scan p fuel span.2 next

/-- `[match.span() for match in pattern.finditer(text)]` -/
def finditer (p : Pattern α) (text : List α) : List (Nat × Nat) :=
  -- Every match takes a character, so there are no more matches than characters.
  p.scan text.length 0 ⟨none, text⟩

theorem search_bounds (p : Pattern α) {start : Nat} {before : Option α} {text : List α}
    {span : Nat × Nat} {next : Place α} (found : p.search start before text = some (span, next)) :
    start ≤ span.1 ∧ span.1 < span.2 ∧ span.2 + next.rest.length = start + text.length := by
  induction text generalizing start before with
  | nil =>
      rw [search, Option.map_eq_some_iff] at found
      obtain ⟨place, first, -⟩ := found
      have short := p.regex.ends_length _ place (List.mem_of_head? first)
      have := p.consumes
      simp only [List.length_nil] at short
      omega
  | cons c rest ih =>
      rw [search] at found
      split at found
      · rename_i place more choices
        obtain ⟨rfl, rfl⟩ := Prod.mk.injEq .. ▸ Option.some.inj found
        have short := p.regex.ends_length ⟨before, c :: rest⟩ place (by rw [choices]; simp)
        have := p.consumes
        simp only [List.length_cons] at short ⊢
        omega
      · obtain ⟨below, wide, total⟩ := ih found
        rw [List.length_cons]
        omega

theorem scan_bounds (p : Pattern α) (fuel start : Nat) (place : Place α) :
    ∀ span ∈ p.scan fuel start place, span.1 < span.2 ∧ span.2 ≤ start + place.rest.length := by
  induction fuel generalizing start place with
  | zero =>
      intro span member
      exact absurd member List.not_mem_nil
  | succ fuel ih =>
      intro span member
      rw [scan] at member
      split at member
      · exact absurd member List.not_mem_nil
      · rename_i first next found
        obtain ⟨below, wide, total⟩ := p.search_bounds found
        rcases List.mem_cons.mp member with rfl | later
        · exact ⟨wide, by omega⟩
        · obtain ⟨nonempty, inside⟩ := ih first.2 next span later
          exact ⟨nonempty, by omega⟩

/-- A reported span is a non-empty piece of the text. -/
theorem finditer_bounds (p : Pattern α) {text : List α} {span : Nat × Nat}
    (member : span ∈ p.finditer text) : span.1 < span.2 ∧ span.2 ≤ text.length := by
  obtain ⟨wide, inside⟩ := p.scan_bounds text.length 0 ⟨none, text⟩ span member
  rw [Nat.zero_add] at inside
  exact ⟨wide, inside⟩

end Pattern

end AxiomMcp.Lib

/-
**Walking a directory tree with symbolic links.**

A `LinkTree` says what lies at each place, a place being the names that lead to it from the root. A path is a
list of segments, and walking it follows each link on the way.

* `Walks`: the walks that arrive, with or without following a link that is the last segment;
* `walks_append`: a walk along one path after another;
* `Walks.deterministic`: a path leads to one place, and `walks_place`: a place that is no link is its own path;
* `walk`: the walk as a function, and `walk_sound`.
-/

import Mathlib.Data.List.Basic
import Mathlib.Data.List.Induction

namespace AxiomMcp.Lib

/-! ### Trees -/

/-- One step of a path. -/
inductive Segment (Name : Type)
  | stay | up | name (name : Name)
  deriving DecidableEq

/-- What lies at a place. -/
inductive LinkNode (Name : Type)
  | file | directory | other
  /-- A symbolic link, from the root or from the directory it lies in. -/
  | link (absolute : Bool) (target : List (Segment Name))
  deriving DecidableEq

/-- What is no link. -/
def LinkNode.Plain {Name : Type} : LinkNode Name → Prop
  | .link _ _ => False
  | _ => True

/-- A tree of files, directories and links. -/
structure LinkTree (Name : Type) where
  node : List Name → Option (LinkNode Name)
  root : node [] = some .directory
  /-- What holds something is a directory. -/
  parent : ∀ place name, node (place ++ [name]) ≠ none → node place = some .directory

namespace LinkTree

variable {Name : Type} {tree : LinkTree Name}

/-- Where the target of a link starts. -/
def source (place : List Name) (absolute : Bool) : List Name := if absolute then [] else place

/-- A walk from a place along a path arrives at a place. Where `follow` is not set, a link that is the last
segment is itself the place. -/
inductive Walks (tree : LinkTree Name) (follow : Bool) : List Name → List (Segment Name) → List Name → Prop
  | arrive (place : List Name) : Walks tree follow place [] place
  | stay {place goal : List Name} {rest : List (Segment Name)} (directory : tree.node place = some .directory)
      (walk : Walks tree follow place rest goal) : Walks tree follow place (.stay :: rest) goal
  | up {place goal : List Name} {rest : List (Segment Name)} (directory : tree.node place = some .directory)
      (walk : Walks tree follow place.dropLast rest goal) : Walks tree follow place (.up :: rest) goal
  | enter {place goal : List Name} {name : Name} {rest : List (Segment Name)} {node : LinkNode Name}
      (here : tree.node (place ++ [name]) = some node) (plain : node.Plain)
      (walk : Walks tree follow (place ++ [name]) rest goal) : Walks tree follow place (.name name :: rest) goal
  | keep {place : List Name} {name : Name} {absolute : Bool} {target : List (Segment Name)}
      (here : tree.node (place ++ [name]) = some (.link absolute target)) (last : follow = false) :
      Walks tree follow place [.name name] (place ++ [name])
  | link {place goal : List Name} {name : Name} {rest target : List (Segment Name)} {absolute : Bool}
      (here : tree.node (place ++ [name]) = some (.link absolute target)) (on : follow = true ∨ rest ≠ [])
      (walk : Walks tree follow (source place absolute) (target ++ rest) goal) :
      Walks tree follow place (.name name :: rest) goal

variable {follow : Bool} {place mid goal : List Name} {path rest : List (Segment Name)}

/-- A walk that goes on leaves a directory. -/
theorem Walks.directory {segment : Segment Name} (walk : tree.Walks follow place (segment :: rest) goal) :
    tree.node place = some .directory := by
  cases walk with
  | stay directory _ => exact directory
  | up directory _ => exact directory
  | enter here _ _ => exact tree.parent _ _ (by rw [here]; exact Option.some_ne_none _)
  | keep here _ => exact tree.parent _ _ (by rw [here]; exact Option.some_ne_none _)
  | link here _ _ => exact tree.parent _ _ (by rw [here]; exact Option.some_ne_none _)

/-- A path leads to one place. -/
theorem Walks.deterministic {goal' : List Name} (walk : tree.Walks follow place path goal)
    (walk' : tree.Walks follow place path goal') : goal = goal' := by
  induction walk with
  | arrive place =>
    cases walk'
    rfl
  | stay _ _ ih =>
    cases walk' with
    | stay _ other => exact ih other
  | up _ _ ih =>
    cases walk' with
    | up _ other => exact ih other
  | enter here plain _ ih =>
    cases walk' with
    | enter _ _ other => exact ih other
    | keep here' _ =>
      rw [here] at here'
      exact (Option.some.inj here' ▸ plain : LinkNode.Plain (.link _ _)).elim
    | link here' _ _ =>
      rw [here] at here'
      exact (Option.some.inj here' ▸ plain : LinkNode.Plain (.link _ _)).elim
  | keep here last =>
    cases walk' with
    | enter here' plain _ =>
      rw [here] at here'
      exact (Option.some.inj here' ▸ plain : LinkNode.Plain (.link _ _)).elim
    | keep _ _ => rfl
    | link _ on _ =>
      rcases on with following | more
      · exact absurd (last.symm.trans following) Bool.false_ne_true
      · exact absurd rfl more
  | link here on _ ih =>
    cases walk' with
    | enter here' plain _ =>
      rw [here] at here'
      exact (Option.some.inj here' ▸ plain : LinkNode.Plain (.link _ _)).elim
    | keep _ last =>
      rcases on with following | more
      · exact absurd (last.symm.trans following) Bool.false_ne_true
      · exact absurd rfl more
    | link here' _ other =>
      rw [here] at here'
      obtain ⟨rfl, rfl⟩ := LinkNode.link.inj (Option.some.inj here')
      exact ih other

/-- **A walk along two paths**: the first is walked to its end, following a link there. -/
theorem walks_append (more : rest ≠ []) : tree.Walks follow place (path ++ rest) goal ↔
    ∃ mid, tree.Walks true place path mid ∧ tree.Walks follow mid rest goal := by
  constructor
  · intro walk
    generalize whole : path ++ rest = segments at walk
    induction walk generalizing path with
    | arrive place => exact absurd (List.append_eq_nil_iff.mp whole).2 more
    | stay directory walk ih =>
      rcases List.append_eq_cons_iff.mp whole with ⟨rfl, rfl⟩ | ⟨later, rfl, rfl⟩
      · exact ⟨_, .arrive _, .stay directory walk⟩
      · obtain ⟨mid, first, last⟩ := ih rfl
        exact ⟨mid, .stay directory first, last⟩
    | up directory walk ih =>
      rcases List.append_eq_cons_iff.mp whole with ⟨rfl, rfl⟩ | ⟨later, rfl, rfl⟩
      · exact ⟨_, .arrive _, .up directory walk⟩
      · obtain ⟨mid, first, last⟩ := ih rfl
        exact ⟨mid, .up directory first, last⟩
    | enter here plain walk ih =>
      rcases List.append_eq_cons_iff.mp whole with ⟨rfl, rfl⟩ | ⟨later, rfl, rfl⟩
      · exact ⟨_, .arrive _, .enter here plain walk⟩
      · obtain ⟨mid, first, last⟩ := ih rfl
        exact ⟨mid, .enter here plain first, last⟩
    | keep here last =>
      rcases List.append_eq_cons_iff.mp whole with ⟨rfl, rfl⟩ | ⟨later, rfl, none⟩
      · exact ⟨_, .arrive _, .keep here last⟩
      · exact absurd (List.append_eq_nil_iff.mp none.symm).2 more
    | link here on walk ih =>
      rcases List.append_eq_cons_iff.mp whole with ⟨rfl, rfl⟩ | ⟨later, rfl, rfl⟩
      · exact ⟨_, .arrive _, .link here on walk⟩
      · obtain ⟨mid, first, last⟩ := ih (List.append_assoc _ _ _)
        exact ⟨mid, .link here (.inl rfl) first, last⟩
  · rintro ⟨mid, first, last⟩
    generalize following : true = always at first
    induction first with
    | arrive place => exact last
    | stay directory _ ih => exact .stay directory (ih last)
    | up directory _ ih => exact .up directory (ih last)
    | enter here plain _ ih => exact .enter here plain (ih last)
    | keep _ unset => exact nomatch following.trans unset
    | link here _ _ ih =>
      refine .link here (.inr fun none => more (List.append_eq_nil_iff.mp none).2) ?_
      exact List.append_assoc _ _ _ ▸ ih last

/-- A walk that ends at no link has followed all there was. -/
theorem Walks.followed {node : LinkNode Name} (walk : tree.Walks follow place path goal)
    (here : tree.node goal = some node) (plain : node.Plain) : tree.Walks true place path goal := by
  induction walk with
  | arrive place => exact .arrive place
  | stay directory _ ih => exact .stay directory (ih here)
  | up directory _ ih => exact .up directory (ih here)
  | enter step plain' _ ih => exact .enter step plain' (ih here)
  | keep step _ =>
    rw [step] at here
    exact (Option.some.inj here ▸ plain : LinkNode.Plain (.link _ _)).elim
  | link step _ _ ih => exact .link step (.inl rfl) (ih here)

/-- A place that is no link is reached by its own names. -/
theorem walks_place {node : LinkNode Name} (here : tree.node place = some node) (plain : node.Plain) :
    tree.Walks true [] (place.map .name) place := by
  induction place using List.reverseRecOn generalizing node with
  | nil => exact .arrive []
  | append_singleton before name ih =>
    have inside : tree.node before = some .directory :=
      tree.parent before name (by rw [here]; exact Option.some_ne_none _)
    rw [List.map_append]
    refine (walks_append (List.cons_ne_nil _ _)).mpr ⟨before, ih inside trivial, ?_⟩
    exact .enter here plain (.arrive _)

/-! ### Walking -/

section Walk

variable [DecidableEq Name]

/-- The place a path leads to, walked by at most so many steps. -/
def walk (tree : LinkTree Name) (follow : Bool) : ℕ → List Name → List (Segment Name) → Option (List Name)
  | _, place, [] => some place
  | 0, _, _ :: _ => none
  | steps + 1, place, .stay :: rest =>
    if tree.node place = some .directory then walk tree follow steps place rest else none
  | steps + 1, place, .up :: rest =>
    if tree.node place = some .directory then walk tree follow steps place.dropLast rest else none
  | steps + 1, place, .name name :: rest =>
    match tree.node (place ++ [name]) with
    | none => none
    | some (.link absolute target) =>
      if follow = true ∨ rest ≠ [] then walk tree follow steps (source place absolute) (target ++ rest)
      else some (place ++ [name])
    | some _ => walk tree follow steps (place ++ [name]) rest

/-- What the function finds is a walk. -/
theorem walk_sound {steps : ℕ} (found : tree.walk follow steps place path = some goal) :
    tree.Walks follow place path goal := by
  induction steps generalizing place path with
  | zero =>
    cases path with
    | nil =>
      obtain rfl := Option.some.inj found
      exact .arrive _
    | cons segment rest => cases found
  | succ steps ih =>
    match path with
    | [] =>
      obtain rfl := Option.some.inj found
      exact .arrive _
    | .stay :: rest =>
      rw [walk] at found
      split at found
      · next directory => exact .stay directory (ih found)
      · cases found
    | .up :: rest =>
      rw [walk] at found
      split at found
      · next directory => exact .up directory (ih found)
      · cases found
    | .name name :: rest =>
      rw [walk] at found
      split at found
      · cases found
      · next absolute target here =>
        split at found
        · next on => exact .link here on (ih found)
        · next off =>
          obtain ⟨unset, rfl⟩ : follow = false ∧ rest = [] := by
            simpa using off
          obtain rfl := Option.some.inj found
          exact .keep here unset
      · next node link here =>
        refine .enter here ?_ (ih found)
        cases node with
        | link absolute target => exact absurd rfl (link absolute target)
        | _ => trivial

end Walk

/-! ### Finite trees -/

section Finite

variable [DecidableEq Name]

/-- What a list of places says lies at one of them. -/
def nodeOf (entries : List (List Name × LinkNode Name)) (place : List Name) : Option (LinkNode Name) :=
  if place = [] then some .directory else entries.lookup place

/-- A list of places, each in a directory. -/
def Closed (entries : List (List Name × LinkNode Name)) : Prop :=
  ∀ entry ∈ entries, nodeOf entries entry.1.dropLast = some .directory

instance decidableClosed (entries : List (List Name × LinkNode Name)) : Decidable (Closed entries) :=
  inferInstanceAs (Decidable (∀ _ ∈ _, _))

/-- A place of a list, other than the root, is in the list. -/
theorem mem_of_nodeOf {entries : List (List Name × LinkNode Name)} {place : List Name} {node : LinkNode Name}
    (below : place ≠ []) (found : nodeOf entries place = some node) : (place, node) ∈ entries := by
  rw [nodeOf, if_neg below] at found
  obtain ⟨before, after, rfl, _⟩ := List.lookup_eq_some_iff.mp found
  exact List.mem_append_right _ (.head _)

/-- The tree of a list of places. -/
def ofList (entries : List (List Name × LinkNode Name)) (closed : Closed entries) : LinkTree Name where
  node := nodeOf entries
  root := if_pos rfl
  parent := by
    intro place name present
    obtain ⟨node, found⟩ := Option.ne_none_iff_exists'.mp present
    have below : place ++ [name] ≠ [] := List.append_ne_nil_of_right_ne_nil _ (List.cons_ne_nil _ _)
    have held := closed _ (mem_of_nodeOf below found)
    rwa [List.dropLast_concat] at held

end Finite

end LinkTree

end AxiomMcp.Lib

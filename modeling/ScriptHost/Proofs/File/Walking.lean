/-
This file follows paths through a tree. A walk is made up of its parts, and where it ends does not depend on
how many steps it was granted.
-/
import Mathlib.Data.List.Infix
import ScriptHost.File.Tree
import ScriptHost.Proofs.File.Joining

namespace ScriptHost.File.Tree

variable {tree : Tree} {fuel more : Nat} {here there middle : Location} {segment : String}
  {rest first second segments names : List String}

/-- This is one step: the place that a segment leads to, and the segments that are still to go. -/
def advance (tree : Tree) (here : Location) (segment : String) (rest : List String) :
    Option (Location × List String) :=
  if ¬ tree.isDirectory here then none
  else if segment = "" ∨ segment = "." then some (here, rest)
  else if segment = ".." then some (here.dropLast, rest)
  else
    match tree.node? (here ++ [segment]) with
    | none => none
    | some (.link target) => some (if target.isAbsolute then [] else here, File.segments target.text ++ rest)
    | some _ => some (here ++ [segment], rest)

/-- Without steps no walk ends. -/
theorem walk_zero : tree.walk 0 here segments = none := by
  cases segments <;> rfl

/-- A walk advances by one segment and goes on. -/
theorem walk_cons : tree.walk (fuel + 1) here (segment :: rest) =
    (tree.advance here segment rest).bind fun next => tree.walk fuel next.1 next.2 := by
  rw [walk, advance]
  split
  · rfl
  · split
    · rfl
    · split
      · rfl
      · rcases tree.node? (here ++ [segment]) with _ | _ | _ | target <;> rfl

/-- This is all that a step can do. -/
inductive Advances (tree : Tree) (here : Location) (segment : String) (rest : List String) :
    Location × List String → Prop
  | idle (idle : Idle segment) : Advances tree here segment rest (here, rest)
  | up (up : segment = "..") : Advances tree here segment rest (here.dropLast, rest)
  | link {target : Pathname} (busy : ¬ Idle segment) (link : tree.node? (here ++ [segment]) = some (.link target)) :
      Advances tree here segment rest
        (if target.isAbsolute then [] else here, File.segments target.text ++ rest)
  | down (busy : ¬ Idle segment) (down : segment ≠ "..") : Advances tree here segment rest (here ++ [segment], rest)

/-- What a step comes to is one of the ways to advance. -/
theorem advances {next : Location × List String} (steps : tree.advance here segment rest = some next) :
    tree.Advances here segment rest next := by
  rw [advance] at steps
  split at steps
  · cases steps
  · split at steps
    · next idle =>
        cases steps
        exact .idle idle
    · next busy =>
        split at steps
        · next up =>
            cases steps
            exact .up up
        · next down =>
            split at steps
            · cases steps
            · next target link =>
                cases steps
                exact .link busy link
            · cases steps
              exact .down busy down

/-- A step does not look at the segments behind it. -/
theorem advance_append : tree.advance here segment (first ++ second) =
    (tree.advance here segment first).map fun next => (next.1, next.2 ++ second) := by
  rw [advance, advance]
  split
  · rfl
  · split
    · rfl
    · split
      · rfl
      · split
        · rfl
        · rw [← List.append_assoc]
          rfl
        · rfl

/-- Whoever may take more steps gets to the same place. -/
theorem walk_mono (ends : tree.walk fuel here segments = some there) (enough : fuel ≤ more) :
    tree.walk more here segments = some there := by
  induction fuel generalizing more here segments with
  | zero =>
      rw [walk_zero] at ends
      cases ends
  | succ fuel ih =>
      obtain ⟨spare, rfl⟩ := Nat.exists_eq_add_of_le' enough
      cases segments with
      | nil => exact ends
      | cons segment rest =>
          rw [walk_cons] at ends
          obtain ⟨next, steps, later⟩ := Option.bind_eq_some_iff.mp ends
          rw [← Nat.add_assoc, walk_cons, steps]
          exact ih later (Nat.le_add_left fuel spare)

/-- However many steps are granted, walks of one path end at the same place. -/
theorem walk_unique {other : Location} (ends : tree.walk fuel here segments = some there)
    (ends' : tree.walk more here segments = some other) : there = other := by
  rcases Nat.le_total fuel more with enough | enough
  · exact Option.some.inj ((walk_mono ends enough).symm.trans ends')
  · exact Option.some.inj (ends.symm.trans (walk_mono ends' enough))

/-- A walk over two parts comes through a place between them. -/
theorem walk_append (ends : tree.walk fuel here (first ++ second) = some there) :
    ∃ middle, tree.walk fuel here first = some middle ∧ tree.walk fuel middle second = some there := by
  induction fuel generalizing here first with
  | zero =>
      rw [walk_zero] at ends
      cases ends
  | succ fuel ih =>
      cases first with
      | nil => exact ⟨here, rfl, ends⟩
      | cons segment rest =>
          rw [List.cons_append, walk_cons, advance_append, Option.bind_map] at ends
          obtain ⟨next, steps, later⟩ := Option.bind_eq_some_iff.mp ends
          obtain ⟨middle, before, after⟩ := ih later
          refine ⟨middle, ?_, walk_mono after (Nat.le_succ fuel)⟩
          rw [walk_cons, steps]
          exact before

/-- Without segments a walk ends where it starts. -/
theorem walk_nil (ends : tree.walk fuel here [] = some there) : there = here := by
  cases fuel with
  | zero => cases ends
  | succ fuel => exact (Option.some.inj ends).symm

/-- A walk that goes on has taken a step. -/
theorem walk_step (ends : tree.walk fuel here (segment :: rest) = some there) :
    ∃ next fuel, tree.Advances here segment rest next ∧ tree.walk fuel next.1 next.2 = some there := by
  cases fuel with
  | zero => cases ends
  | succ fuel =>
      rw [walk_cons] at ends
      obtain ⟨next, steps, later⟩ := Option.bind_eq_some_iff.mp ends
      exact ⟨next, fuel, advances steps, later⟩

/-- Idle segments lead nowhere else. -/
theorem walk_idle (idle : ∀ segment ∈ segments, Idle segment)
    (ends : tree.walk fuel here segments = some there) : there = here := by
  induction segments generalizing fuel with
  | nil => exact walk_nil ends
  | cons segment rest ih =>
      obtain ⟨first, others⟩ := List.forall_mem_cons.mp idle
      obtain ⟨next, fuel, steps, later⟩ := walk_step ends
      cases steps with
      | idle => exact ih others later
      | up up =>
          subst up
          simp [Idle] at first
      | link busy => exact absurd first busy
      | down busy => exact absurd first busy

def isLink (tree : Tree) (location : Location) : Bool :=
  match tree.node? location with
  | some (.link _) => true
  | _ => false

/-- No name on the way down is that of a link. -/
def Plain (tree : Tree) (here : Location) (names : List String) : Prop :=
  ∀ above ∈ names.inits, above ≠ [] → tree.isLink (here ++ above) = false

instance : Decidable (tree.Plain here names) :=
  inferInstanceAs (Decidable (∀ above ∈ names.inits, _ → _))

/-- A part of a plain way is plain. -/
theorem Plain.shorter (plain : tree.Plain here names) (before : first <+: names) : tree.Plain here first := by
  intro above within
  exact plain above ((List.mem_inits _ _).mpr (((List.mem_inits _ _).mp within).trans before))

/-- What follows the first name of a plain way is plain. -/
theorem Plain.tail {name : String} (plain : tree.Plain here (name :: rest)) : tree.Plain (here ++ [name]) rest := by
  intro above within _
  have longer := List.cons_prefix_cons.mpr ⟨(rfl : name = name), (List.mem_inits _ _).mp within⟩
  rw [List.append_assoc]
  exact plain (name :: above) ((List.mem_inits _ _).mpr longer) (by simp)

/-- Names that are no links lead straight down. -/
theorem walk_names (named : ∀ name ∈ names, IsName name) (plain : tree.Plain here names)
    (ends : tree.walk fuel here names = some there) : there = here ++ names := by
  induction names generalizing fuel here with
  | nil => rw [walk_nil ends, List.append_nil]
  | cons name rest ih =>
      obtain ⟨first, others⟩ := List.forall_mem_cons.mp named
      obtain ⟨next, fuel, steps, later⟩ := walk_step ends
      cases steps with
      | idle idle => exact absurd idle first.busy
      | up up => exact absurd up first.2.2.1
      | link busy link =>
          have other := plain [name] (by simp) (by simp)
          rw [isLink, link] at other
          cases other
      | down =>
          rw [ih others plain.tail later, List.append_assoc]
          rfl

/-- Proper names and whole pieces stay so at each step. -/
theorem Advances.proper {next : Location × List String} (steps : tree.Advances here segment rest next)
    (proper : ∀ name ∈ here, IsName name) (whole : ∀ piece ∈ segment :: rest, '/' ∉ piece.toList) :
    (∀ name ∈ next.1, IsName name) ∧ ∀ piece ∈ next.2, '/' ∉ piece.toList := by
  obtain ⟨first, others⟩ := List.forall_mem_cons.mp whole
  cases steps with
  | idle => exact ⟨proper, others⟩
  | up => exact ⟨fun name member => proper name (List.dropLast_subset _ member), others⟩
  | link =>
      refine ⟨?_, List.forall_mem_append.mpr ⟨fun piece => segments_pieces, others⟩⟩
      dsimp only
      split
      · simp
      · exact proper
  | down busy down =>
      refine ⟨List.forall_mem_append.mpr ⟨proper, ?_⟩, others⟩
      obtain ⟨filled, current⟩ := not_or.mp busy
      simpa using ⟨filled, current, down, first⟩

/-- Only names are added to a place. -/
theorem walk_proper (proper : ∀ name ∈ here, IsName name) (whole : ∀ piece ∈ segments, '/' ∉ piece.toList)
    (ends : tree.walk fuel here segments = some there) : ∀ name ∈ there, IsName name := by
  induction fuel generalizing here segments with
  | zero =>
      rw [walk_zero] at ends
      cases ends
  | succ fuel ih =>
      cases segments with
      | nil =>
          rw [walk_nil ends]
          exact proper
      | cons segment rest =>
          rw [walk_cons] at ends
          obtain ⟨next, steps, later⟩ := Option.bind_eq_some_iff.mp ends
          obtain ⟨named, whole⟩ := (advances steps).proper proper whole
          exact ih named whole later

section Paths

variable {path root : Pathname} {location : Location} {name : String}

/-- An absolute path is followed from the root directory. -/
theorem resolve_absolute (absolute : path.isAbsolute = true) :
    tree.resolve path = tree.walk stepLimit [] (File.segments path.text) := by
  have filled : path.text ≠ "" := by
    intro empty
    rw [Pathname.isAbsolute, empty] at absolute
    cases absolute
  rw [resolve, if_neg filled, if_pos absolute]

/-- A path leads to a place with proper names. -/
theorem resolve_proper (absolute : path.isAbsolute = true) (resolved : tree.resolve path = some location) :
    ∀ name ∈ location, IsName name := by
  rw [resolve_absolute absolute] at resolved
  exact walk_proper (by simp) (fun piece => segments_pieces) resolved

end Paths

end ScriptHost.File.Tree

/-
This file shows that the normal path of something that stands is its own normal path: no link is met on the way down
to it any more.
-/
import ScriptHost.Proofs.File.Below

namespace ScriptHost.File.Tree

variable {tree : Tree} {fuel : Nat} {here there location : Location} {segment name : String}
  {rest segments names : List String} {path : Pathname}

/-- Every name on the way down stands in a directory and is no link. -/
def Firm (tree : Tree) (location : Location) : Prop :=
  ∀ above name, above ++ [name] <+: location → tree.isDirectory above = true ∧
    ∃ node, tree.node? (above ++ [name]) = some node ∧ ∀ target, node ≠ .link target

/-- The root directory is firm. -/
theorem firm_nil : tree.Firm [] := by
  intro above name before
  have empty := List.prefix_nil.mp before
  simp at empty

/-- What is above a firm place is firm. -/
theorem Firm.dropLast (firm : tree.Firm here) : tree.Firm here.dropLast :=
  fun above name before => firm above name (before.trans (List.dropLast_prefix here))

/-- A place below a firm one is firm unless it is a link. -/
theorem Firm.concat {node : Node} (firm : tree.Firm here) (housed : tree.isDirectory here = true)
    (present : tree.node? (here ++ [segment]) = some node) (solid : ∀ target, node ≠ .link target) :
    tree.Firm (here ++ [segment]) := by
  intro above name before
  rcases List.prefix_concat_iff.mp before with same | before
  · obtain ⟨rfl, last⟩ := List.append_inj' same rfl
    obtain rfl := (List.cons.inj last).1
    exact ⟨housed, node, present, solid⟩
  · exact firm above name before

/-- A step leads from a firm place to a firm one. -/
theorem advance_firm {next : Location × List String} (firm : tree.Firm here)
    (steps : tree.advance here segment rest = some next) : tree.Firm next.1 := by
  rw [advance] at steps
  split at steps
  · cases steps
  · next housed =>
      split at steps
      · cases steps
        exact firm
      · split at steps
        · cases steps
          exact firm.dropLast
        · split at steps
          · cases steps
          · cases steps
            dsimp only
            split
            · exact firm_nil
            · exact firm
          · next node solid present =>
              cases steps
              exact firm.concat (by simpa using housed) present solid

/-- A walk from a firm place ends at a firm one. -/
theorem walk_firm (firm : tree.Firm here) (ends : tree.walk fuel here segments = some there) : tree.Firm there := by
  induction fuel generalizing here segments with
  | zero =>
      rw [walk_zero] at ends
      cases ends
  | succ fuel ih =>
      cases segments with
      | nil =>
          rw [walk_nil ends]
          exact firm
      | cons segment rest =>
          rw [walk_cons] at ends
          obtain ⟨next, steps, later⟩ := Option.bind_eq_some_iff.mp ends
          exact ih (advance_firm firm steps) later

/-- A step goes down by at most one name. -/
theorem Advances.length {next : Location × List String} (steps : tree.Advances here segment rest next) :
    next.1.length ≤ here.length + 1 := by
  cases steps with
  | idle => exact Nat.le_succ _
  | up => simp; omega
  | link => dsimp only; split <;> simp
  | down => simp

/-- A walk goes down by one place in a step, and it ends before its steps are used up. -/
theorem walk_length (ends : tree.walk fuel here segments = some there) :
    there.length + 1 ≤ here.length + fuel := by
  induction fuel generalizing here segments with
  | zero =>
      rw [walk_zero] at ends
      cases ends
  | succ fuel ih =>
      cases segments with
      | nil =>
          rw [walk_nil ends]
          omega
      | cons segment rest =>
          rw [walk_cons] at ends
          obtain ⟨next, steps, later⟩ := Option.bind_eq_some_iff.mp ends
          have deep := ih later
          have down := (advances steps).length
          omega

/-- Names that lead down without a link are walked in as many steps. -/
theorem Firm.walk (firm : tree.Firm (here ++ names)) (named : ∀ name ∈ names, IsName name)
    (enough : names.length < fuel) : tree.walk fuel here names = some (here ++ names) := by
  induction names generalizing fuel here with
  | nil =>
      obtain ⟨fuel, rfl⟩ := Nat.exists_eq_add_of_lt enough
      rw [List.append_nil]
      rfl
  | cons name rest ih =>
      obtain ⟨fuel, rfl⟩ : ∃ more, fuel = more + 1 := ⟨fuel - 1, by omega⟩
      obtain ⟨first, others⟩ := List.forall_mem_cons.mp named
      have split : here ++ name :: rest = here ++ [name] ++ rest := by rw [List.append_assoc]; rfl
      rw [split] at firm ⊢
      obtain ⟨housed, node, present, solid⟩ := firm here name (List.prefix_append _ _)
      have step : tree.advance here name rest = some (here ++ [name], rest) := by
        have busy : ¬ (name = "" ∨ name = ".") := first.busy
        rw [advance, if_neg (by simp [housed]), if_neg busy, if_neg first.2.2.1, present]
        cases node with
        | link target => exact absurd rfl (solid target)
        | file | directory => rfl
      rw [walk_cons, step]
      exact ih firm others (by simp at enough; omega)

/-- What stands has the path of its location as its normal path. -/
theorem normalize_resolved (stands : tree.resolve (tree.absolute path) = some location) :
    tree.normalize path = Pathname.ofLocation location := by
  rw [normalize_eq, stands, Option.elim_some]

/-- What a path leads to is found straight down from the root directory. -/
theorem resolve_ofLocation (absolute : path.isAbsolute = true) (resolved : tree.resolve path = some location) :
    tree.resolve (Pathname.ofLocation location) = some location := by
  have named := resolve_proper absolute resolved
  rw [resolve_absolute absolute] at resolved
  rw [resolve_absolute (ofLocation_absolute location)]
  have firm : tree.Firm location := walk_firm firm_nil resolved
  -- The empty segment before the first slash takes a step that leads nowhere.
  have begins (rest : List String) (fuel : Nat) : tree.walk (fuel + 1) [] ("" :: rest) = tree.walk fuel [] rest := rfl
  have limit : stepLimit = 4095 + 1 := rfl
  obtain ⟨rest, spelled⟩ := Pathname.absolute_segments absolute
  rw [spelled, limit, begins] at resolved
  have short := walk_length resolved
  by_cases top : location = []
  · subst top
    rfl
  · have segments : File.segments (Pathname.ofLocation location).text = "" :: location := by
      have divided := segments_append "" (slash location)
      rw [segments_empty, segments_slash (fun name member => (named name member).2.2.2) top] at divided
      exact divided
    rw [segments, limit, begins]
    have whole : tree.Firm ([] ++ location) := firm
    exact whole.walk named (by simp at short; omega)

/-- The normal path of something that stands leads to it as well, and is left as it is. -/
theorem normalize_normalize (stands : (tree.resolve (tree.absolute path)).isSome) :
    tree.normalize (tree.normalize path) = tree.normalize path := by
  obtain ⟨location, resolved⟩ := Option.isSome_iff_exists.mp stands
  have whole : tree.absolute (Pathname.ofLocation location) = Pathname.ofLocation location :=
    if_pos (ofLocation_absolute location)
  rw [normalize_resolved resolved]
  apply normalize_resolved
  rw [whole]
  exact resolve_ofLocation (absolute_isAbsolute tree path) resolved

end ScriptHost.File.Tree

/-
This file says which kind a table of roots gives to a path: that of the deepest root above it, and of
equal roots the first.
-/
import Mathlib.Data.List.Basic
import ScriptHost.File.Root
import ScriptHost.Proofs.File.Spelling

namespace ScriptHost.File

namespace Pathname

variable {path other : Pathname} {location place : Location}

/-- Paths are the same if they have the same components. -/
theorem same_iff : path.same other = true ↔ path.components = other.components := by
  rw [same, beq_iff_eq]

/-- A path starts with another if its components do. -/
theorem startsWith_iff : path.startsWith other = true ↔ other.components <+: path.components := by
  rw [startsWith, List.isPrefixOf_iff_prefix]

/-- Different names are different components. -/
theorem normal_injective : Function.Injective Component.normal := fun _ _ => Component.normal.inj

/-- Locations with proper names have the same path only if they are the same. -/
theorem same_ofLocation (proper : ∀ name ∈ location, IsName name) (proper' : ∀ name ∈ place, IsName name) :
    (ofLocation location).same (ofLocation place) = true ↔ location = place := by
  rw [same_iff, components_ofLocation proper, components_ofLocation proper', List.cons_inj_right,
    normal_injective.list_map.eq_iff]

/-- A path starts with another exactly if its location is below. -/
theorem startsWith_ofLocation (proper : ∀ name ∈ location, IsName name)
    (proper' : ∀ name ∈ place, IsName name) :
    (ofLocation location).startsWith (ofLocation place) = true ↔ place <+: location := by
  rw [startsWith_iff, components_ofLocation proper, components_ofLocation proper', List.cons_prefix_cons,
    List.prefix_map_iff_of_injective normal_injective]
  exact and_iff_right rfl

end Pathname

namespace RootTable

variable {table : RootTable} {path root : Pathname} {kind : RootKind} {entry : Pathname × RootKind}
  {entries : List (Pathname × RootKind)}

/-- The path of a location is as deep as its names are many, with one more for the root directory. -/
theorem depth_ofLocation {location : Location} (proper : ∀ name ∈ location, IsName name) :
    depth (Pathname.ofLocation location) = location.length + 1 := by
  rw [depth, Pathname.components_ofLocation proper, List.length_cons, List.length_map]

/-- The entry that is left is one of those that were seen, and none of them is deeper. -/
theorem foldl_deeper {best : Option (Pathname × RootKind)} {chosen : Pathname × RootKind}
    (left : entries.foldl deeper best = some chosen) :
    (chosen ∈ entries ∨ best = some chosen) ∧ (∀ entry ∈ entries, depth entry.1 ≤ depth chosen.1) ∧
      ∀ held ∈ best, depth held.1 ≤ depth chosen.1 := by
  induction entries generalizing best with
  | nil =>
      obtain rfl : best = some chosen := left
      refine ⟨Or.inr rfl, by simp, ?_⟩
      rintro held ⟨⟩
      exact Nat.le_refl _
  | cons entry rest ih =>
      obtain ⟨among, deepest, later⟩ := ih left
      have step : (deeper best entry = some entry ∨ deeper best entry = best) ∧
          ∃ held, deeper best entry = some held ∧ depth entry.1 ≤ depth held.1 ∧
            ∀ former ∈ best, depth former.1 ≤ depth held.1 := by
        unfold deeper
        cases best with
        | none => exact ⟨Or.inl rfl, entry, rfl, Nat.le_refl _, by simp⟩
        | some former =>
            dsimp only
            split
            · next shallow => exact ⟨Or.inl rfl, entry, rfl, Nat.le_refl _, by simpa using shallow⟩
            · next deep => exact ⟨Or.inr rfl, former, rfl, by omega, by simp⟩
      obtain ⟨kept, held, found, above, former⟩ := step
      have bound := later held found
      refine ⟨?_, ?_, fun best member => Nat.le_trans (former best member) bound⟩
      · rcases among with member | same
        · exact Or.inl (List.mem_cons_of_mem _ member)
        · rcases kept with kept | kept <;> rw [kept] at same
          · exact Or.inl (by rw [Option.some.inj same]; exact List.mem_cons_self)
          · exact Or.inr same
      · exact List.forall_mem_cons.mpr ⟨Nat.le_trans above bound, deepest⟩

/-- A candidate is given up only for another one. -/
theorem foldl_deeper_isSome (entries : List (Pathname × RootKind)) (held : Pathname × RootKind) :
    (entries.foldl deeper (some held)).isSome := by
  induction entries generalizing held with
  | nil => rfl
  | cons entry rest ih =>
      rw [List.foldl_cons, deeper]
      split <;> exact ih _

/-- The kind of a path comes from a root above it, and no root above it is deeper. -/
theorem classifyNormal_deepest (classified : table.classifyNormal path = some kind) :
    ∃ root, (root, kind) ∈ table.roots ∧ path.startsWith root = true ∧
      ∀ entry ∈ table.roots, path.startsWith entry.1 = true → depth entry.1 ≤ depth root := by
  obtain ⟨⟨root, _⟩, found, rfl⟩ := Option.map_eq_some_iff.mp classified
  obtain ⟨among, deepest, -⟩ := foldl_deeper found
  obtain ⟨member, starts⟩ := List.mem_filter.mp (among.resolve_right (by simp))
  exact ⟨root, member, starts, fun entry member starts => deepest entry (List.mem_filter.mpr ⟨member, starts⟩)⟩

/-- A path has no kind exactly if no root is above it. -/
theorem classifyNormal_eq_none : table.classifyNormal path = none ↔
    ∀ entry ∈ table.roots, path.startsWith entry.1 = false := by
  have empty : table.classifyNormal path = none ↔
      (table.roots.filter fun entry => path.startsWith entry.1) = [] := by
    rw [classifyNormal, Option.map_eq_none_iff]
    cases table.roots.filter fun entry => path.startsWith entry.1 with
    | nil => simp
    | cons entry rest =>
        have some' := foldl_deeper_isSome rest entry
        rw [Option.isSome_iff_ne_none] at some'
        exact iff_of_false some' (by simp)
  rw [empty, List.filter_eq_nil_iff]
  simp

/-- No two entries are the same path. -/
def Distinct (table : RootTable) : Prop :=
  table.roots.Pairwise fun entry other => entry.1.same other.1 = false

/-- Distinct roots stay distinct when one is inserted. -/
theorem Distinct.insertNormal (distinct : table.Distinct) (root : Pathname) (kind : RootKind) :
    (table.insertNormal root kind).1.Distinct := by
  unfold RootTable.insertNormal
  split
  · exact distinct
  · next apart =>
      refine List.pairwise_append.mpr ⟨distinct, List.pairwise_singleton _ _, ?_⟩
      intro entry member other last
      obtain rfl := List.mem_singleton.mp last
      exact Bool.eq_false_iff.mpr fun same => apart (List.any_eq_true.mpr ⟨entry, member, same⟩)

/-- In a table, the path of an entry leads back to the entry. -/
theorem Distinct.find (distinct : table.Distinct) (member : entry ∈ table.roots) :
    table.roots.find? (fun other => other.1.same entry.1) = some entry := by
  obtain ⟨before, after, split⟩ := List.append_of_mem member
  rw [Distinct, split] at distinct
  rw [split, List.find?_append, List.find?_eq_none.mpr, Option.none_or, List.find?_cons_of_pos]
  · exact Pathname.same_iff.mpr rfl
  · intro other earlier
    simpa using (List.pairwise_append.mp distinct).2.2 other earlier entry List.mem_cons_self

/-- Of the same roots the one that came first is found. -/
theorem insertNormal_find (root other : Pathname) (kind : RootKind) :
    (table.insertNormal root kind).1.roots.find? (fun entry => entry.1.same other) =
      (table.roots ++ [(root, kind)]).find? fun entry => entry.1.same other := by
  unfold insertNormal
  split
  · next held =>
      obtain ⟨entry, member, same⟩ := List.any_eq_true.mp held
      rw [List.find?_append]
      cases found : table.roots.find? fun entry => entry.1.same other with
      | some former => rfl
      | none =>
          have apart := List.find?_eq_none.mp found entry member
          rw [List.find?_singleton, if_neg]
          · rfl
          · rw [Pathname.same_iff] at same apart ⊢
            rwa [← same]
  · rfl

/-- The roots enter the table one after the other. -/
def fill (table : RootTable) (entries : List (Pathname × RootKind)) : RootTable :=
  entries.foldl (fun table entry => (table.insertNormal entry.1 entry.2).1) table

/-- Distinct roots stay distinct while a table is filled. -/
theorem Distinct.fill (distinct : table.Distinct) (entries : List (Pathname × RootKind)) :
    (table.fill entries).Distinct := by
  induction entries generalizing table with
  | nil => exact distinct
  | cons entry rest ih => exact ih (distinct.insertNormal entry.1 entry.2)

/-- Of the entries with one path, the first is in the table. -/
theorem fill_find (other : Pathname) :
    (table.fill entries).roots.find? (fun entry => entry.1.same other) =
      (table.roots ++ entries).find? fun entry => entry.1.same other := by
  induction entries generalizing table with
  | nil => rw [fill, List.foldl_nil, List.append_nil]
  | cons entry rest ih =>
      change ((table.insertNormal entry.1 entry.2).1.fill rest).roots.find? _ = _
      rw [ih, List.find?_append, insertNormal_find, ← List.find?_append, List.append_assoc]
      rfl

/-- The empty table has distinct roots. -/
theorem distinct_empty : empty.Distinct := List.Pairwise.nil

end RootTable

namespace RootKind

/-- There are no other kinds of roots. -/
theorem mem_all (kind : RootKind) : kind ∈ all := by
  cases kind <;> decide

/-- The deepest root above the file decides, and of equal ones the first. -/
structure Decides (place : RootKind → Location) (file : Location) (kind : RootKind) : Prop where
  above : place kind <+: file
  deepest : ∀ other, place other <+: file → (place other).length ≤ (place kind).length
  first : all.find? (fun other => place other = place kind) = some kind

end RootKind

namespace RootTable

variable {place : RootKind → Location} {file : Location} {kind : RootKind}

/-- A root of each kind stands at its location. -/
def standing (place : RootKind → Location) : List (Pathname × RootKind) :=
  RootKind.all.map fun kind => (Pathname.ofLocation (place kind), kind)

/-- Of the kinds that stand in one place the first is found. -/
theorem find_standing (proper : ∀ kind, ∀ name ∈ place kind, IsName name) (other : RootKind) :
    (empty.fill (standing place)).roots.find?
        (fun entry => entry.1.same (Pathname.ofLocation (place other))) =
      (RootKind.all.find? fun kind => place kind = place other).map
        fun kind => (Pathname.ofLocation (place kind), kind) := by
  rw [fill_find, empty, List.nil_append, standing, List.find?_map]
  congr 2
  funext kind
  rw [Bool.eq_iff_iff, Function.comp_apply, Pathname.same_ofLocation (proper kind) (proper other),
    decide_eq_true_iff]

/-- A file below a standing root has the kind that decides about it. -/
theorem classify_standing (proper : ∀ kind, ∀ name ∈ place kind, IsName name)
    (named : ∀ name ∈ file, IsName name) (under : ∃ kind, place kind <+: file) :
    ∃ kind, (empty.fill (standing place)).classifyNormal (Pathname.ofLocation file) = some kind ∧
      kind.Decides place file := by
  let table := empty.fill (standing place)
  have distinct : table.Distinct := distinct_empty.fill _
  -- Each root above the file has an entry at its location.
  have entered (other : RootKind) (above : place other <+: file) : ∃ entry ∈ table.roots,
      (Pathname.ofLocation file).startsWith entry.1 = true ∧ depth entry.1 = (place other).length + 1 := by
    have some' : (RootKind.all.find? fun kind => place kind = place other).isSome :=
      List.find?_isSome.mpr ⟨other, other.mem_all, by simp⟩
    obtain ⟨first, found⟩ := Option.isSome_iff_exists.mp some'
    have same : place first = place other := by simpa using List.find?_some found
    have entry := find_standing proper other
    rw [found] at entry
    refine ⟨_, List.mem_of_find?_eq_some entry, ?_, ?_⟩
    · exact (Pathname.startsWith_ofLocation named (proper first)).mpr (same ▸ above)
    · rw [depth_ofLocation (proper first), same]
  obtain ⟨lowest, above⟩ := under
  obtain ⟨entry, member, starts, -⟩ := entered lowest above
  cases classified : table.classifyNormal (Pathname.ofLocation file) with
  | none =>
      rw [classifyNormal_eq_none.mp classified entry member] at starts
      cases starts
  | some kind =>
      obtain ⟨root, member, starts, deepest⟩ := classifyNormal_deepest classified
      have listed : (root, kind) ∈ standing place := by
        have found := distinct.find member
        rw [fill_find, empty, List.nil_append] at found
        exact List.mem_of_find?_eq_some found
      obtain ⟨_, -, same⟩ := List.mem_map.mp listed
      obtain ⟨rfl, rfl⟩ := Prod.mk.inj same
      refine ⟨_, rfl, ?_, ?_, ?_⟩
      · exact (Pathname.startsWith_ofLocation named (proper _)).mp starts
      · intro other above
        obtain ⟨entry, member, starts, deep⟩ := entered other above
        have bound := deepest entry member starts
        rw [deep, depth_ofLocation (proper _)] at bound
        omega
      · have found := distinct.find member
        rw [find_standing proper] at found
        obtain ⟨first, found, same⟩ := Option.map_eq_some_iff.mp found
        obtain ⟨-, rfl⟩ := Prod.mk.inj same
        exact found

end RootTable

end ScriptHost.File

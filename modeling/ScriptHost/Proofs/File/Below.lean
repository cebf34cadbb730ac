/-
This file says which root a path below a root is told to belong to, whether or not something still stands
there. A path whose directory is gone as well keeps its spelling, so a root that was spelled in another way
than it is registered loses it.
-/
import ScriptHost.Proofs.File.Deepest
import ScriptHost.Proofs.File.Walking

namespace ScriptHost.File

namespace Tree

variable {tree : Tree} {path root : Pathname} {location place : Location} {names : List String} {name : String}

/-- Relative paths start at the working directory. -/
def absolute (tree : Tree) (path : Pathname) : Pathname :=
  path.resolveAgainst (Pathname.ofLocation tree.working)

/-- The path of a location starts at the root directory. -/
theorem ofLocation_absolute (location : Location) : (Pathname.ofLocation location).isAbsolute = true := by
  simp [Pathname.ofLocation, Pathname.isAbsolute, String.toList_append]

/-- A path that was made absolute starts at the root directory. -/
theorem absolute_isAbsolute (tree : Tree) (path : Pathname) : (tree.absolute path).isAbsolute = true := by
  unfold absolute Pathname.resolveAgainst
  split
  · next absolute => exact absolute
  · next relative =>
      have filled : (Pathname.ofLocation tree.working).text ≠ "" := by simp [Pathname.ofLocation]
      rw [Pathname.join_relative (by simpa using relative), Pathname.lead]
      split
      · rw [Pathname.isAbsolute_append filled]
        exact ofLocation_absolute tree.working
      · rw [String.append_assoc, Pathname.isAbsolute_append filled]
        exact ofLocation_absolute tree.working

/-- Joining names and making a path absolute go together. -/
theorem absolute_joined (named : ∀ name ∈ names, IsName name) :
    tree.absolute (names.foldl Pathname.joinName root) = names.foldl Pathname.joinName (tree.absolute root) :=
  Pathname.joined_resolveAgainst named _

/-- The path itself or the directory that it stands in still exists. -/
def Remains (tree : Tree) (path : Pathname) : Prop :=
  (tree.resolve (tree.absolute path)).isSome ∨ ((tree.absolute path).parent.bind tree.resolve).isSome

/-- What stands is resolved, what has gone is resolved by its parent, and all else keeps its spelling. -/
theorem normalize_eq : tree.normalize path =
    (tree.resolve (tree.absolute path)).elim
      (((tree.absolute path).parent.bind tree.resolve).elim (tree.absolute path) fun place =>
        (tree.absolute path).fileName.elim (Pathname.ofLocation place) (Pathname.ofLocation place).joinName)
      Pathname.ofLocation := by
  unfold normalize absolute
  dsimp only
  generalize path.resolveAgainst (Pathname.ofLocation tree.working) = absolute
  have housed : absolute.parent.bind tree.canonical =
      (absolute.parent.bind tree.resolve).map Pathname.ofLocation := by
    cases absolute.parent <;> rfl
  rw [housed, canonical]
  cases tree.resolve absolute with
  | some location => rfl
  | none =>
      cases absolute.parent.bind tree.resolve with
      | some place => cases absolute.fileName <;> rfl
      | none => rfl

/-- Where nothing remains, the spelling stays. -/
theorem normalize_spelled (gone : ¬ tree.Remains path) : tree.normalize path = tree.absolute path := by
  rw [Remains, not_or, Option.not_isSome_iff_eq_none, Option.not_isSome_iff_eq_none] at gone
  rw [normalize_eq, gone.1, gone.2, Option.elim_none, Option.elim_none]

/-- The names stand behind what leads to the root. -/
theorem joined_segments (tree : Tree) (root : Pathname) (named : ∀ name ∈ names, IsName name)
    (filled : names ≠ []) : ∃ front idle, front ≠ [] ∧ (∀ segment ∈ idle, Idle segment) ∧
    File.segments (tree.absolute root).text = front ++ idle ∧
    File.segments (tree.absolute (names.foldl Pathname.joinName root)).text = front ++ names := by
  have some' : (tree.absolute root).text ≠ "" := by
    intro empty
    have absolute := absolute_isAbsolute tree root
    rw [Pathname.isAbsolute, empty] at absolute
    cases absolute
  obtain ⟨front, idle, behind, filled', spelled, all⟩ := Pathname.lead_segments some'
  refine ⟨front, idle, filled', all, spelled, ?_⟩
  rw [absolute_joined named, Pathname.joined_text named filled, behind,
    segments_slash (fun name member => (named name member).2.2.2) filled]

section Joined

variable (named : ∀ name ∈ names, IsName name) (filled : names ≠ [])
  (still : tree.resolve (tree.absolute root) = some location) (plain : tree.Plain location names)
include named filled still plain

/-- What is found below the root stands at its names. -/
theorem resolve_joined
    (resolved : tree.resolve (tree.absolute (names.foldl Pathname.joinName root)) = some place) :
    place = location ++ names := by
  obtain ⟨front, idle, -, all, spelled, spelled'⟩ := joined_segments tree root named filled
  rw [resolve_absolute (absolute_isAbsolute _ _)] at still resolved
  rw [spelled] at still
  rw [spelled'] at resolved
  obtain ⟨middle, before, after⟩ := walk_append still
  obtain ⟨middle', before', after'⟩ := walk_append resolved
  obtain rfl := walk_idle all after
  obtain rfl := walk_unique before before'
  exact walk_names named plain after'

/-- The parent of what stood below the root is found where it was. -/
theorem parent_joined (resolved : (tree.absolute (names.foldl Pathname.joinName root)).parent.bind tree.resolve =
    some place) : place = location ++ names.dropLast := by
  obtain ⟨front, idle, filled', all, spelled, spelled'⟩ :=
    joined_segments tree root named filled
  obtain ⟨above, name, rfl⟩ : ∃ above name, names = above ++ [name] :=
    ⟨names.dropLast, names.getLast filled, (List.dropLast_append_getLast filled).symm⟩
  obtain ⟨named', last⟩ := List.forall_mem_append.mp named
  rw [← List.append_assoc] at spelled'
  obtain ⟨kept, idle', parent, outcome, absolute', divided, all', read⟩ :=
    Pathname.parent_segments (absolute_isAbsolute _ _) spelled' (by simp [filled'])
      (last name (List.mem_singleton_self name)).busy
  rw [outcome, Option.bind_some, resolve_absolute absolute'] at resolved
  rw [resolve_absolute (absolute_isAbsolute _ _), spelled] at still
  obtain ⟨middle, before, after⟩ := walk_append still
  obtain rfl := walk_idle all after
  have reached : tree.walk stepLimit [] kept = some place := by
    rcases read with read | ⟨rfl, read⟩
    · rwa [read] at resolved
    · rw [read, ← List.singleton_append] at resolved
      obtain ⟨middle, before', after'⟩ := walk_append resolved
      rwa [walk_idle (by simp [Idle]) after']
  rw [List.dropLast_concat]
  rcases idle_behind named' all' divided with rfl | rfl
  · rw [List.append_nil] at divided
    rw [← divided] at reached
    obtain ⟨middle, before', after'⟩ := walk_append reached
    obtain rfl := walk_unique before before'
    exact walk_names named' (plain.shorter (List.prefix_append _ _)) after'
  · rw [List.append_nil] at divided
    rw [divided] at before
    obtain ⟨middle, before', after'⟩ := walk_append before
    obtain rfl := walk_idle all' after'
    rw [walk_unique reached before', List.append_nil]

omit filled plain named in
/-- The directory that the path stands in is the root. -/
theorem remains_joined (isName : IsName name) : tree.Remains (root.joinName name) := by
  have named : ∀ other ∈ [name], IsName other := by simpa using isName
  obtain ⟨front, idle, filled, -, spelled, spelled'⟩ :=
    joined_segments tree root named (List.cons_ne_nil _ _)
  obtain ⟨kept, idle', parent, outcome, absolute, divided, -, read⟩ :=
    Pathname.parent_segments (absolute_isAbsolute _ _) spelled' filled isName.busy
  refine Or.inr (Option.isSome_iff_exists.mpr ?_)
  rw [resolve_absolute (absolute_isAbsolute _ _), spelled, divided, List.append_assoc] at still
  obtain ⟨middle, before, -⟩ := walk_append still
  change ∃ place, (tree.absolute ([name].foldl Pathname.joinName root)).parent.bind tree.resolve = some place
  rw [outcome, Option.bind_some, resolve_absolute absolute]
  rcases read with read | ⟨-, read⟩
  · exact ⟨middle, by rw [read, before]⟩
  · exact ⟨[], by rw [read]; rfl⟩

omit filled plain in
/-- Of a path at most one name below its root the directory remains. -/
theorem remains_near (near : names.length ≤ 1) : tree.Remains (names.foldl Pathname.joinName root) := by
  match names, near with
  | [], _ => exact Or.inl (by rw [List.foldl_nil, still]; rfl)
  | [name], _ => exact remains_joined still (named name (List.mem_singleton_self name))

omit filled in
/-- Whatever remains of it, a path below the root goes on from where the root leads. -/
theorem normalize_joined (remains : tree.Remains (names.foldl Pathname.joinName root)) :
    (tree.normalize (names.foldl Pathname.joinName root)).same
      (Pathname.ofLocation (location ++ names)) = true := by
  have proper := resolve_proper (absolute_isAbsolute tree root) still
  by_cases filled : names = []
  · subst filled
    rw [List.foldl_nil, normalize_eq, still, Option.elim_some, List.append_nil]
    exact Pathname.same_iff.mpr rfl
  · rw [normalize_eq]
    cases found : tree.resolve (tree.absolute (names.foldl Pathname.joinName root)) with
    | some place =>
        rw [resolve_joined named filled still plain found]
        exact Pathname.same_iff.mpr rfl
    | none =>
        obtain ⟨place, housed⟩ : ∃ place,
            (tree.absolute (names.foldl Pathname.joinName root)).parent.bind tree.resolve = some place := by
          rw [Remains, found] at remains
          exact Option.isSome_iff_exists.mp (remains.resolve_left (by simp))
        have named' : ∀ name ∈ names.dropLast, IsName name :=
          fun name member => named name (List.dropLast_subset _ member)
        have called := Pathname.fileName_joined (tree.absolute root) named filled
        rw [← absolute_joined named] at called
        rw [housed, called, parent_joined named filled still plain housed, Option.elim_none, Option.elim_some,
          Option.elim_some]
        rw [Pathname.same_iff, Pathname.components_joinName _ (named _ (List.getLast_mem filled)),
          Pathname.components_ofLocation (List.forall_mem_append.mpr ⟨proper, named'⟩),
          Pathname.components_ofLocation (List.forall_mem_append.mpr ⟨proper, named⟩)]
        conv_rhs => rw [← List.dropLast_append_getLast filled]
        simp

end Joined

end Tree

namespace RootTable

variable {created tree : Tree} {root path : Pathname} {kind : RootKind} {location : Location}
  {names : List String} {entrances : List Entrance}

/-- Whatever entered stays in the table. -/
theorem gather_holds {entrance : Entrance} (member : entrance ∈ entrances) :
    ∃ entry ∈ (empty.gather entrances).roots, entry.1.same entrance.normal.1 = true := by
  have found := gather_find entrances entrance.normal.1
  have some' : ((entrances.map Entrance.normal).find? fun entry => entry.1.same entrance.normal.1).isSome :=
    List.find?_isSome.mpr ⟨_, List.mem_map_of_mem member, Pathname.same_iff.mpr rfl⟩
  obtain ⟨entry, first⟩ := Option.isSome_iff_exists.mp some'
  rw [first] at found
  exact ⟨entry, List.mem_of_find?_eq_some found, by simpa using List.find?_some found⟩

/-- A path below a place that was entered belongs to that place or to a deeper root. -/
theorem deepest_below {place : Pathname}
    (entered : ∃ entry ∈ (empty.gather entrances).roots, entry.1.same place = true)
    (below : path.startsWith place = true) :
    ∃ entry, (empty.gather entrances).Deepest path entry ∧ entry.1.startsWith place = true ∧
      (empty.gather entrances).classifyNormal path = some entry.2 := by
  have distinct := gather_distinct entrances
  obtain ⟨former, member, same⟩ := entered
  rw [Pathname.same_iff] at same
  rw [Pathname.startsWith_iff] at below
  have above : path.startsWith former.1 = true := by rwa [Pathname.startsWith_iff, same]
  cases classified : (empty.gather entrances).classifyNormal path with
  | none => exact absurd above (by simp [classifyNormal_eq_none.mp classified former member])
  | some kind =>
      obtain ⟨root, deepest⟩ := distinct.deepest classified
      have deep : depth former.1 ≤ depth root := by
        by_cases first : former = (root, kind)
        · exact Nat.le_of_eq (by rw [first])
        · exact Nat.le_of_lt (deepest.others former member above first)
      refine ⟨(root, kind), deepest, ?_, rfl⟩
      rw [Pathname.startsWith_iff, ← same]
      exact List.prefix_of_prefix_length_le (Pathname.startsWith_iff.mp above)
        (Pathname.startsWith_iff.mp deepest.above) deep

/-- A path below a root belongs to that root or to a deeper one, unless its directory is gone as well. The
table then sees its spelling, which tells the root where the root is spelled as it was entered. -/
theorem classify_below (entered : ⟨created, root, kind⟩ ∈ entrances)
    (stood : created.resolve (created.absolute root) = some location)
    (still : tree.resolve (tree.absolute root) = some location)
    (named : ∀ name ∈ names, IsName name) (plain : tree.Plain location names) :
    let table := empty.gather entrances
    let path := names.foldl Pathname.joinName root
    (tree.Remains path ∨ (tree.absolute root).same (Pathname.ofLocation location) = true →
      ∃ entry, table.Deepest (tree.normalize path) entry ∧
        entry.1.startsWith (Pathname.ofLocation location) = true ∧
        table.classify tree path = some entry.2) ∧
    (names.length ≤ 1 → tree.Remains path) ∧
    (¬ tree.Remains path → tree.normalize path = names.foldl Pathname.joinName (tree.absolute root) ∧
      ∀ kind, table.classify tree path = some kind ↔
        ∃ root, table.Deepest (tree.normalize path) (root, kind)) := by
  intro table path
  have proper := Tree.resolve_proper (Tree.absolute_isAbsolute tree root) still
  have spelled (gone : ¬ tree.Remains path) :
      tree.normalize path = names.foldl Pathname.joinName (tree.absolute root) :=
    (Tree.normalize_spelled gone).trans (Tree.absolute_joined named)
  refine ⟨fun kept => ?_, Tree.remains_near named still,
    fun gone => ⟨spelled gone, fun kind => (gather_distinct entrances).classifyNormal_iff⟩⟩
  apply deepest_below
  · have normal : created.normalize root = Pathname.ofLocation location := by
      rw [Tree.normalize_eq, stood, Option.elim_some]
    have held := gather_holds entered
    dsimp only [Entrance.normal] at held
    rwa [normal] at held
  · rw [Pathname.startsWith_iff]
    by_cases remains : tree.Remains path
    · have reached := Tree.normalize_joined named still plain remains
      rw [Pathname.same_iff] at reached
      rw [reached, Pathname.components_ofLocation (List.forall_mem_append.mpr ⟨proper, named⟩),
        Pathname.components_ofLocation proper, List.map_append, ← List.cons_append]
      exact List.prefix_append _ _
    · have same := Pathname.same_iff.mp (kept.resolve_left remains)
      rw [spelled remains, Pathname.components_names _ named, same]
      exact List.prefix_append _ _

/-- The scripts are watched through a link. -/
def linked : Tree where
  entries := [(["real"], .directory true), (["real", "deep"], .directory true),
    (["real", "deep", "a.rhai"], .file []), (["link"], .link ⟨"real"⟩)]
  working := []

/-- A file below a linked root has gone, and it is told to belong to the root as long as its directory remains. -/
theorem classify_below_linked :
    let table := empty.gather [⟨linked, ⟨"link"⟩, .scripts⟩]
    let later := linked.remove ["real", "deep", "a.rhai"]
    let path := ["deep", "a.rhai"].foldl Pathname.joinName ⟨"link"⟩
    later.resolve (later.absolute path) = none ∧ later.Remains path ∧
      ∃ entry, table.Deepest (later.normalize path) entry ∧
        entry.1.startsWith (Pathname.ofLocation ["real"]) = true ∧ table.classify later path = some entry.2 := by
  intro table later path
  have remains : later.Remains path := by
    unfold Tree.Remains
    decide +kernel
  refine ⟨by decide +kernel, remains, ?_⟩
  exact (classify_below (List.mem_singleton_self _) (by decide +kernel) (by decide +kernel) (by decide)
    (by decide +kernel)).1 (Or.inl remains)

/-- A directory goes with the file in it, and the path of the file belongs to no root any more. -/
theorem subtree_unattributed :
    let entered := empty.insert linked ⟨"link"⟩ .scripts
    let later := linked.remove ["real", "deep"]
    let names := ["deep", "a.rhai"]
    let path := names.foldl Pathname.joinName ⟨"link"⟩
    entered.2 = true ∧ linked.resolve (linked.absolute ⟨"link"⟩) = some ["real"] ∧
      later.resolve (later.absolute ⟨"link"⟩) = some ["real"] ∧ (∀ name ∈ names, IsName name) ∧
      later.Plain ["real"] names ∧ entered.1.classify linked path = some .scripts ∧
      entered.1.classify later path = none := by
  decide +kernel

end RootTable

end ScriptHost.File

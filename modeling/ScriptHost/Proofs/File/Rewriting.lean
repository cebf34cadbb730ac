/-
This file says what new content of a file leaves as it was: where paths lead to, what is listed, and
everything but that file.
-/
import ScriptHost.File.Root
import ScriptHost.Proofs.Script.Sources

namespace ScriptHost

namespace File.Tree

variable {tree : Tree} {file location : Location} {old new : List UInt8} {node : Node}

/-- The root directory is no file. -/
theorem filled_of_file (held : tree.node? file = some (.file old)) : file ≠ [] := by
  rintro rfl
  simp [node?] at held

/-- A node is put in one place and no other. -/
theorem put_node (filled : location ≠ []) (place : Location) :
    (tree.put location node).node? place = if place = location then some node else tree.node? place := by
  unfold node? put
  by_cases top : place = []
  · subst top
    rw [if_pos rfl, if_neg (Ne.symm filled), if_pos rfl]
  · rw [if_neg top, if_neg top, List.find?_append, List.find?_filter]
    by_cases same : place = location
    · subst same
      rw [if_pos rfl, List.find?_eq_none.mpr (by simp)]
      simp
    · rw [if_neg same, List.find?_singleton, if_neg (by simpa using Ne.symm same), Option.or_none]
      congr 2
      funext entry
      by_cases here : entry.1 = place
      · simp [here, same]
      · simp [here]

/-- The directories that lead to an entry need not be made. -/
theorem makeDirectories_housed {rest : Location}
    (housed : ∀ names, names ≠ [] → names <+: rest → tree.isDirectory (location ++ names)) :
    tree.makeDirectories location rest = tree := by
  induction rest generalizing location with
  | nil => rfl
  | cons name rest ih =>
      obtain ⟨listable, found⟩ := isDirectory_iff.mp (housed [name] (by simp) (by simp))
      rw [makeDirectories]
      simp only [found]
      apply ih
      intro names _ above
      rw [List.append_assoc]
      exact housed (name :: names) (by simp) (List.cons_prefix_cons.mpr ⟨rfl, above⟩)

/-- New content goes into the place of the file. -/
theorem writeFile_held (proper : tree.Proper) (held : tree.node? file = some (.file old)) :
    tree.writeFile file new = tree.put file (.file new) := by
  rw [writeFile, makeDirectories_housed]
  intro names _ above
  obtain ⟨rest, same⟩ := above
  have whole : names ++ (rest ++ [file.getLast (filled_of_file held)]) = file := by
    rw [← List.append_assoc, same, List.dropLast_append_getLast]
  rw [← whole] at held
  rw [List.nil_append]
  exact isDirectory_above proper (by simp) held

/-- The same file has new content. -/
theorem writeFile_node (proper : tree.Proper) (held : tree.node? file = some (.file old))
    (new : List UInt8) (place : Location) : (tree.writeFile file new).node? place =
      if place = file then some (.file new) else tree.node? place := by
  rw [writeFile_held proper held, put_node (filled_of_file held)]

/-- New content makes no directory. -/
theorem writeFile_isDirectory (proper : tree.Proper) (held : tree.node? file = some (.file old))
    (new : List UInt8) (place : Location) : (tree.writeFile file new).isDirectory place = tree.isDirectory place := by
  rw [Bool.eq_iff_iff, isDirectory_iff, isDirectory_iff, writeFile_node proper held]
  split
  · next same =>
      subst same
      simp [held]
  · rfl

/-- A proper tree stays proper when a file has new content. -/
theorem writeFile_proper (proper : tree.Proper) (held : tree.node? file = some (.file old))
    (new : List UInt8) :
    (tree.writeFile file new).Proper := by
  have houses := writeFile_isDirectory proper held new
  have entry := (node_iff proper (filled_of_file held)).mp held
  have entries : (tree.writeFile file new).entries =
      (tree.entries.filter fun entry => entry.1 != file) ++ [(file, .file new)] := by
    rw [writeFile_held proper held, put]
  have placed : ∀ entry ∈ (tree.writeFile file new).entries, ∃ former ∈ tree.entries, former.1 = entry.1 := by
    intro changed member
    rw [entries, List.mem_append, List.mem_filter, List.mem_singleton] at member
    rcases member with ⟨member, -⟩ | rfl
    · exact ⟨changed, member, rfl⟩
    · exact ⟨_, entry, rfl⟩
  constructor
  · rw [entries, List.map_append, List.nodup_append]
    refine ⟨proper.distinct.sublist (List.filter_sublist.map _), by simp, ?_⟩
    rintro place member _ last rfl
    obtain ⟨kept, chosen, same⟩ := List.mem_map.mp member
    have apart := (List.mem_filter.mp chosen).2
    simp only [List.map_cons, List.map_nil, List.mem_singleton] at last
    simp [same, last] at apart
  · intro changed member
    obtain ⟨former, member, same⟩ := placed changed member
    exact same ▸ proper.filled former member
  · intro changed member
    obtain ⟨former, member, same⟩ := placed changed member
    exact same ▸ proper.named former member
  · intro changed member
    obtain ⟨former, member, same⟩ := placed changed member
    rw [houses]
    exact same ▸ proper.housed former member
  · rw [writeFile_held proper held]
    exact proper.working

/-- The working directory stays. -/
theorem writeFile_working (proper : tree.Proper) (held : tree.node? file = some (.file old)) :
    (tree.writeFile file new).working = tree.working := by
  rw [writeFile_held proper held, put]

/-- Paths lead where they led before. -/
theorem writeFile_resolve (proper : tree.Proper) (held : tree.node? file = some (.file old))
    (path : Pathname) : (tree.writeFile file new).resolve path = tree.resolve path := by
  have courses : ∀ place, course ((tree.writeFile file new).node? place) = course (tree.node? place) := by
    intro place
    rw [writeFile_node proper held]
    split
    · next same =>
        subst same
        rw [held]
        rfl
    · rfl
  have walks := walk_congr (writeFile_isDirectory proper held new) courses
  unfold resolve
  rw [writeFile_working proper held]
  split
  · rfl
  · exact walks _ _ _

/-- Normal paths stay. -/
theorem writeFile_normalize (proper : tree.Proper) (held : tree.node? file = some (.file old))
    (new : List UInt8) (path : Pathname) : (tree.writeFile file new).normalize path = tree.normalize path := by
  have canonical' : (tree.writeFile file new).canonical = tree.canonical := by
    funext path
    rw [canonical, writeFile_resolve proper held, canonical]
  unfold normalize
  rw [writeFile_working proper held, canonical']

/-- What could be listed still can. -/
theorem writeFile_listable (proper : tree.Proper) (held : tree.node? file = some (.file old))
    (place : Location) : (tree.writeFile file new).listable place = tree.listable place := by
  have same : ∀ place listable, (tree.writeFile file new).node? place = some (.directory listable) ↔
      tree.node? place = some (.directory listable) := by
    intro place listable
    rw [writeFile_node proper held]
    split
    · next same =>
        subst same
        simp [held]
    · rfl
  rw [Bool.eq_iff_iff, listable_iff (writeFile_proper proper held new), listable_iff proper]
  simp only [ne_eq, same]

/-- What can be listed has a name for each step. -/
theorem names_of_listable (proper : tree.Proper) (listed : tree.listable location = true) :
    ∀ name ∈ location, IsName name := by
  by_cases top : location = []
  · simp [top]
  · have entry := (node_iff proper top).mp ((listable_iff proper).mp listed).1
    exact proper.named _ entry

end File.Tree

namespace Script.Source

open File (Location Pathname)

variable {tree : File.Tree} {root : Pathname} {extension : String} {file location : Location}
  {old new : List UInt8}

/-- A file that does not stand below the root makes no difference. -/
theorem discover_writeFile (proper : tree.Proper) (held : tree.node? file = some (.file old))
    (resolved : tree.resolve root = some location) (apart : ¬ location <+: file) :
    discover? (tree.writeFile file new) root extension = discover? tree root extension := by
  have scripts : ∀ source, IsScript (tree.writeFile file new) location extension source ↔
      IsScript tree location extension source := by
    intro source
    have node := File.Tree.writeFile_node proper held new (location ++ source.names)
    rw [if_neg fun same => apart ⟨source.names, same⟩] at node
    constructor <;> rintro ⟨below, read, named⟩
    · exact ⟨below, node ▸ read, named⟩
    · exact ⟨below, node.trans read, named⟩
  rw [Option.ext_iff]
  intro sources
  simp only [← Option.mem_def]
  rw [Option.mem_def, Option.mem_def, discover_eq_some proper,
    discover_eq_some (File.Tree.writeFile_proper proper held new)]
  simp only [File.Tree.writeFile_resolve proper held, File.Tree.writeFile_listable proper held, resolved,
    Option.some.injEq, exists_eq_left', scripts]

/-- A root that could be read still can. -/
theorem discover_writeFile_eq_none (proper : tree.Proper) (held : tree.node? file = some (.file old)) :
    discover? (tree.writeFile file new) root extension = none ↔ discover? tree root extension = none := by
  simp only [discover_eq_none, File.Tree.writeFile_resolve proper held,
    File.Tree.writeFile_listable proper held]

end Script.Source

end ScriptHost

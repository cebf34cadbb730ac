/-
This file says which files a tree holds below a location. Every walk through the directories comes upon
just these, in whatever order each directory lists its entries.
-/
import Mathlib.Data.List.Induction
import Mathlib.Data.List.Nodup
import ScriptHost.File.Tree
import ScriptHost.Proofs.File.Spelling

namespace ScriptHost.File.Tree

/-- Each entry stands once, under a name, in a directory. -/
structure Proper (tree : Tree) : Prop where
  distinct : (tree.entries.map Prod.fst).Nodup
  filled : ∀ entry ∈ tree.entries, entry.1 ≠ []
  named : ∀ entry ∈ tree.entries, ∀ name ∈ entry.1, IsName name
  housed : ∀ entry ∈ tree.entries, tree.isDirectory entry.1.dropLast
  working : ∀ name ∈ tree.working, IsName name

/-- A listable directory lists each of its entries once, in any order. -/
structure Lists (tree : Tree) (here : Location) (names : List String) : Prop where
  listable : tree.node? here = some (.directory true)
  once : names.Nodup
  all : ∀ name, name ∈ names ↔ (tree.node? (here ++ [name])).isSome

/-- A walk takes entries as they are listed and goes through a directory before it goes on; links are
not followed. -/
inductive Walk (tree : Tree) : Location → List String → List (Location × List UInt8) → Prop
  | done (here : Location) : Walk tree here [] []
  | file {here : Location} {name : String} {rest : List String} {found : List (Location × List UInt8)}
      {content : List UInt8} (here? : tree.node? (here ++ [name]) = some (.file content))
      (later : Walk tree here rest found) :
      Walk tree here (name :: rest) ((here ++ [name], content) :: found)
  | link {here : Location} {name : String} {rest : List String} {found : List (Location × List UInt8)}
      {target : Pathname} (here? : tree.node? (here ++ [name]) = some (.link target))
      (later : Walk tree here rest found) : Walk tree here (name :: rest) found
  | directory {here : Location} {name : String} {rest names : List String}
      {inner found : List (Location × List UInt8)} (lists : tree.Lists (here ++ [name]) names)
      (inside : Walk tree (here ++ [name]) names inner) (later : Walk tree here rest found) :
      Walk tree here (name :: rest) (inner ++ found)

variable {tree other : Tree} {here location : Location} {node : Node}

/-- Among distinct places each one is found with its own node. -/
theorem find_once {entries : List (Location × Node)} (distinct : (entries.map Prod.fst).Nodup) :
    (entries.find? fun entry => entry.1 == location).map Prod.snd = some node ↔
      (location, node) ∈ entries := by
  induction entries with
  | nil => simp
  | cons entry rest ih =>
      obtain ⟨place, held⟩ := entry
      obtain ⟨apart, later⟩ := List.nodup_cons.mp distinct
      by_cases same : place = location
      · subst same
        have gone : (place, node) ∉ rest := fun member => apart (List.mem_map.mpr ⟨_, member, rfl⟩)
        simp [gone, eq_comm]
      · simp [same, Ne.symm same, ih later]

/-- In a proper tree a place has the node of its entry. -/
theorem node_iff (proper : tree.Proper) (filled : location ≠ []) :
    tree.node? location = some node ↔ (location, node) ∈ tree.entries := by
  rw [node?, if_neg filled, find_once proper.distinct]

/-- A directory is a place with the node of one. -/
theorem isDirectory_iff : tree.isDirectory location = true ↔
    ∃ listable, tree.node? location = some (.directory listable) := by
  unfold isDirectory
  split
  · next listable same => simp [same]
  · next other => simpa using fun listable same => other listable same

/-- Whatever stands below a location makes it a directory. -/
theorem isDirectory_above (proper : tree.Proper) {below : List String} (filled : below ≠ [])
    (held : tree.node? (here ++ below) = some node) : tree.isDirectory here := by
  induction below using List.reverseRecOn generalizing node with
  | nil => exact absurd rfl filled
  | append_singleton above name ih =>
      have house := proper.housed _ ((node_iff proper (by simp)).mp held)
      rw [← List.append_assoc, List.dropLast_concat] at house
      by_cases empty : above = []
      · rwa [empty, List.append_nil] at house
      · obtain ⟨listable, found⟩ := isDirectory_iff.mp house
        exact ih empty found

/-- What is below a location has its names and more. -/
theorem isBelow_iff {place : Location} :
    isBelow location place = true ↔ ∃ names, names ≠ [] ∧ place = location ++ names := by
  unfold isBelow
  rw [Bool.and_eq_true, List.isPrefixOf_iff_prefix, decide_eq_true_iff]
  constructor
  · rintro ⟨⟨names, rfl⟩, longer⟩
    refine ⟨names, ?_, rfl⟩
    rintro rfl
    simp at longer
  · rintro ⟨names, filled, rfl⟩
    have longer := List.length_pos_iff.mpr filled
    exact ⟨List.prefix_append _ _, by simpa using longer⟩

/-- What a location tells of an entry. -/
theorem told_file {place : Location} {names : List String} {content : List UInt8} :
    (match node with
      | .file content => if isBelow location place then some (place.drop location.length, content) else none
      | _ => none) = some (names, content) ↔
      node = .file content ∧ names ≠ [] ∧ place = location ++ names := by
  constructor
  · intro told
    cases node with
    | file held =>
        dsimp only at told
        split at told
        · next below =>
            obtain ⟨more, filled, rfl⟩ := isBelow_iff.mp below
            rw [List.drop_left] at told
            obtain ⟨rfl, rfl⟩ := Prod.mk.inj (Option.some.inj told)
            exact ⟨rfl, filled, rfl⟩
        · cases told
    | directory | link => cases told
  · rintro ⟨rfl, filled, rfl⟩
    have below : isBelow location (location ++ names) = true := isBelow_iff.mpr ⟨names, filled, rfl⟩
    simp [below]

/-- The files below a location are the places with the node of a file. -/
theorem mem_filesBelow (proper : tree.Proper) {names : List String} {content : List UInt8} :
    (names, content) ∈ tree.filesBelow location ↔
      names ≠ [] ∧ tree.node? (location ++ names) = some (.file content) := by
  unfold filesBelow
  rw [List.mem_filterMap]
  constructor
  · rintro ⟨⟨place, node⟩, entry, told⟩
    obtain ⟨rfl, filled, rfl⟩ := told_file.mp told
    exact ⟨filled, (node_iff proper (by simp [filled])).mpr entry⟩
  · rintro ⟨filled, held⟩
    exact ⟨_, (node_iff proper (by simp [filled])).mp held, told_file.mpr ⟨rfl, filled, rfl⟩⟩

/-- No file is listed twice. -/
theorem filesBelow_distinct (proper : tree.Proper) (location : Location) :
    ((tree.filesBelow location).map Prod.fst).Nodup := by
  have apart := List.pairwise_map.mp proper.distinct
  rw [List.Nodup, List.pairwise_map, filesBelow, List.pairwise_filterMap]
  apply apart.imp
  rintro ⟨place, node⟩ ⟨place', node'⟩ different ⟨names, content⟩ told ⟨names', content'⟩ told' same
  obtain ⟨-, -, rfl⟩ := told_file.mp told
  obtain ⟨-, -, rfl⟩ := told_file.mp told'
  exact different (congrArg (location ++ ·) same)

/-- A location can be listed exactly if all directories there can. -/
theorem listable_iff (proper : tree.Proper) : tree.listable location = true ↔
    tree.node? location = some (.directory true) ∧
      ∀ names, tree.node? (location ++ names) ≠ some (.directory false) := by
  unfold listable
  rw [Bool.and_eq_true, List.all_eq_true]
  constructor
  · rintro ⟨here, all⟩
    have same : tree.node? location = some (.directory true) := by
      split at here
      · next listable same => rw [same, here]
      · cases here
    refine ⟨same, fun names held => ?_⟩
    by_cases filled : names = []
    · rw [filled, List.append_nil, same] at held
      cases held
    · have entry := (node_iff proper (by simp [filled])).mp held
      have below : isBelow location (location ++ names) = true := isBelow_iff.mpr ⟨names, filled, rfl⟩
      have listed := all _ entry
      simp [below, isListable] at listed
  · rintro ⟨same, none'⟩
    refine ⟨by rw [same], ?_⟩
    rintro ⟨place, node⟩ entry
    dsimp only
    rw [Bool.or_eq_true, Bool.not_eq_true']
    by_cases below : isBelow location place = true
    · obtain ⟨names, filled, rfl⟩ := isBelow_iff.mp below
      right
      have held := (node_iff proper (by simp [filled])).mpr entry
      rcases node with content | listable | target
      · rfl
      · cases listable with
        | true => rfl
        | false => exact absurd held (none' names)
      · rfl
    · exact Or.inl (by simpa using below)

/-- The first step towards whatever stands there leads somewhere. -/
theorem present_above (proper : tree.Proper) {name : String} {more : List String}
    (held : tree.node? (here ++ name :: more) = some node) : (tree.node? (here ++ [name])).isSome := by
  by_cases alone : more = []
  · rw [← alone, held]
    rfl
  · rw [← List.singleton_append, ← List.append_assoc] at held
    obtain ⟨listable, same⟩ := isDirectory_iff.mp (isDirectory_above proper alone held)
    rw [same]
    rfl

/-- Nothing stands below what is no directory. -/
theorem nothing_below (proper : tree.Proper) {name : String} {more : List String} {held : Node}
    (same : tree.node? (here ++ [name]) = some node) (plain : ∀ listable, node ≠ .directory listable)
    (below : tree.node? (here ++ name :: more) = some held) : more = [] ∧ node = held := by
  by_cases alone : more = []
  · subst alone
    exact ⟨rfl, Option.some.inj (same.symm.trans below)⟩
  · rw [← List.singleton_append, ← List.append_assoc] at below
    obtain ⟨listable, other⟩ := isDirectory_iff.mp (isDirectory_above proper alone below)
    exact absurd (Option.some.inj (same.symm.trans other)) (plain listable)

/-- A walk finds the files below the entries that it goes through, each once. -/
theorem Walk.finds (proper : tree.Proper) {names : List String} {found : List (Location × List UInt8)}
    (walk : tree.Walk here names found) (once : names.Nodup) :
    (∀ place content, (place, content) ∈ found ↔ ∃ name ∈ names, ∃ more,
      place = here ++ name :: more ∧ tree.node? place = some (.file content)) ∧
      (found.map Prod.fst).Nodup := by
  -- The induction follows the walk. A place tells its first name, so what is found below one name is found below no
  -- other.
  induction walk with
  | done here => simp
  | @file here name rest found content here? later ih =>
      obtain ⟨apart, once⟩ := List.nodup_cons.mp once
      obtain ⟨mem, distinct⟩ := ih once
      refine ⟨fun place held => ?_, ?_⟩
      · rw [List.mem_cons, mem]
        constructor
        · rintro (same | ⟨other, member, more, same⟩)
          · obtain ⟨rfl, rfl⟩ := Prod.mk.inj same
            exact ⟨name, List.mem_cons_self, [], rfl, here?⟩
          · exact ⟨other, List.mem_cons_of_mem _ member, more, same⟩
        · rintro ⟨other, member, more, rfl, same⟩
          rcases List.mem_cons.mp member with rfl | member
          · obtain ⟨rfl, read⟩ := nothing_below proper here? (by simp) same
            cases read
            exact Or.inl rfl
          · exact Or.inr ⟨other, member, more, rfl, same⟩
      · rw [List.map_cons, List.nodup_cons]
        refine ⟨?_, distinct⟩
        intro member
        obtain ⟨⟨place, held⟩, told, same⟩ := List.mem_map.mp member
        obtain ⟨other, listed, more, rfl, -⟩ := (mem place held).mp told
        obtain ⟨rfl, -⟩ := List.cons.inj (List.append_cancel_left same)
        exact apart listed
  | @link here name rest found target here? later ih =>
      obtain ⟨apart, once⟩ := List.nodup_cons.mp once
      obtain ⟨mem, distinct⟩ := ih once
      refine ⟨fun place held => ?_, distinct⟩
      rw [mem]
      constructor
      · rintro ⟨other, member, more, same⟩
        exact ⟨other, List.mem_cons_of_mem _ member, more, same⟩
      · rintro ⟨other, member, more, rfl, same⟩
        rcases List.mem_cons.mp member with rfl | member
        · obtain ⟨-, read⟩ := nothing_below proper here? (by simp) same
          cases read
        · exact ⟨other, member, more, rfl, same⟩
  | @directory here name rest names inner found lists inside later ihInside ihLater =>
      obtain ⟨apart, once⟩ := List.nodup_cons.mp once
      obtain ⟨mem, distinct⟩ := ihLater once
      obtain ⟨memInner, distinctInner⟩ := ihInside lists.once
      refine ⟨fun place held => ?_, ?_⟩
      · rw [List.mem_append, memInner, mem]
        constructor
        · rintro (⟨next, member, more, rfl, same⟩ | ⟨other, member, more, same⟩)
          · exact ⟨name, List.mem_cons_self, next :: more, by simp, same⟩
          · exact ⟨other, List.mem_cons_of_mem _ member, more, same⟩
        · rintro ⟨other, member, more, rfl, same⟩
          rcases List.mem_cons.mp member with rfl | member
          · cases more with
            | nil =>
                rw [lists.listable] at same
                cases same
            | cons next more =>
                have step := List.append_assoc here [other] (next :: more)
                have present := present_above proper ((congrArg tree.node? step).trans same)
                exact Or.inl ⟨next, (lists.all next).mpr present, more, by simp, same⟩
          · exact Or.inr ⟨other, member, more, rfl, same⟩
      · rw [List.map_append, List.nodup_append]
        refine ⟨distinctInner, distinct, ?_⟩
        rintro place left _ right rfl
        obtain ⟨⟨_, held⟩, told, rfl⟩ := List.mem_map.mp left
        obtain ⟨⟨_, held'⟩, told', same⟩ := List.mem_map.mp right
        obtain ⟨next, -, more, rfl, -⟩ := (memInner _ held).mp told
        obtain ⟨other, listed, more', rfl, -⟩ := (mem _ held').mp told'
        simp only [List.append_assoc, List.singleton_append] at same
        obtain ⟨rfl, -⟩ := List.cons.inj (List.append_cancel_left same)
        exact apart listed

/-- Whoever walks through a whole directory finds the files below it. -/
theorem Walk.files (proper : tree.Proper) {names : List String} {found : List (Location × List UInt8)}
    (lists : tree.Lists here names) (walk : tree.Walk here names found) :
    found.Perm ((tree.filesBelow here).map fun file => (here ++ file.1, file.2)) := by
  obtain ⟨mem, distinct⟩ := walk.finds proper lists.once
  rw [List.perm_ext_iff_of_nodup distinct.of_map]
  · rintro ⟨place, content⟩
    rw [mem, List.mem_map]
    constructor
    · rintro ⟨name, -, more, rfl, same⟩
      exact ⟨(name :: more, content), (mem_filesBelow proper).mpr ⟨by simp, same⟩, rfl⟩
    · rintro ⟨⟨below, held⟩, member, same⟩
      obtain ⟨rfl, rfl⟩ := Prod.mk.inj same
      obtain ⟨filled, file⟩ := (mem_filesBelow proper).mp member
      obtain ⟨name, more, rfl⟩ := List.exists_cons_of_ne_nil filled
      exact ⟨name, (lists.all name).mpr (present_above proper file), more, rfl, file⟩
  · apply List.Nodup.of_map Prod.fst
    rw [List.map_map]
    have injective : Function.Injective (here ++ ·) := fun _ _ same => List.append_cancel_left same
    have names := (filesBelow_distinct proper here).map injective
    rwa [List.map_map] at names

end ScriptHost.File.Tree

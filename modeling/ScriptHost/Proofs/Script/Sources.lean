/-
This file says which sources a root has and what compiling them afresh comes to. The order in which
directories list their entries makes no difference.
-/
import ScriptHost.Proofs.File.Listing
import ScriptHost.Script.Library

namespace ScriptHost

namespace File.Tree

/-- Two trees that hold the same nodes may still list them in different orders. -/
structure Alike (tree other : Tree) : Prop where
  working : other.working = tree.working
  node : ∀ location, other.node? location = tree.node? location

/-- Trees that are alike have the same directories. -/
theorem Alike.isDirectory {tree other : Tree} (alike : tree.Alike other) (location : Location) :
    other.isDirectory location = tree.isDirectory location := by
  rw [Bool.eq_iff_iff, isDirectory_iff, isDirectory_iff, alike.node]

/-- A path goes through directories and follows links; it does not look into files. -/
def course : Option Node → Option (Option Pathname)
  | none => none
  | some (.link target) => some (some target)
  | some _ => some none

/-- Walks go the same way where directories and links are the same. -/
theorem walk_congr {tree other : Tree}
    (directories : ∀ location, other.isDirectory location = tree.isDirectory location)
    (courses : ∀ location, course (other.node? location) = course (tree.node? location))
    (fuel : Nat) (location : Location) (rest : List String) :
    other.walk fuel location rest = tree.walk fuel location rest := by
  induction fuel generalizing location rest with
  | zero => cases rest <;> rfl
  | succ fuel ih =>
      cases rest with
      | nil => rfl
      | cons segment rest =>
          have same := courses (location ++ [segment])
          rw [walk, walk, directories]
          split
          · rfl
          · split
            · exact ih location rest
            · split
              · exact ih location.dropLast rest
              · revert same
                rcases other.node? (location ++ [segment]) with _ | _ | _ | target <;>
                  rcases tree.node? (location ++ [segment]) with _ | _ | _ | target' <;>
                  intro same <;> cases same
                all_goals first | rfl | exact ih _ _

/-- Paths lead to the same place in trees that are alike. -/
theorem Alike.resolve {tree other : Tree} (alike : tree.Alike other) (path : Pathname) :
    other.resolve path = tree.resolve path := by
  have walks := walk_congr alike.isDirectory fun location => by rw [alike.node]
  unfold File.Tree.resolve
  rw [alike.working]
  split
  · rfl
  · exact walks _ _ _

end File.Tree

namespace Script

open File (Location Pathname IsName)

namespace Source

/-- The order of names is the usual one. -/
theorem comesBefore_iff {left right : List String} :
    comesBefore left right = true ↔ left = right ∨ left < right := by
  induction left generalizing right with
  | nil => cases right <;> simp [comesBefore]
  | cons first rest ih =>
      cases right with
      | nil => simp [comesBefore]
      | cons other others =>
          rw [comesBefore, List.cons_eq_cons, List.cons_lt_cons_iff]
          by_cases same : first = other
          · subst same
            simp [ih]
          · simp [same]

/-- Each source stands once, and the names decide which of two comes first. -/
def Ordered (sources : List Source) : Prop :=
  sources.Pairwise fun left right => left.names < right.names

/-- Ordered sources are distinct. -/
theorem Ordered.distinct {sources : List Source} (ordered : Ordered sources) : (sources.map names).Nodup := by
  rw [List.Nodup, List.pairwise_map]
  apply List.Pairwise.imp ?_ ordered
  rintro left right before same
  rw [same] at before
  exact Std.lt_irrefl before

/-- Sorting puts distinct sources in order. -/
theorem sort_ordered {sources : List Source} (distinct : (sources.map names).Nodup) :
    Ordered (sort sources) := by
  have sorted : (sort sources).Pairwise fun left right => comesBefore left.names right.names = true := by
    apply List.pairwise_mergeSort
    · intro first second third before later
      rw [comesBefore_iff] at before later ⊢
      obtain same | before := before
      · rwa [same]
      · obtain same | later := later
        · exact .inr (same ▸ before)
        · exact .inr (Std.lt_trans before later)
    · intro left right
      rw [Bool.or_eq_true, comesBefore_iff, comesBefore_iff]
      obtain before | same | after := Std.lt_trichotomy left.names right.names
      · exact .inl (.inr before)
      · exact .inl (.inl same)
      · exact .inr (.inr after)
  have apart : (sort sources).Pairwise fun left right => left.names ≠ right.names := by
    have permuted : (sort sources).Perm sources := List.mergeSort_perm sources _
    exact List.pairwise_map.mp ((permuted.map Source.names).nodup_iff.mpr distinct)
  apply (sorted.and apart).imp
  rintro left right ⟨before, different⟩
  exact (comesBefore_iff.mp before).resolve_left different

/-- There is one way to put sources in order. -/
theorem eq_of_ordered {left right : List Source} (ordered : Ordered left) (ordered' : Ordered right)
    (same : ∀ source, source ∈ left ↔ source ∈ right) : left = right := by
  have permuted := (List.perm_ext_iff_of_nodup ordered.distinct.of_map ordered'.distinct.of_map).mpr same
  refine permuted.eq_of_pairwise ?_ ordered ordered'
  intro source other _ _ before after
  exact absurd (Std.lt_trans before after) (Std.lt_irrefl)

/-- Whoever knows the sources in order knows what sorting them comes to. -/
theorem sort_eq {sources sorted : List Source} (permuted : sources.Perm sorted) (ordered : Ordered sorted) :
    sort sources = sorted := by
  have distinct : (sources.map names).Nodup := (permuted.map names).nodup_iff.mpr ordered.distinct
  apply eq_of_ordered (sort_ordered distinct) ordered
  exact fun source => ((List.mergeSort_perm sources _).trans permuted).mem_iff

/-- Sources are the files with the extension, in order. -/
theorem discover_files (tree : File.Tree) (root : Pathname) (extension : String) :
    discover? tree root extension = (tree.list? root).map fun files =>
      sort ((files.map fun (names, content) => Source.mk names content).filter fun source =>
        Pathname.nameExtension source.fileName == some extension) := by
  rw [discover?]
  cases tree.list? root <;> rfl

/-- Whoever has the files below a root and can put the scripts in order knows what is discovered. -/
theorem discover_listed {tree : File.Tree} {root : Pathname} {extension : String}
    {files : List (Location × List UInt8)} {chosen sorted : List Source} (listed : tree.list? root = some files)
    (named : ((files.map fun (names, content) => Source.mk names content).filter fun source =>
      Pathname.nameExtension source.fileName == some extension) = chosen)
    (permuted : chosen.Perm sorted) (ordered : Ordered sorted) :
    discover? tree root extension = some sorted := by
  rw [discover_files, listed, Option.map_some, named, sort_eq permuted ordered]

instance (sources : List Source) : Decidable (Ordered sources) :=
  inferInstanceAs (Decidable (List.Pairwise _ _))

/-- A plain file below the root whose name carries the extension. -/
structure IsScript (tree : File.Tree) (location : Location) (extension : String) (source : Source) : Prop where
  below : source.names ≠ []
  file : tree.node? (location ++ source.names) = some (.file source.content)
  extension : Pathname.nameExtension source.fileName = some extension

variable {tree other : File.Tree} {root : Pathname} {location : Location} {extension : String}
  {sources : List Source} {source : Source}

/-- The names of a script are proper. -/
theorem IsScript.names (script : IsScript tree location extension source) (proper : tree.Proper) :
    ∀ name ∈ source.names, IsName name := by
  intro name member
  have entry := (File.Tree.node_iff proper (by simp [script.below])).mp script.file
  exact proper.named _ entry name (List.mem_append_right _ member)

/-- All script files are found, each once and in the order of their names. -/
theorem discover_eq_some (proper : tree.Proper) : discover? tree root extension = some sources ↔
    ∃ location, tree.resolve root = some location ∧ tree.listable location = true ∧
      Ordered sources ∧ ∀ source, source ∈ sources ↔ IsScript tree location extension source := by
  have found : ∀ location, let listed := (tree.filesBelow location).map fun file => Source.mk file.1 file.2
      let chosen := listed.filter fun source => Pathname.nameExtension source.fileName == some extension
      Ordered (sort chosen) ∧
        ∀ source, source ∈ sort chosen ↔ IsScript tree location extension source := by
    intro location listed chosen
    have distinct : (listed.map Source.names).Nodup := by
      have names := File.Tree.filesBelow_distinct proper location
      simpa [listed, Function.comp_def] using names
    refine ⟨sort_ordered (distinct.sublist (List.filter_sublist.map _)), fun source => ?_⟩
    have kept : source ∈ sort chosen ↔ source ∈ chosen := (List.mergeSort_perm chosen _).mem_iff
    rw [kept, List.mem_filter, List.mem_map, beq_iff_eq]
    constructor
    · rintro ⟨⟨⟨names, content⟩, member, rfl⟩, same⟩
      obtain ⟨below, file⟩ := (File.Tree.mem_filesBelow proper).mp member
      exact ⟨below, file, same⟩
    · rintro ⟨below, file, same⟩
      exact ⟨⟨_, (File.Tree.mem_filesBelow proper).mpr ⟨below, file⟩, rfl⟩, same⟩
  unfold discover? File.Tree.list?
  cases resolved : tree.resolve root with
  | none => simp
  | some location =>
      obtain ⟨ordered, complete⟩ := found location
      by_cases listed : tree.listable location = true
      · simp only [Option.bind_eq_bind, Option.bind_some, listed, if_true, Option.some.injEq,
          Option.pure_def, exists_eq_left', true_and]
        constructor
        · rintro rfl
          exact ⟨ordered, complete⟩
        · rintro ⟨ordered', complete'⟩
          exact eq_of_ordered ordered ordered' fun source => (complete source).trans (complete' source).symm
      · simp [listed]

/-- Nothing is discovered exactly where the root cannot be listed. -/
theorem discover_eq_none : discover? tree root extension = none ↔
    ∀ location, tree.resolve root = some location → tree.listable location = false := by
  unfold discover? File.Tree.list?
  cases resolved : tree.resolve root with
  | none => simp
  | some location => by_cases listed : tree.listable location = true <;> simp [listed]

/-- What can be listed is the same in trees that are alike. -/
theorem listable_congr (proper : tree.Proper) (proper' : other.Proper) (alike : tree.Alike other) :
    other.listable location = tree.listable location := by
  rw [Bool.eq_iff_iff, File.Tree.listable_iff proper, File.Tree.listable_iff proper']
  simp only [alike.node]

/-- The order of the entries decides nothing. -/
theorem discover_congr (proper : tree.Proper) (proper' : other.Proper) (alike : tree.Alike other)
    (root : Pathname) (extension : String) :
    discover? other root extension = discover? tree root extension := by
  rw [Option.ext_iff]
  intro sources
  simp only [← Option.mem_def]
  rw [Option.mem_def, Option.mem_def, discover_eq_some proper, discover_eq_some proper']
  have scripts : ∀ location source,
      IsScript other location extension source ↔ IsScript tree location extension source := by
    intro location source
    constructor <;> rintro ⟨below, file, same⟩
    · exact ⟨below, alike.node _ ▸ file, same⟩
    · exact ⟨below, (alike.node _).symm ▸ file, same⟩
  simp only [alike.resolve, listable_congr proper proper' alike, scripts]

/-- A unit is made of a text that can be read and compiled. -/
def unit? (root : Pathname) (source : Source) : Option CompiledUnit := do
  let text ← Text.Utf8.decode? source.content
  let program ← compile? text.toList
  return ⟨source.unitName, source.path root, text.toList, program⟩

def error? (root : Pathname) (source : Source) : Option Error :=
  match Text.Utf8.decode? source.content with
  | none => some (.unreadable (source.path root))
  | some text => if (compile? text.toList).isSome then none else some (.malformed (source.path root))

/-- A source gives a unit or an error. -/
theorem unit_or_error (root : Pathname) (source : Source) :
    (source.unit? root).isSome ↔ source.error? root = none := by
  unfold unit? error?
  cases Text.Utf8.decode? source.content with
  | none => simp
  | some text => cases found : compile? text.toList <;> simp [found]

/-- Every source has a unit or an error. -/
theorem length_units_errors (root : Pathname) (sources : List Source) :
    (sources.filterMap (unit? root)).length + (sources.filterMap (error? root)).length =
      sources.length := by
  induction sources with
  | nil => rfl
  | cons source rest ih =>
      have either := unit_or_error root source
      cases made : source.unit? root with
      | none =>
          obtain ⟨error, refused⟩ : ∃ error, source.error? root = some error := by
            rw [made] at either
            rw [← Option.isSome_iff_exists, ← Option.ne_none_iff_isSome]
            exact fun none' => by simpa using either.mpr none'
          rw [List.filterMap_cons_none made, List.filterMap_cons_some refused, List.length_cons,
            List.length_cons, ← ih]
          omega
      | some unit =>
          have accepted := either.mp (by rw [made]; rfl)
          rw [List.filterMap_cons_some made, List.filterMap_cons_none accepted, List.length_cons,
            List.length_cons, ← ih]
          omega

end Source

end Script

end ScriptHost

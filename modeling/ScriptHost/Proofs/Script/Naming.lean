/-
This file tells scripts apart by the names of their units. Two names are the same only for two files of one
directory that are called by nothing but dots before the extension.
-/
import ScriptHost.Proofs.Script.Reloading

namespace ScriptHost

namespace File.Pathname

/-- What is split at the last dot is put together with it. -/
theorem splitAtLastDot_spec {name before after : List Char}
    (split : splitAtLastDot name = some (before, after)) : name = before ++ '.' :: after := by
  have parts := List.takeWhile_append_dropWhile (p := (· ≠ '.')) (l := name.reverse)
  have dot := List.head?_dropWhile_not (· ≠ '.') name.reverse
  unfold splitAtLastDot at split
  dsimp only at split
  generalize name.reverse.takeWhile (· ≠ '.') = back at parts split
  generalize name.reverse.dropWhile (· ≠ '.') = front at parts split dot
  cases front with
  | nil => cases split
  | cons first front =>
      obtain ⟨rfl, rfl⟩ := Prod.mk.inj (Option.some.inj split)
      obtain rfl : first = '.' := by simpa using dot
      rw [← List.reverse_inj, ← parts]
      simp

/-- A name with an extension is its stem, a dot and the extension. -/
theorem nameExtension_spec {name extension : String} (named : nameExtension name = some extension) :
    ∃ stem, name = stem ++ "." ++ extension ∧ bareName name = if stem = "." then ".." else stem := by
  obtain ⟨stem, split⟩ : ∃ stem, splitName name = (stem, some extension) :=
    ⟨(splitName name).1, Prod.ext rfl named⟩
  refine ⟨stem, ?_, ?_⟩
  · unfold splitName at split
    cases parts : splitAtLastDot name.toList with
    | none =>
        rw [parts] at split
        cases split
    | some both =>
        obtain ⟨before, after⟩ := both
        rw [parts] at split
        dsimp only at split
        split at split
        · cases split
        · cases split
          rw [← String.toList_inj, splitAtLastDot_spec parts]
          simp [String.toList_append]
  · rw [bareName, split]
    by_cases dot : stem = "."
    · rw [if_pos dot, dot]
      rfl
    · rw [if_neg dot]
      split
      · next same => exact absurd (Prod.mk.inj same).1 dot
      · next same => exact (Prod.mk.inj same).1.symm

/-- The bare name of a name without slashes has none either. -/
theorem bareName_whole {name extension : String} (named : nameExtension name = some extension)
    (whole : '/' ∉ name.toList) : '/' ∉ (bareName name).toList := by
  obtain ⟨stem, rfl, bare⟩ := nameExtension_spec named
  rw [bare]
  split
  · decide
  · intro member
    exact whole (by simp [String.toList_append, member])

/-- The name without extension is read back, but for the two stems that are one and two dots. -/
theorem bareName_eq {name other extension : String} (named : nameExtension name = some extension)
    (named' : nameExtension other = some extension) (same : bareName name = bareName other) :
    name = other ∨ (name = ".." ++ extension ∧ other = "..." ++ extension) ∨
      (name = "..." ++ extension ∧ other = ".." ++ extension) := by
  have one : ∀ extension : String, "." ++ "." ++ extension = ".." ++ extension := fun _ => rfl
  have two : ∀ extension : String, ".." ++ "." ++ extension = "..." ++ extension := fun _ => rfl
  obtain ⟨stem, rfl, bare⟩ := nameExtension_spec named
  obtain ⟨stem', rfl, bare'⟩ := nameExtension_spec named'
  rw [bare, bare'] at same
  by_cases dot : stem = "." <;> by_cases dot' : stem' = "."
  · exact Or.inl (by rw [dot, dot'])
  · rw [if_pos dot, if_neg dot'] at same
    rw [dot, ← same]
    exact Or.inr (Or.inl ⟨one extension, two extension⟩)
  · rw [if_neg dot, if_pos dot'] at same
    rw [dot', same]
    exact Or.inr (Or.inr ⟨two extension, one extension⟩)
  · rw [if_neg dot, if_neg dot'] at same
    exact Or.inl (by rw [same])

end File.Pathname

namespace Script

open File (Pathname IsName)

/-- Both stand in one directory, and before the extension the first is called by one dot and the other by
two. -/
def Twins (root : Pathname) (extension : String) (path other : Pathname) : Prop :=
  ∃ directory : List String, path = (directory ++ [".." ++ extension]).foldl Pathname.joinName root ∧
    other = (directory ++ ["..." ++ extension]).foldl Pathname.joinName root

namespace Source

variable {root : Pathname} {extension : String} {source other : Source}

/-- A script has a file name behind its directories. -/
theorem names_divided (named : Pathname.nameExtension source.fileName = some extension) :
    source.names = source.names.dropLast ++ [source.fileName] := by
  unfold fileName at named ⊢
  cases last : source.names.getLast? with
  | none =>
      rw [last] at named
      cases named
  | some name =>
      obtain ⟨front, same⟩ := List.getLast?_eq_some_iff.mp last
      rw [same, List.dropLast_concat]
      rfl

/-- Scripts of one name are the same file, or they are twins. -/
theorem unitName_eq (proper : ∀ name ∈ source.names, IsName name) (proper' : ∀ name ∈ other.names, IsName name)
    (named : Pathname.nameExtension source.fileName = some extension)
    (named' : Pathname.nameExtension other.fileName = some extension)
    (same : source.unitName = other.unitName) : source.names = other.names ∨
      Twins root extension (source.path root) (other.path root) ∨
      Twins root extension (other.path root) (source.path root) := by
  have pieces : ∀ {source : Source}, (∀ name ∈ source.names, IsName name) →
      Pathname.nameExtension source.fileName = some extension →
      File.segments source.unitName = source.names.dropLast ++ [Pathname.bareName source.fileName] := by
    intro source proper named
    have divided := names_divided named
    rw [divided] at proper
    obtain ⟨above, last⟩ := List.forall_mem_append.mp proper
    apply File.segments_slash
    · rw [List.forall_mem_append]
      refine ⟨fun name member => (above name member).2.2.2, ?_⟩
      simpa using Pathname.bareName_whole named (last _ (List.mem_singleton_self _)).2.2.2
    · simp
  have both := congrArg File.segments same
  rw [pieces proper named, pieces proper' named'] at both
  obtain ⟨directory, bare⟩ := List.append_inj' both rfl
  have divided := names_divided named
  have divided' := names_divided named'
  rw [directory] at divided
  rcases Pathname.bareName_eq named named' (List.cons.inj bare).1 with equal | ⟨short, long⟩ | ⟨long, short⟩
  · rw [equal] at divided
    exact Or.inl (divided.trans divided'.symm)
  · rw [short] at divided
    rw [long] at divided'
    exact Or.inr (Or.inl ⟨_, congrArg _ divided, congrArg _ divided'⟩)
  · rw [long] at divided
    rw [short] at divided'
    exact Or.inr (Or.inr ⟨_, congrArg _ divided', congrArg _ divided⟩)

end Source

/-- The units come from files of their own, and each is found under its name. Only twins share a name. -/
structure Addressed (root : Pathname) (extension : String) (set : UnitSet) : Prop where
  apart : set.units.Pairwise fun unit other => unit.path.same other.path = false
  named : ∀ unit ∈ set.units, ∀ other ∈ set.units, unit.name = other.name →
    unit = other ∨ Twins root extension unit.path other.path ∨ Twins root extension other.path unit.path
  found : ∀ unit ∈ set.units, (∀ other ∈ set.units, ¬ Twins root extension unit.path other.path ∧
    ¬ Twins root extension other.path unit.path) → set.find? unit.name = some unit

variable {tree : File.Tree} {root : Pathname} {extension : String} {previous : Option UnitSet}
  {sources : List Source} {cache : UnitCache} {compilation : Compilation}

/-- An empty set has no names to confuse. -/
theorem addressed_empty : Addressed root extension (.empty root) :=
  ⟨List.Pairwise.nil, by simp [UnitSet.empty], by simp [UnitSet.empty]⟩

/-- Where names are shared by twins alone, a unit without a twin is found. -/
theorem found_of_named {set : UnitSet} (named : ∀ unit ∈ set.units, ∀ other ∈ set.units, unit.name = other.name →
      unit = other ∨ Twins root extension unit.path other.path ∨ Twins root extension other.path unit.path)
    {unit : CompiledUnit} (member : unit ∈ set.units)
    (alone : ∀ other ∈ set.units, ¬ Twins root extension unit.path other.path ∧
      ¬ Twins root extension other.path unit.path) : set.find? unit.name = some unit := by
  have some' : (set.find? unit.name).isSome := List.find?_isSome.mpr ⟨unit, member, by simp⟩
  obtain ⟨first, found⟩ := Option.isSome_iff_exists.mp some'
  have called : first.name = unit.name := by simpa using List.find?_some found
  have among := List.mem_of_find?_eq_some found
  obtain ⟨before, after⟩ := alone first among
  rw [found, (named unit member first among called.symm).resolve_right (not_or.mpr ⟨before, after⟩)]

/-- Ordered scripts have names that only twins share. -/
theorem addressed_units (ordered : Source.Ordered sources)
    (proper : ∀ source ∈ sources, ∀ name ∈ source.names, IsName name)
    (scripts : ∀ source ∈ sources, Pathname.nameExtension source.fileName = some extension)
    (generation : Nat) :
    Addressed root extension ⟨root, generation, sources.filterMap (Source.unit? root)⟩ := by
  have named : ∀ unit ∈ sources.filterMap (Source.unit? root), ∀ other ∈ sources.filterMap (Source.unit? root),
      unit.name = other.name → unit = other ∨ Twins root extension unit.path other.path ∨
        Twins root extension other.path unit.path := by
    intro unit member other member' same
    obtain ⟨source, listed, made⟩ := List.mem_filterMap.mp member
    obtain ⟨source', listed', made'⟩ := List.mem_filterMap.mp member'
    obtain ⟨_, _, -, -, rfl⟩ := Source.unit_eq_some.mp made
    obtain ⟨_, _, -, -, rfl⟩ := Source.unit_eq_some.mp made'
    rcases Source.unitName_eq (proper source listed) (proper source' listed') (scripts source listed)
      (scripts source' listed') same with equal | twins
    · obtain rfl := List.inj_on_of_nodup_map ordered.distinct listed listed' equal
      exact Or.inl (Option.some.inj (made.symm.trans made'))
    · exact Or.inr twins
  refine ⟨?_, named, fun unit member alone => found_of_named named member alone⟩
  rw [List.pairwise_filterMap]
  refine ordered.imp_of_mem fun listed listed' before unit made other made' => ?_
  obtain ⟨_, _, -, -, rfl⟩ := Source.unit_eq_some.mp made
  obtain ⟨_, _, -, -, rfl⟩ := Source.unit_eq_some.mp made'
  rw [Bool.eq_false_iff]
  intro same
  have equal := Source.names_eq_of_same (proper _ listed) (proper _ listed') same
  rw [equal] at before
  exact Std.lt_irrefl before

/-- A compilation gives each file a name, whatever units of the same root it takes over. -/
theorem compileAll_addressed (proper : tree.Proper)
    (faithful : ∀ set ∈ previous, ∀ unit ∈ set.units, Faithful root unit)
    (compiled : compileAll tree extension root previous = .ok compilation) :
    Addressed root extension compilation.set ∧ ∀ unit ∈ compilation.set.units, Faithful root unit := by
  cases found : Source.discover? tree root extension with
  | none =>
      rw [compileAll_missing found] at compiled
      cases compiled
  | some sources =>
      rw [compileAll_found proper faithful found] at compiled
      obtain rfl := Except.ok.inj compiled
      have names := discovered_names proper found
      obtain ⟨location, -, -, ordered, complete⟩ := (Source.discover_eq_some proper).mp found
      refine ⟨addressed_units ordered names (fun source member => ?_) _, faithful_units names⟩
      exact ((complete source).mp member).extension

namespace UnitCache

/-- A reload leaves a cache addressed. -/
theorem reload_addressed (sound : cache.Sound) (proper : tree.Proper)
    (addressed : Addressed cache.root cache.extension cache.active) :
    Addressed cache.root cache.extension (cache.reload tree).1.active := by
  unfold reload
  cases compiled : compileAll tree cache.extension cache.root (some cache.active) with
  | error error => exact addressed
  | ok compilation => exact (compileAll_addressed proper (by simpa using sound.faithful) compiled).1

/-- A cache stays addressed whatever it follows. -/
theorem follow_addressed (sound : cache.Sound) {past : List File.Tree} (proper : ∀ tree ∈ past, tree.Proper)
    (addressed : Addressed cache.root cache.extension cache.active) :
    Addressed cache.root cache.extension (cache.follow past).active := by
  induction past generalizing cache with
  | nil => exact addressed
  | cons tree past ih =>
      obtain ⟨first, later⟩ := List.forall_mem_cons.mp proper
      have next := reload_addressed sound first addressed
      rw [← reload_root, ← reload_extension] at next
      have rest := ih (sound.reload first) later next
      rwa [reload_root, reload_extension] at rest

end UnitCache

/-- Whatever a cache has compiled, and whatever is compiled with units of the same root at hand, a name
leads to the file of its unit. -/
theorem units_addressed {label extension : String} {root : Pathname} {past : List File.Tree} {tree : File.Tree}
    (proper : ∀ state ∈ past, state.Proper) (now : tree.Proper) :
    let cache := (UnitCache.create label root extension).follow past
    Addressed root (bareExtension extension) cache.active ∧ (∀ unit ∈ cache.active.units, Faithful root unit) ∧
      ∀ extension previous compilation, (∀ set ∈ previous, ∀ unit ∈ set.units, Faithful root unit) →
        compileAll tree extension root previous = .ok compilation →
          Addressed root extension compilation.set ∧ ∀ unit ∈ compilation.set.units, Faithful root unit := by
  intro cache
  have fresh := UnitCache.sound_create label root extension
  have sound : cache.Sound := fresh.follow proper
  have faithful := sound.faithful
  rw [UnitCache.follow_root] at faithful
  exact ⟨UnitCache.follow_addressed fresh proper addressed_empty, faithful,
    fun _ _ _ taken compiled => compileAll_addressed now taken compiled⟩

/-- One name has two dots, one directory is called like a script, and one script by dots alone. -/
def dottedFiles : File.Tree where
  entries := [(["s"], .directory true), (["s", "..rhai"], .file []), (["s", "a.b.rhai"], .file []),
    (["s", "a.rhai"], .directory true), (["s", "a.rhai", "...rhai"], .file [])]
  working := []

/-- Two files that are called by dots alone share a name, and the others do not. -/
theorem units_addressed_dotted :
    (∀ state ∈ [dottedFiles], state.Proper) ∧
      let cache := (UnitCache.create "scripts" ⟨"/s"⟩ ".rhai").follow [dottedFiles]
      (Addressed ⟨"/s"⟩ (bareExtension ".rhai") cache.active ∧
        (∀ unit ∈ cache.active.units, Faithful ⟨"/s"⟩ unit) ∧
        ∀ extension previous compilation, (∀ set ∈ previous, ∀ unit ∈ set.units, Faithful ⟨"/s"⟩ unit) →
          compileAll dottedFiles extension ⟨"/s"⟩ previous = .ok compilation →
            Addressed ⟨"/s"⟩ extension compilation.set ∧ ∀ unit ∈ compilation.set.units, Faithful ⟨"/s"⟩ unit) ∧
      cache.active.names = ["..", "a.b", "a.rhai/.."] := by
  have proper : dottedFiles.Proper := by
    constructor <;> decide
  have past : ∀ state ∈ [dottedFiles], state.Proper := by simpa using proper
  refine ⟨past, units_addressed past proper, ?_⟩
  have bare : bareExtension ".rhai" = "rhai" := by decide
  have listed : dottedFiles.list? ⟨"/s"⟩ =
      some [(["..rhai"], []), (["a.b.rhai"], []), (["a.rhai", "...rhai"], [])] := by decide +kernel
  have found : Source.discover? dottedFiles (UnitCache.create "scripts" ⟨"/s"⟩ ".rhai").root
      (UnitCache.create "scripts" ⟨"/s"⟩ ".rhai").extension =
        some [⟨["..rhai"], []⟩, ⟨["a.b.rhai"], []⟩, ⟨["a.rhai", "...rhai"], []⟩] := by
    rw [UnitCache.create, bare]
    exact Source.discover_listed listed (by decide +kernel) (List.Perm.refl _) (by decide)
  rw [UnitCache.follow, List.foldl_cons, List.foldl_nil,
    UnitCache.reload_found proper (UnitCache.sound_create _ _ _).faithful found]
  decide +kernel

/-- Two scripts of one directory are twins. -/
def twinFiles : File.Tree where
  entries := [(["s"], .directory true), (["s", "..rhai"], .file []), (["s", "...rhai"], .file [])]
  working := []

/-- Two scripts are called alike, one in the root and one below it. -/
def innerFiles : File.Tree where
  entries := [(["s"], .directory true), (["s", "a.rhai"], .file []), (["s", "n"], .directory true),
    (["s", "n", "a.rhai"], .file [])]
  working := []

/-- Twins share a name, and so do units that were taken over from the set of another root. -/
theorem names_shared :
    (∃ compilation, compileAll twinFiles "rhai" ⟨"/s"⟩ none = .ok compilation ∧
      compilation.set.units.map CompiledUnit.path = [⟨"/s/...rhai"⟩, ⟨"/s/..rhai"⟩] ∧
      compilation.set.names = ["..", ".."] ∧
      (compilation.set.find? "..").map CompiledUnit.path = some ⟨"/s/...rhai"⟩) ∧
    ∃ inner outer, compileAll innerFiles "rhai" ⟨"/s/n"⟩ none = .ok inner ∧
      compileAll innerFiles "rhai" ⟨"/s"⟩ (some inner.set) = .ok outer ∧
      outer.set.units.map CompiledUnit.path = [⟨"/s/a.rhai"⟩, ⟨"/s/n/a.rhai"⟩] ∧
      outer.set.names = ["a", "a"] := by
  constructor
  · have listed : twinFiles.list? ⟨"/s"⟩ = some [(["..rhai"], []), (["...rhai"], [])] := by decide +kernel
    have found : Source.discover? twinFiles ⟨"/s"⟩ "rhai" = some [⟨["...rhai"], []⟩, ⟨["..rhai"], []⟩] :=
      Source.discover_listed listed (by decide +kernel) (List.Perm.swap _ _ _) (by decide)
    refine ⟨_, by rw [compileAll, found], ?_⟩
    decide +kernel
  · have below : innerFiles.list? ⟨"/s/n"⟩ = some [(["a.rhai"], [])] := by decide +kernel
    have listed : innerFiles.list? ⟨"/s"⟩ = some [(["a.rhai"], []), (["n", "a.rhai"], [])] := by decide +kernel
    have first : Source.discover? innerFiles ⟨"/s/n"⟩ "rhai" = some [⟨["a.rhai"], []⟩] :=
      Source.discover_listed below (by decide +kernel) (List.Perm.refl _) (by decide)
    have second : Source.discover? innerFiles ⟨"/s"⟩ "rhai" = some [⟨["a.rhai"], []⟩, ⟨["n", "a.rhai"], []⟩] :=
      Source.discover_listed listed (by decide +kernel) (List.Perm.refl _) (by decide)
    refine ⟨_, _, by rw [compileAll, first], by rw [compileAll, second], ?_⟩
    decide +kernel

end Script

end ScriptHost

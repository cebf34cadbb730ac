/-
This file shows that a cache that takes old units over holds what a fresh compilation gives, whatever it
compiled, took over or refused before.
-/
import ScriptHost.Proofs.Script.Sources

namespace ScriptHost.Script

open File (Pathname IsName Location)

/-- The unit is what some source below the root compiles to, now or at an earlier time. -/
def Faithful (root : Pathname) (unit : CompiledUnit) : Prop :=
  ∃ source : Source, (∀ name ∈ source.names, IsName name) ∧ source.unit? root = some unit

namespace Source

variable {root : Pathname} {source other : Source} {unit : CompiledUnit}

/-- A unit comes from a text that can be read and compiled. -/
theorem unit_eq_some : source.unit? root = some unit ↔
    ∃ text program, Text.Utf8.decode? source.content = some text ∧ compile? text.toList = some program ∧
      unit = ⟨source.unitName, source.path root, text.toList, program⟩ := by
  unfold unit?
  cases Text.Utf8.decode? source.content with
  | none => simp
  | some text => cases found : compile? text.toList <;> simp [found, eq_comm]

/-- Different names lead to different paths. -/
theorem names_eq_of_same (proper : ∀ name ∈ source.names, IsName name)
    (proper' : ∀ name ∈ other.names, IsName name)
    (same : (source.path root).same (other.path root) = true) : source.names = other.names := by
  unfold Pathname.same path at same
  rw [beq_iff_eq, Pathname.components_names root proper, Pathname.components_names root proper'] at same
  have injective : Function.Injective File.Component.normal := fun _ _ => File.Component.normal.inj
  exact injective.list_map (List.append_cancel_left same)

end Source

namespace Compiled

variable {root : Pathname} {source : Source} {previous : Option UnitSet} {unit : CompiledUnit}

/-- A text is compiled to the unit of its source. -/
theorem ofText_unit (text : List Char) : (ofText root source text).unit? =
    (compile? text).map fun program => ⟨source.unitName, source.path root, text, program⟩ := by
  unfold ofText
  cases compile? text <;> rfl

/-- A text that cannot be compiled is told as malformed. -/
theorem ofText_error (text : List Char) : (ofText root source text).error? =
    if (compile? text).isSome then none else some (.malformed (source.path root)) := by
  unfold ofText
  cases compile? text <;> rfl

/-- A unit of the same path and text is the one that compiling the text would give. -/
theorem unit_of_reused (proper : ∀ name ∈ source.names, IsName name) (faithful : Faithful root unit)
    {text : String} (read : Text.Utf8.decode? source.content = some text)
    (path : unit.path.same (source.path root) = true) (same : unit.text = text.toList) :
    source.unit? root = some unit := by
  obtain ⟨former, names, made⟩ := faithful
  obtain ⟨text', program, -, compiled, rfl⟩ := Source.unit_eq_some.mp made
  have equal : former.names = source.names := Source.names_eq_of_same names proper path
  refine Source.unit_eq_some.mpr ⟨text, program, read, ?_, ?_⟩
  · rw [← same]
    exact compiled
  · simp only [Source.unitName, Source.fileName, Source.path, equal] at same ⊢
    rw [same]

/-- Old units make no difference to what a source comes to. -/
theorem ofSource_afresh (proper : ∀ name ∈ source.names, IsName name)
    (faithful : ∀ set ∈ previous, ∀ unit ∈ set.units, Faithful root unit) :
    (ofSource previous root source).unit? = source.unit? root ∧
      (ofSource previous root source).error? = source.error? root := by
  unfold ofSource
  cases read : Text.Utf8.decode? source.content with
  | none => simp [Source.unit?, Source.error?, read, unit?, error?]
  | some text =>
      have afresh : (ofText root source text.toList).unit? = source.unit? root ∧
          (ofText root source text.toList).error? = source.error? root := by
        rw [ofText_unit, ofText_error]
        unfold Source.unit? Source.error?
        rw [read]
        refine ⟨?_, rfl⟩
        cases found : compile? text.toList <;> simp [found]
      dsimp only
      cases found : previous.bind fun set => set.unitAt? (source.path root) with
      | none => exact afresh
      | some unit =>
          dsimp only
          split
          · next same =>
              obtain ⟨set, rfl, found⟩ := Option.bind_eq_some_iff.mp found
              have path := List.find?_some found
              have member : unit ∈ set.units := List.mem_reverse.mp (List.mem_of_find?_eq_some found)
              have made := unit_of_reused proper (faithful set rfl unit member) read path same
              have accepted := (Source.unit_or_error root source).mp (by rw [made]; rfl)
              exact ⟨made.symm, accepted.symm⟩
          · exact afresh

end Compiled

variable {tree other : File.Tree} {root : Pathname} {extension label : String} {previous : Option UnitSet}
  {sources : List Source} {cache : UnitCache} {afresh : Compilation} {error : Error}

/-- Units that were compiled afresh are faithful to their sources. -/
theorem faithful_units (named : ∀ source ∈ sources, ∀ name ∈ source.names, IsName name) :
    ∀ unit ∈ sources.filterMap (Source.unit? root), Faithful root unit := by
  intro unit member
  obtain ⟨source, listed, made⟩ := List.mem_filterMap.mp member
  exact ⟨source, named source listed, made⟩

/-- What is discovered has proper names. -/
theorem discovered_names (proper : tree.Proper)
    (found : Source.discover? tree root extension = some sources) :
    ∀ source ∈ sources, ∀ name ∈ source.names, IsName name := by
  obtain ⟨location, -, -, -, complete⟩ := (Source.discover_eq_some proper).mp found
  exact fun source member => ((complete source).mp member).names proper

/-- A compilation gives the units and errors of the sources that are there. -/
theorem compileAll_found (proper : tree.Proper)
    (faithful : ∀ set ∈ previous, ∀ unit ∈ set.units, Faithful root unit)
    (found : Source.discover? tree root extension = some sources) :
    compileAll tree extension root previous =
      .ok ⟨⟨root, (previous.map UnitSet.generation).getD 0 + 1, sources.filterMap (Source.unit? root)⟩,
        sources.filterMap (Source.error? root),
        (sources.map (Compiled.ofSource previous root)).countP Compiled.isReused⟩ := by
  have each := fun source member =>
    Compiled.ofSource_afresh (discovered_names proper found source member) faithful
  have units : (sources.map (Compiled.ofSource previous root)).filterMap Compiled.unit? =
      sources.filterMap (Source.unit? root) := by
    rw [List.filterMap_map]
    exact List.filterMap_congr fun source member => (each source member).1
  have errors : (sources.map (Compiled.ofSource previous root)).filterMap Compiled.error? =
      sources.filterMap (Source.error? root) := by
    rw [List.filterMap_map]
    exact List.filterMap_congr fun source member => (each source member).2
  rw [compileAll, found]
  dsimp only
  rw [units, errors]

/-- Nothing can be taken over from nothing. -/
theorem compileAll_afresh (proper : tree.Proper)
    (found : Source.discover? tree root extension = some sources) :
    compileAll tree extension root none =
      .ok ⟨⟨root, 1, sources.filterMap (Source.unit? root)⟩, sources.filterMap (Source.error? root), 0⟩ := by
  have fresh : (sources.map (Compiled.ofSource none root)).countP Compiled.isReused = 0 := by
    rw [List.countP_eq_zero]
    rintro compiled member
    obtain ⟨source, -, rfl⟩ := List.mem_map.mp member
    unfold Compiled.ofSource Compiled.ofText
    cases Text.Utf8.decode? source.content with
    | none => simp [Compiled.isReused]
    | some text => cases found : compile? text.toList <;> simp [Compiled.isReused, found]
  rw [compileAll_found proper (by simp) found, fresh]
  rfl

/-- Without its root nothing is compiled. -/
theorem compileAll_missing (missing : Source.discover? tree root extension = none) :
    compileAll tree extension root previous = .error (.unreadableRoot root) := by
  rw [compileAll, missing]

namespace UnitCache

/-- The units of a cache are faithful, and its sets are counted. -/
structure Sound (cache : UnitCache) : Prop where
  faithful : ∀ unit ∈ cache.active.units, Faithful cache.root unit
  counted : cache.active.generation = cache.reloads

/-- Compiling now and from nothing would give what the cache holds. -/
def Fresh (tree : File.Tree) (cache : UnitCache) : Prop :=
  ∃ afresh, compileAll tree cache.extension cache.root none = .ok afresh ∧
    cache.active.units = afresh.set.units

/-- A new cache is sound. -/
theorem sound_create (label : String) (root : Pathname) (extension : String) :
    (create label root extension).Sound :=
  ⟨by simp [create, UnitSet.empty], rfl⟩

/-- A fresh cache has a root that can be read. -/
theorem Fresh.readable (fresh : cache.Fresh tree) :
    Source.discover? tree cache.root cache.extension ≠ none := by
  intro missing
  obtain ⟨afresh, compiled, -⟩ := fresh
  rw [compileAll_missing missing] at compiled
  cases compiled

/-- A fresh cache holds the units of the sources that are there. -/
theorem Fresh.units (fresh : cache.Fresh tree) (proper : tree.Proper)
    (found : Source.discover? tree cache.root cache.extension = some sources) :
    cache.active.units = sources.filterMap (Source.unit? cache.root) := by
  obtain ⟨afresh, compiled, same⟩ := fresh
  rw [compileAll_afresh proper found] at compiled
  cases compiled
  exact same

/-- A unit of a cache that was fresh is faithful. -/
theorem Fresh.faithful (fresh : cache.Fresh tree) (proper : tree.Proper) :
    ∀ unit ∈ cache.active.units, Faithful cache.root unit := by
  obtain ⟨sources, found⟩ := Option.ne_none_iff_exists'.mp fresh.readable
  rw [fresh.units proper found]
  exact faithful_units (discovered_names proper found)

/-- A reload of a root that is found holds what is compiled afresh. -/
theorem reload_found (proper : tree.Proper) (faithful : ∀ unit ∈ cache.active.units, Faithful cache.root unit)
    (found : Source.discover? tree cache.root cache.extension = some sources) :
    let set : UnitSet := ⟨cache.root, cache.active.generation + 1, sources.filterMap (Source.unit? cache.root)⟩
    cache.reload tree = ({ cache with active := set, reloads := cache.reloads + 1 },
      (sources.filterMap (Source.error? cache.root)).map cache.failureRecord, .ok set) := by
  rw [reload, compileAll_found proper (by simpa using faithful) found]
  rfl

/-- A reload of a root that is missing keeps the cache. -/
theorem reload_missing (missing : Source.discover? tree cache.root cache.extension = none) :
    cache.reload tree = (cache, [cache.keepingRecord (.unreadableRoot cache.root)],
      .error (.unreadableRoot cache.root)) := by
  rw [reload, compileAll_missing missing]

/-- A reload of a readable root leaves a fresh cache. -/
theorem reload_fresh (proper : tree.Proper) (faithful : ∀ unit ∈ cache.active.units, Faithful cache.root unit)
    (readable : Source.discover? tree cache.root cache.extension ≠ none) :
    (cache.reload tree).1.Fresh tree := by
  obtain ⟨sources, found⟩ := Option.ne_none_iff_exists'.mp readable
  rw [reload_found proper faithful found]
  exact ⟨_, compileAll_afresh proper found, rfl⟩

/-- A reload keeps the root. -/
@[simp] theorem reload_root : (cache.reload tree).1.root = cache.root := by
  unfold reload
  split <;> rfl

/-- A reload keeps the extension. -/
@[simp] theorem reload_extension : (cache.reload tree).1.extension = cache.extension := by
  unfold reload
  split <;> rfl

/-- A sound cache stays so when it is reloaded. -/
theorem Sound.reload (sound : cache.Sound) (proper : tree.Proper) : (cache.reload tree).1.Sound := by
  cases found : Source.discover? tree cache.root cache.extension with
  | none =>
      rw [reload_missing found]
      exact sound
  | some sources =>
      rw [reload_found proper sound.faithful found]
      exact ⟨faithful_units (discovered_names proper found), congrArg (· + 1) sound.counted⟩

/-- The cache is reloaded once for each state of the files. -/
def follow (cache : UnitCache) (past : List File.Tree) : UnitCache :=
  past.foldl (fun cache tree => (cache.reload tree).1) cache

/-- A reload of these files succeeds. -/
def compiles (root : Pathname) (extension : String) (tree : File.Tree) : Bool :=
  (compileAll tree extension root none).isOk

/-- A cache keeps its root whatever it follows. -/
@[simp] theorem follow_root (past : List File.Tree) : (cache.follow past).root = cache.root := by
  induction past generalizing cache with
  | nil => rfl
  | cons tree past ih => exact ih.trans reload_root

/-- A cache keeps its extension whatever it follows. -/
@[simp] theorem follow_extension (past : List File.Tree) :
    (cache.follow past).extension = cache.extension := by
  induction past generalizing cache with
  | nil => rfl
  | cons tree past ih => exact ih.trans reload_extension

/-- A sound cache stays so whatever it follows. -/
theorem Sound.follow (sound : cache.Sound) {past : List File.Tree} (proper : ∀ tree ∈ past, tree.Proper) :
    (cache.follow past).Sound := by
  induction past generalizing cache with
  | nil => exact sound
  | cons tree past ih =>
      obtain ⟨first, later⟩ := List.forall_mem_cons.mp proper
      exact ih (sound.reload first) later

/-- Only a reload that succeeds is counted. -/
theorem reload_reloads : (cache.reload tree).1.reloads =
    cache.reloads + if compiles cache.root cache.extension tree then 1 else 0 := by
  unfold reload compiles
  cases found : Source.discover? tree cache.root cache.extension with
  | none =>
      rw [compileAll_missing found, compileAll_missing found]
      rfl
  | some sources =>
      rw [compileAll, found, compileAll, found]
      rfl

/-- Just the reloads that succeed are counted. -/
theorem follow_reloads (cache : UnitCache) (past : List File.Tree) : (cache.follow past).reloads =
    cache.reloads + past.countP (compiles cache.root cache.extension) := by
  induction past generalizing cache with
  | nil => rfl
  | cons tree past ih =>
      change ((cache.reload tree).1.follow past).reloads = _
      rw [ih, reload_reloads, reload_root, reload_extension, List.countP_cons, Nat.add_assoc]
      congr 1
      exact Nat.add_comm _ _

end UnitCache

/-- The root and all directories below it can be listed. -/
def Readable (tree : File.Tree) (root : Pathname) : Prop :=
  ∃ location, tree.resolve root = some location ∧ tree.node? location = some (.directory true) ∧
    ∀ names, tree.node? (location ++ names) ≠ some (.directory false)

/-- A compilation from nothing has a unit or an error for each of the script files, in the order of their
names. -/
structure Tally (tree : File.Tree) (extension : String) (root : Pathname) (sources : List Source)
    (afresh : Compilation) : Prop where
  units : afresh.set.units = sources.filterMap (Source.unit? root)
  failures : afresh.failures = sources.filterMap (Source.error? root)
  divided : afresh.set.units.length + afresh.failures.length = sources.length
  ordered : Source.Ordered sources
  complete : ∃ location, tree.resolve root = some location ∧
    ∀ source, source ∈ sources ↔ Source.IsScript tree location extension source
  /-- The directories may list their entries in any order. -/
  walked : ∀ location names found, tree.resolve root = some location → tree.Lists location names →
    tree.Walk location names found →
      (sources.map fun source => (location ++ source.names, source.content)).Perm
        (found.filter fun file => Pathname.nameExtension (file.1.getLast?.getD "") == some extension)

/-- What a reload comes to does not depend on what the cache has gone through. -/
structure Renewal (tree : File.Tree) (cache : UnitCache)
    (answer : UnitCache × List TraceRecord × Except Error UnitSet) : Prop where
  kept : ¬ Readable tree cache.root → answer = (cache,
    [cache.keepingRecord (.unreadableRoot cache.root)], .error (.unreadableRoot cache.root))
  renewed : Readable tree cache.root → ∃ afresh sources,
    compileAll tree cache.extension cache.root none = .ok afresh ∧
    Tally tree cache.extension cache.root sources afresh ∧
    answer.1.active.units = afresh.set.units ∧
    answer.2.1 = afresh.failures.map cache.failureRecord ∧
    answer.2.2 = .ok answer.1.active
  unordered : ∀ other : File.Tree, other.Proper → tree.Alike other → cache.reload other = answer

/-- A root can be read exactly if its scripts are discovered. -/
theorem readable_iff (proper : tree.Proper) (extension : String) :
    Readable tree root ↔ Source.discover? tree root extension ≠ none := by
  rw [Ne, Source.discover_eq_none]
  unfold Readable
  simp only [← File.Tree.listable_iff proper]
  simp

/-- A walk finds the scripts of a root, each of them once. -/
theorem scripts_walked (proper : tree.Proper) {location : Location}
    (distinct : (sources.map Source.names).Nodup)
    (complete : ∀ source, source ∈ sources ↔ Source.IsScript tree location extension source)
    {names : List String} {found : List (Location × List UInt8)} (lists : tree.Lists location names)
    (walk : tree.Walk location names found) :
    (sources.map fun source => (location ++ source.names, source.content)).Perm
      (found.filter fun file => Pathname.nameExtension (file.1.getLast?.getD "") == some extension) := by
  have below := walk.files proper lists
  have once : found.Nodup := ((walk.finds proper lists.once).2).of_map
  have last : ∀ names : List String, names ≠ [] → (location ++ names).getLast?.getD "" = names.getLast?.getD "" := by
    intro names filled
    rw [List.getLast?_append_of_ne_nil _ filled]
  rw [List.perm_ext_iff_of_nodup _ (once.filter _)]
  · rintro ⟨place, content⟩
    rw [List.mem_map, List.mem_filter, below.mem_iff, List.mem_map, beq_iff_eq]
    constructor
    · rintro ⟨source, member, same⟩
      obtain ⟨rfl, rfl⟩ := Prod.mk.inj same
      have script := (complete source).mp member
      refine ⟨⟨(source.names, source.content), ?_, rfl⟩, ?_⟩
      · exact (File.Tree.mem_filesBelow proper).mpr ⟨script.below, script.file⟩
      · rw [last _ script.below]
        exact script.extension
    · rintro ⟨⟨⟨names, held⟩, member, same⟩, named⟩
      obtain ⟨rfl, rfl⟩ := Prod.mk.inj same
      obtain ⟨filled, file⟩ := (File.Tree.mem_filesBelow proper).mp member
      rw [last _ filled] at named
      exact ⟨⟨names, held⟩, (complete _).mpr ⟨filled, file, named⟩, rfl⟩
  · apply List.Nodup.of_map Prod.fst
    rw [List.map_map]
    have injective : Function.Injective (location ++ ·) := fun _ _ same => List.append_cancel_left same
    have names := distinct.map injective
    rwa [List.map_map] at names

/-- However a cache came about, a reload gives what compiling the files from nothing gives, and an
unreadable root leaves the cache as it was. -/
theorem reload_compiles_afresh {label extension : String} {root : Pathname} {past : List File.Tree}
    {tree : File.Tree} (proper : ∀ state ∈ past, state.Proper) (now : tree.Proper) :
    let cache := (UnitCache.create label root extension).follow past
    Renewal tree cache (cache.reload tree) ∧ cache.active.generation = cache.reloads ∧
      cache.reloads = past.countP (UnitCache.compiles root (bareExtension extension)) := by
  intro cache
  have sound : cache.Sound := (UnitCache.sound_create label root extension).follow proper
  refine ⟨⟨fun unreadable => ?_, fun readable => ?_, fun other proper' alike => ?_⟩, sound.counted, ?_⟩
  · rw [readable_iff now cache.extension, not_not] at unreadable
    exact UnitCache.reload_missing unreadable
  · rw [readable_iff now cache.extension, Option.ne_none_iff_exists'] at readable
    obtain ⟨sources, found⟩ := readable
    obtain ⟨location, resolved, listed, ordered, complete⟩ := (Source.discover_eq_some now).mp found
    have distinct : (sources.map Source.names).Nodup := by
      rw [List.Nodup, List.pairwise_map]
      apply List.Pairwise.imp ?_ ordered
      rintro left right before same
      rw [same] at before
      exact Std.lt_irrefl before
    refine ⟨_, sources, compileAll_afresh now found, ⟨rfl, rfl, ?_, ordered, ⟨location, resolved, complete⟩, ?_⟩, ?_⟩
    · exact Source.length_units_errors cache.root sources
    · intro place names walked resolved' lists walk
      obtain rfl := Option.some.inj (resolved.symm.trans resolved')
      exact scripts_walked now distinct complete lists walk
    · rw [UnitCache.reload_found now sound.faithful found]
      exact ⟨rfl, rfl, rfl⟩
  · have same := Source.discover_congr now proper' alike cache.root cache.extension
    cases found : Source.discover? tree cache.root cache.extension with
    | none => rw [UnitCache.reload_missing found, UnitCache.reload_missing (same.trans found)]
    | some sources =>
        rw [UnitCache.reload_found now sound.faithful found,
          UnitCache.reload_found proper' sound.faithful (same.trans found)]
  · have counted := (UnitCache.create label root extension).follow_reloads past
    rwa [UnitCache.create, Nat.zero_add] at counted

/-- A script stays, another one is spoilt, and a third is found in a new directory. -/
def editedFiles : File.Tree × File.Tree :=
  let tree (entries : List (Location × File.Node)) : File.Tree := ⟨(["s"], .directory true) :: entries, []⟩
  (tree [(["s", "b.rhai"], .file []), (["s", "a.rhai"], .file [])],
    tree [(["s", "a.rhai"], .file []), (["s", "b.rhai"], .file [0xff]), (["s", "n"], .directory true),
      (["s", "n", "c.rhai"], .file [])])

/-- A unit whose text was edited is compiled, and the other one is taken over. -/
theorem reload_compiles_afresh_edited :
    (∀ state ∈ [editedFiles.1], state.Proper) ∧ editedFiles.2.Proper ∧
      let cache := (UnitCache.create "scripts" ⟨"/s"⟩ ".rhai").follow [editedFiles.1]
      (Renewal editedFiles.2 cache (cache.reload editedFiles.2) ∧ cache.active.generation = cache.reloads ∧
        cache.reloads = [editedFiles.1].countP (UnitCache.compiles ⟨"/s"⟩ (bareExtension ".rhai"))) ∧
      cache.active.names = ["a", "b"] ∧ (cache.reload editedFiles.2).1.active.names = ["a", "n/c"] := by
  have first : ∀ state ∈ [editedFiles.1], state.Proper := by
    simp only [List.mem_singleton, forall_eq]
    constructor <;> decide
  have second : editedFiles.2.Proper := by
    constructor <;> decide
  have before : Source.discover? editedFiles.1 ⟨"/s"⟩ "rhai" =
      some [⟨["a.rhai"], []⟩, ⟨["b.rhai"], []⟩] := by
    have listed : editedFiles.1.list? ⟨"/s"⟩ = some [(["b.rhai"], []), (["a.rhai"], [])] := by decide +kernel
    exact Source.discover_listed listed (by decide +kernel) (List.Perm.swap _ _ _) (by decide)
  have now : Source.discover? editedFiles.2 ⟨"/s"⟩ "rhai" =
      some [⟨["a.rhai"], []⟩, ⟨["b.rhai"], [0xff]⟩, ⟨["n", "c.rhai"], []⟩] := by
    have listed : editedFiles.2.list? ⟨"/s"⟩ =
        some [(["a.rhai"], []), (["b.rhai"], [0xff]), (["n", "c.rhai"], [])] := by decide +kernel
    exact Source.discover_listed listed (by decide +kernel) (List.Perm.refl _) (by decide)
  have bare : bareExtension ".rhai" = "rhai" := by decide
  have sound := (UnitCache.sound_create "scripts" ⟨"/s"⟩ ".rhai").follow first
  have early : ((UnitCache.create "scripts" ⟨"/s"⟩ ".rhai").follow [editedFiles.1]).active.names =
      ["a", "b"] := by
    have found : Source.discover? editedFiles.1 (UnitCache.create "scripts" ⟨"/s"⟩ ".rhai").root
        (UnitCache.create "scripts" ⟨"/s"⟩ ".rhai").extension = some [⟨["a.rhai"], []⟩, ⟨["b.rhai"], []⟩] := by
      rw [UnitCache.create, bare]
      exact before
    rw [UnitCache.follow, List.foldl_cons, List.foldl_nil,
      UnitCache.reload_found (first _ (List.mem_singleton_self _)) (UnitCache.sound_create _ _ _).faithful found]
    decide +kernel
  refine ⟨first, second, reload_compiles_afresh first second, early, ?_⟩
  have found : Source.discover? editedFiles.2
      ((UnitCache.create "scripts" ⟨"/s"⟩ ".rhai").follow [editedFiles.1]).root
      ((UnitCache.create "scripts" ⟨"/s"⟩ ".rhai").follow [editedFiles.1]).extension =
      some [⟨["a.rhai"], []⟩, ⟨["b.rhai"], [0xff]⟩, ⟨["n", "c.rhai"], []⟩] := by
    rw [UnitCache.follow_root, UnitCache.follow_extension, UnitCache.create, bare]
    exact now
  rw [UnitCache.reload_found second sound.faithful found, UnitCache.follow_root]
  decide +kernel

end ScriptHost.Script

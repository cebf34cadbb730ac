/-
This file says which caches of a runtime are fresh after the content of a file has changed. The deepest
root above the file is compiled again; roots that it lies in keep the old units.
-/
import ScriptHost.Proofs.Content.Loading
import ScriptHost.Proofs.File.Rewriting
import ScriptHost.Proofs.File.Roots
import ScriptHost.Proofs.Script.Reloading
import ScriptHost.Proofs.Session.Registries

namespace ScriptHost

open File (Location Pathname RootKind)

namespace Content.Loader

variable {tree : File.Tree} {loader : Loader} {outside : Script.Outside}

/-- The published definitions came from the units that the cache holds. -/
def Evaluated (loader : Loader) : Prop :=
  ∃ outside, loader.published =
    (loadUnits loader.kind [] loader.cache.active.units outside).1.definitions

/-- Reloading content evaluates what it compiles. -/
theorem Evaluated.reload (evaluated : loader.Evaluated) : (loader.reload tree outside).1.Evaluated := by
  unfold Loader.reload Script.UnitCache.reload
  cases Script.compileAll tree loader.cache.extension loader.cache.root (some loader.cache.active) with
  | error => exact evaluated
  | ok compilation => exact ⟨_, rfl⟩

end Content.Loader

namespace Session

namespace Runtime

variable {tree created : File.Tree} {runtime : Runtime} {outside : Script.Outside} {kind other : RootKind}

/-- The root of this kind is compiled again. -/
def renew (runtime : Runtime) (tree : File.Tree) (outside : Script.Outside) : RootKind → Runtime
  | .scripts => { runtime with scripts := (runtime.scripts.reload tree).1 }
  | .behaviours => { runtime with behaviours := (runtime.behaviours.reload tree).1 }
  | .quests => { runtime with quests := (runtime.quests.reload tree outside).1 }
  | .encounters => { runtime with encounters := (runtime.encounters.reload tree outside).1 }

/-- Renewing a root reloads its own cache. -/
theorem renew_cache : (runtime.renew tree outside kind).cache kind = ((runtime.cache kind).reload tree).1 := by
  cases kind
  case scripts | behaviours => rfl
  all_goals exact Content.Loader.reload_cache

/-- Renewing a root leaves the caches of the others alone. -/
theorem renew_other (apart : other ≠ kind) :
    (runtime.renew tree outside kind).cache other = runtime.cache other := by
  cases kind <;> cases other <;> first | rfl | exact absurd rfl apart

/-- Content stays evaluated, whatever root is renewed. -/
theorem renew_evaluated {content : Content.Kind} (evaluated : (runtime.loader content).Evaluated) :
    ((runtime.renew tree outside kind).loader content).Evaluated := by
  cases kind <;> cases content <;> first | exact evaluated | exact evaluated.reload

/-- The table holds the roots of the caches as they led when the runtime was made, and the definitions
come from the caches. -/
structure Settled (created : File.Tree) (runtime : Runtime) : Prop where
  table : runtime.roots = rootTable created runtime.config
  scripts : runtime.scripts.root = runtime.config.scriptRoot
  behaviours : runtime.behaviours.root = runtime.config.behaviourRoot
  quests : runtime.quests.cache.root = runtime.config.questRoot
  encounters : runtime.encounters.cache.root = runtime.config.encounterRoot
  evaluated : ∀ content, (runtime.loader content).Evaluated

/-- A runtime is created with settled roots. -/
theorem settled_create (config : Config) : (create created config).Settled created := by
  constructor
  case evaluated =>
    intro content
    cases content <;> exact ⟨⟨.create Engine.standardInterval, .lowest, [], []⟩, rfl⟩
  all_goals simp only [create, Script.UnitCache.create, Content.Loader.create]

/-- Roots stay settled when one of them is renewed. -/
theorem Settled.renew (settled : runtime.Settled created) :
    (runtime.renew tree outside kind).Settled created := by
  obtain ⟨table, scripts, behaviours, quests, encounters, evaluated⟩ := settled
  have kept : ∀ content, ((runtime.renew tree outside kind).loader content).Evaluated :=
    fun content => renew_evaluated (evaluated content)
  cases kind <;> constructor <;>
    first | exact kept | simpa only [Runtime.renew, Script.UnitCache.reload_root, Content.Loader.reload_cache]

/-- Every cache holds what compiling its root now would give, and the definitions come from the caches. -/
structure Coherent (tree : File.Tree) (runtime : Runtime) : Prop where
  fresh : ∀ kind, (runtime.cache kind).Fresh tree
  evaluated : ∀ content, (runtime.loader content).Evaluated

/-- All roots are compiled one after the other. -/
def loaded (tree : File.Tree) (config : Config) : Runtime :=
  RootKind.all.foldl (fun runtime kind => runtime.renew tree ⟨.create Engine.standardInterval, .lowest, [], []⟩ kind)
    (create tree config)

/-- Loading reloads each cache once. -/
theorem loaded_cache {config : Config} :
    (loaded tree config).cache kind = (((create tree config).cache kind).reload tree).1 := by
  rw [loaded, RootKind.all]
  simp only [List.foldl_cons, List.foldl_nil]
  cases kind
  · rw [renew_other (by decide), renew_other (by decide), renew_other (by decide), renew_cache]
  · rw [renew_other (by decide), renew_other (by decide), renew_cache, renew_other (by decide)]
  · rw [renew_other (by decide), renew_cache, renew_other (by decide), renew_other (by decide)]
  · rw [renew_cache, renew_other (by decide), renew_other (by decide), renew_other (by decide)]

/-- A loaded runtime has settled roots. -/
theorem settled_loaded {config : Config} : (loaded tree config).Settled tree := by
  rw [loaded, RootKind.all]
  simp only [List.foldl_cons, List.foldl_nil]
  exact (settled_create config).renew.renew.renew.renew

/-- A loaded runtime is fresh wherever its root can be read. -/
theorem loaded_fresh {config : Config} (proper : tree.Proper)
    (readable : Script.Source.discover? tree ((create tree config).cache kind).root
      ((create tree config).cache kind).extension ≠ none) :
    ((loaded tree config).cache kind).Fresh tree := by
  rw [loaded_cache]
  apply Script.UnitCache.reload_fresh proper _ readable
  cases kind <;> simp [create, cache, Script.UnitCache.create, Script.UnitSet.empty, Content.Loader.create]

/-- The root leads to the location now as it did when it entered the table. -/
structure Leads (created tree : File.Tree) (root : Pathname) (location : Location) : Prop where
  entered : created.normalize root = Pathname.ofLocation location
  resolved : tree.resolve root = some location

/-- The table of roots lists the places that the caches lead to. -/
theorem rootTable_standing {place : RootKind → Location} (settled : runtime.Settled created)
    (leads : ∀ kind, Leads created tree (runtime.cache kind).root (place kind)) :
    runtime.roots = File.RootTable.empty.fill (File.RootTable.standing place) := by
  have entered kind := (leads kind).entered
  have scripts := entered .scripts
  have behaviours := entered .behaviours
  have quests := entered .quests
  have encounters := entered .encounters
  simp only [cache, settled.scripts, settled.behaviours, settled.quests, settled.encounters] at *
  rw [settled.table]
  simp only [rootTable, File.RootTable.insert, File.RootTable.fill, File.RootTable.standing, RootKind.all,
    List.map_cons, List.map_nil, List.foldl_cons, List.foldl_nil, scripts, behaviours, quests, encounters]

end Runtime

namespace Watching

open Run (ends_bind followed)

variable {created tree : File.Tree} {world : World} {host : Nat} {state : Host} {runtime : Runtime}
  {kind : RootKind} {place : RootKind → Location} {file : Location} {old new : List UInt8} {path : Pathname}

/-- The runtime of the host is this one. -/
def Holds (host : Nat) (runtime : Runtime) (world : World) : Prop :=
  ∃ state, world.hosts[host]? = some state ∧ state.runtime = some runtime

/-- A runtime that is held may be changed. -/
theorem ends_modifyRuntime (holds : Holds host runtime world) (change : Runtime → Runtime) :
    (Run.modifyRuntime host change).Ends world fun result after =>
      result = .ok () ∧ Holds host (change runtime) after := by
  obtain ⟨state, present, running⟩ := holds
  have placed : host < world.hosts.length := (List.getElem?_eq_some_iff.mp present).1
  refine ⟨rfl, { state with runtime := some (change runtime) }, ?_, rfl⟩
  change (world.hosts.set host _)[host]? = _
  rw [List.getElem?_set_self placed, present, Option.getD_some]
  dsimp only
  rw [running, Option.map_some]

/-- Reloading units puts the reloaded cache in the place of the old one. -/
theorem reloadUnits_renews (holds : Holds host runtime world) (cache : Script.UnitCache)
    (keep : Script.UnitCache → Runtime → Runtime) :
    (reloadUnits host cache keep).Ends world fun result after =>
      (∃ answer, result = .ok answer) ∧ Holds host (keep (cache.reload world.tree).1 runtime) after := by
  unfold reloadUnits
  simp only [ends_bind, Run.ends_get, Run.followed_ok, Run.ends_reportAll]
  apply (ends_modifyRuntime _ (keep (cache.reload world.tree).1)).mono
  · rintro _ after ⟨rfl, kept⟩
    rw [Run.followed_ok]
    split <;> exact ⟨⟨_, rfl⟩, kept⟩
  · exact holds

/-- Reloading content puts the reloaded loader in the place of the old one. -/
theorem reloadContent_renews (holds : Holds host runtime world) (content : Content.Kind) :
    (reloadContent host runtime content).Ends world fun result after =>
      (∃ answer, result = .ok answer) ∧ ∃ outside, Holds host
        (runtime.setLoader ((runtime.loader content).reload world.tree outside).1 content) after := by
  obtain ⟨state, present, running⟩ := holds
  have placed : host < world.hosts.length := (List.getElem?_eq_some_iff.mp present).1
  unfold reloadContent
  simp only [ends_bind, Run.ends_get, Run.followed_ok, Run.ends_outside]
  have left : ∀ outside, Holds host runtime (world.leave host outside) := by
    intro outside
    refine ⟨_, List.getElem?_set_self placed, ?_⟩
    rw [present]
    exact running
  apply (ends_modifyRuntime (left _) _).mono
  rintro _ after ⟨rfl, kept⟩
  exact ⟨⟨_, rfl⟩, _, kept⟩

/-- Reloading a root renews it, whatever the compiler reports. -/
theorem reloadRoot_renews (holds : Holds host runtime world) (kind : RootKind) :
    (reloadRoot host runtime kind).Ends world fun result after =>
      (∃ answer, result = .ok answer) ∧ ∃ outside, Holds host (runtime.renew world.tree outside kind) after := by
  have none' : Script.Outside := ⟨world.engine, world.draws, [], []⟩
  cases kind with
  | scripts =>
      rw [reloadRoot]
      apply (reloadUnits_renews holds _ _).mono
      exact fun _ after renewed => ⟨renewed.1, none', renewed.2⟩
  | behaviours =>
      rw [reloadRoot]
      apply (reloadUnits_renews holds _ _).mono
      exact fun _ after renewed => ⟨renewed.1, none', renewed.2⟩
  | quests =>
      rw [reloadRoot, ends_bind]
      apply (reloadContent_renews holds .quest).mono
      rintro _ after ⟨⟨answer, rfl⟩, outside, kept⟩
      rw [Run.followed_ok, Run.ends_pure]
      exact ⟨⟨_, rfl⟩, outside, kept⟩
  | encounters =>
      rw [reloadRoot, ends_bind]
      apply (reloadContent_renews holds .encounter).mono
      rintro _ after ⟨⟨answer, rfl⟩, outside, kept⟩
      rw [Run.followed_ok, Run.ends_pure]
      exact ⟨⟨_, rfl⟩, outside, kept⟩

/-- Refreshing a root renews it and returns. -/
theorem refresh_renews (holds : Holds host runtime world) (kind : RootKind) :
    (refresh host kind).Ends world fun result after =>
      result = .ok () ∧ ∃ outside, Holds host (runtime.renew world.tree outside kind) after := by
  have running : ((world.hosts[host]?).getD .core).runtime = some runtime := by
    obtain ⟨state, present, running⟩ := holds
    rw [present, Option.getD_some, running]
  unfold refresh
  simp only [ends_bind, Run.ends_runtime?, Run.followed_ok, running]
  apply (reloadRoot_renews holds kind).mono
  rintro _ after ⟨⟨answer, rfl⟩, renewed⟩
  cases answer <;> exact ⟨rfl, renewed⟩

/-- A change below a root has the root compiled again. -/
theorem pathChanged_renews (holds : Holds host runtime world)
    (classified : runtime.roots.classify world.tree path = some kind) :
    (pathChanged host runtime path).Ends world fun result after =>
      result = .ok (some kind) ∧ ∃ outside, Holds host (runtime.renew world.tree outside kind) after := by
  unfold pathChanged
  simp only [ends_bind, Run.ends_get, Run.followed_ok, classified]
  apply (refresh_renews holds kind).mono
  rintro _ after ⟨rfl, renewed⟩
  exact ⟨rfl, renewed⟩

/-- The deciding root and all roots that are not above the file are fresh again, and the caches of the
others, which are above it, hold what they held. -/
structure Refreshed (tree : File.Tree) (place : RootKind → Location) (file : Location) (kind : RootKind)
    (former runtime : Runtime) : Prop where
  fresh : ∀ other, other = kind ∨ ¬ place other <+: file → (runtime.cache other).Fresh tree
  kept : ∀ other, other ≠ kind → runtime.cache other = former.cache other
  evaluated : ∀ content, (runtime.loader content).Evaluated

/-- A cache stays fresh when a file outside its root is written. -/
theorem fresh_writeFile {cache : Script.UnitCache} {location : Location} (proper : tree.Proper)
    (held : tree.node? file = some (.file old)) (resolved : tree.resolve cache.root = some location)
    (apart : ¬ location <+: file) (fresh : cache.Fresh tree) : cache.Fresh (tree.writeFile file new) := by
  obtain ⟨afresh, compiled, same⟩ := fresh
  refine ⟨afresh, ?_, same⟩
  rw [← compiled, Script.compileAll, Script.compileAll,
    Script.Source.discover_writeFile proper held resolved apart]

/-- When a file below some root has new content, the deepest root above it is compiled again, and all
caches are coherent if no other root is above it. -/
theorem pathChanged_refreshes (proper : tree.Proper) (held : tree.node? file = some (.file old))
    (holds : Holds host runtime world) (written : world.tree = tree.writeFile file new)
    (settled : runtime.Settled created)
    (leads : ∀ kind, Runtime.Leads created tree (runtime.cache kind).root (place kind))
    (spelled : tree.normalize path = Pathname.ofLocation file) (under : ∃ kind, place kind <+: file)
    (fresh : ∀ kind, (runtime.cache kind).Fresh tree) :
    ∃ kind, kind.Decides place file ∧ (pathChanged host runtime path).Ends world fun result after =>
      result = .ok (some kind) ∧ ∃ renewed, Holds host renewed after ∧ renewed.Settled created ∧
        Refreshed world.tree place file kind runtime renewed ∧
        ((∀ other, place other <+: file → other = kind) → renewed.Coherent world.tree) := by
  have readable kind := (fresh kind).readable
  have named : ∀ kind, ∀ name ∈ place kind, File.IsName name := by
    intro kind
    obtain ⟨sources, found⟩ := Option.ne_none_iff_exists'.mp (readable kind)
    obtain ⟨location, resolved, listed, -, -⟩ := (Script.Source.discover_eq_some proper).mp found
    obtain rfl := Option.some.inj ((leads kind).resolved.symm.trans resolved)
    exact File.Tree.names_of_listable proper listed
  have entry := (File.Tree.node_iff proper (File.Tree.filled_of_file held)).mp held
  have along : ∀ name ∈ file, File.IsName name := proper.named _ entry
  -- The root was chosen in the tree before the change, but the path is resolved in the tree after it.
  obtain ⟨kind, classified, decides⟩ := File.RootTable.classify_standing named along under
  refine ⟨kind, decides, ?_⟩
  rw [← Runtime.rootTable_standing settled leads, ← spelled,
    ← File.Tree.writeFile_normalize proper held new, ← written] at classified
  apply (pathChanged_renews holds classified).mono
  rintro _ after ⟨rfl, outside, kept⟩
  have refreshed : Refreshed world.tree place file kind runtime (runtime.renew world.tree outside kind) := by
    refine ⟨?_, fun other apart => Runtime.renew_other apart,
      fun content => Runtime.renew_evaluated (settled.evaluated content)⟩
    intro other
    by_cases same : other = kind
    · subst same
      intro _
      rw [Runtime.renew_cache, written]
      apply Script.UnitCache.reload_fresh (File.Tree.writeFile_proper proper held new)
      · exact (fresh other).faithful proper
      · exact (Script.Source.discover_writeFile_eq_none proper held).not.mpr (readable other)
    · intro apart
      rw [Runtime.renew_other same, written]
      exact fresh_writeFile proper held (leads other).resolved (apart.resolve_left same) (fresh other)
  refine ⟨rfl, _, kept, settled.renew, refreshed, fun alone => ⟨?_, refreshed.evaluated⟩⟩
  intro other
  apply refreshed.fresh
  by_cases above : place other <+: file
  · exact Or.inl (alone other above)
  · exact Or.inr above

def soundDoor : List UInt8 := "let x = 1;".toUTF8.toList

def spoiltDoor : List UInt8 := "let = ;".toUTF8.toList

/-- The root of the behaviours lies in the root of the scripts and holds one behaviour. -/
def nestedFiles : File.Tree where
  entries := [(["all"], .directory true), (["all", "behaviours"], .directory true),
    (["all", "behaviours", "door.rhai"], .file soundDoor), (["quests"], .directory true),
    (["encounters"], .directory true)]
  working := []

def nestedConfig : Config :=
  { Config.standard with
    scriptRoot := ⟨"/all"⟩
    behaviourRoot := ⟨"/all/behaviours"⟩
    questRoot := ⟨"/quests"⟩
    encounterRoot := ⟨"/encounters"⟩ }

def nestedPlace : RootKind → Location
  | .scripts => ["all"]
  | .behaviours => ["all", "behaviours"]
  | .quests => ["quests"]
  | .encounters => ["encounters"]

/-- The behaviour has been spoilt since its root was compiled. -/
def spoiltWorld : World :=
  { World.create (nestedFiles.writeFile ["all", "behaviours", "door.rhai"] spoiltDoor) .lowest with
    hosts := [.core, .create [] standardCap (some (Runtime.loaded nestedFiles nestedConfig))] }

/-- The nested files are a proper tree. -/
theorem nestedFiles_proper : nestedFiles.Proper := by
  constructor <;> decide +kernel

/-- The changed file stands in the tree. -/
theorem nested_held : nestedFiles.node? ["all", "behaviours", "door.rhai"] = some (.file soundDoor) := by
  decide +kernel

/-- Every cache is fresh before the change. -/
theorem nested_fresh (kind : RootKind) :
    ((Runtime.loaded nestedFiles nestedConfig).cache kind).Fresh nestedFiles := by
  apply Runtime.loaded_fresh nestedFiles_proper
  cases kind <;> decide +kernel

/-- The host holds the loaded runtime when the file has changed. -/
theorem nested_holds : Holds 1 (Runtime.loaded nestedFiles nestedConfig) spoiltWorld :=
  ⟨_, rfl, rfl⟩

/-- Of two roots that lie in each other only the deeper one is refreshed. -/
theorem pathChanged_refreshes_nested : nestedFiles.Proper ∧
    (∀ kind, ((Runtime.loaded nestedFiles nestedConfig).cache kind).Fresh nestedFiles) ∧
    ∃ kind : RootKind, kind.Decides nestedPlace ["all", "behaviours", "door.rhai"] ∧
      (pathChanged 1 (Runtime.loaded nestedFiles nestedConfig) ⟨"/all/behaviours/door.rhai"⟩).Ends spoiltWorld
        fun result after => result = .ok (some kind) ∧ ∃ renewed, Holds 1 renewed after ∧
          renewed.Settled nestedFiles ∧
          Refreshed spoiltWorld.tree nestedPlace ["all", "behaviours", "door.rhai"] kind
            (Runtime.loaded nestedFiles nestedConfig) renewed ∧
          ((∀ other, nestedPlace other <+: ["all", "behaviours", "door.rhai"] → other = kind) →
            renewed.Coherent spoiltWorld.tree) := by
  have leads : ∀ kind, Runtime.Leads nestedFiles nestedFiles
      ((Runtime.loaded nestedFiles nestedConfig).cache kind).root (nestedPlace kind) := by
    intro kind
    rw [Runtime.loaded_cache, Script.UnitCache.reload_root]
    cases kind <;> constructor <;> decide +kernel
  exact ⟨nestedFiles_proper, nested_fresh, pathChanged_refreshes
    nestedFiles_proper nested_held nested_holds rfl Runtime.settled_loaded leads (by decide +kernel)
    ⟨.behaviours, by decide⟩ nested_fresh⟩

/-- The outer root has been told of nothing, so it still holds the unit that is spoilt. -/
theorem pathChanged_outer_stale :
    (∀ kind, ((Runtime.loaded nestedFiles nestedConfig).cache kind).Fresh nestedFiles) ∧
    nestedFiles.node? ["all", "behaviours", "door.rhai"] = some (.file soundDoor) ∧
    (pathChanged 1 (Runtime.loaded nestedFiles nestedConfig) ⟨"/all/behaviours/door.rhai"⟩).Ends spoiltWorld
      fun result after => result = .ok (some .behaviours) ∧
        ∃ renewed, Holds 1 renewed after ∧ ¬ (renewed.cache .scripts).Fresh spoiltWorld.tree := by
  refine ⟨nested_fresh, nested_held, ?_⟩
  have classified : (Runtime.loaded nestedFiles nestedConfig).roots.classify spoiltWorld.tree
      ⟨"/all/behaviours/door.rhai"⟩ = some .behaviours := by
    rw [Runtime.settled_loaded.table]
    decide +kernel
  have spoilt_proper : spoiltWorld.tree.Proper := File.Tree.writeFile_proper nestedFiles_proper nested_held spoiltDoor
  have before : Script.Source.discover? nestedFiles ⟨"/all"⟩ "rhai" =
      some [⟨["behaviours", "door.rhai"], soundDoor⟩] := by
    have listed : nestedFiles.list? ⟨"/all"⟩ = some [(["behaviours", "door.rhai"], soundDoor)] := by
      decide +kernel
    exact Script.Source.discover_listed listed (by decide +kernel) (List.Perm.refl _) (by decide)
  have now : Script.Source.discover? spoiltWorld.tree ⟨"/all"⟩ "rhai" =
      some [⟨["behaviours", "door.rhai"], spoiltDoor⟩] := by
    have listed : spoiltWorld.tree.list? ⟨"/all"⟩ = some [(["behaviours", "door.rhai"], spoiltDoor)] := by
      decide +kernel
    exact Script.Source.discover_listed listed (by decide +kernel) (List.Perm.refl _) (by decide)
  apply (pathChanged_renews nested_holds classified).mono
  rintro _ after ⟨rfl, outside, kept⟩
  refine ⟨rfl, _, kept, ?_⟩
  rw [Runtime.renew_other (by decide)]
  intro fresh
  have root : ((Runtime.loaded nestedFiles nestedConfig).cache .scripts).root = ⟨"/all"⟩ :=
    Runtime.settled_loaded.scripts
  have extension : ((Runtime.loaded nestedFiles nestedConfig).cache .scripts).extension = "rhai" := by
    rw [Runtime.loaded_cache, Script.UnitCache.reload_extension]
    decide +kernel
  have former := (nested_fresh .scripts).units nestedFiles_proper (by rw [root, extension, before])
  have latter := fresh.units spoilt_proper (by rw [root, extension, now])
  rw [root] at former latter
  have lengths := congrArg List.length (former.symm.trans latter)
  revert lengths
  decide +kernel

end Watching

end Session

end ScriptHost

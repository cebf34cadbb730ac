/-
This file tells runtimes about changed files and reloads the roots that have changed.
-/
import ScriptHost.Session.World

namespace ScriptHost.Session

open File (Pathname RootKind)

namespace Runtime

/-- The four caches of a runtime, each under the kind of its root. -/
def cache (runtime : Runtime) : RootKind → Script.UnitCache
  | .scripts => runtime.scripts
  | .behaviours => runtime.behaviours
  | .quests => runtime.quests.cache
  | .encounters => runtime.encounters.cache

def loader (runtime : Runtime) : Content.Kind → Content.Loader
  | .quest => runtime.quests
  | .encounter => runtime.encounters

def setLoader (runtime : Runtime) (loader : Content.Loader) : Content.Kind → Runtime
  | .quest => { runtime with quests := loader }
  | .encounter => { runtime with encounters := loader }

end Runtime

namespace Watching

def reloadContent (host : Nat) (runtime : Runtime) (kind : Content.Kind) :
    Run (Except Script.Error Content.Loaded) := do
  let tree := (← get).tree
  let (loader, result) ← Run.outside host fun outside =>
    let (loader, outside, result) := (runtime.loader kind).reload tree outside
    ((loader, result), outside)
  Run.modifyRuntime host fun runtime => runtime.setLoader loader kind
  return result

def reloadUnits (host : Nat) (cache : Script.UnitCache)
    (keep : Script.UnitCache → Runtime → Runtime) : Run (Option Script.Error) := do
  let (cache, records, result) := cache.reload (← get).tree
  Run.reportAll records
  Run.modifyRuntime host (keep cache)
  match result with
  | .ok _ => return none
  | .error error => return some error

def errorOf {α : Type} : Except Script.Error α → Option Script.Error
  | .ok _ => none
  | .error error => some error

/-- The whole root is compiled again. -/
def reloadRoot (host : Nat) (runtime : Runtime) (kind : RootKind) : Run (Option Script.Error) :=
  match kind with
  | .scripts => reloadUnits host runtime.scripts fun scripts runtime => { runtime with scripts }
  | .behaviours =>
      reloadUnits host runtime.behaviours fun behaviours runtime => { runtime with behaviours }
  | .quests => do return errorOf (← reloadContent host runtime .quest)
  | .encounters => do return errorOf (← reloadContent host runtime .encounter)

def reloadRecord (kind : RootKind) (error : Script.Error) : TraceRecord :=
  failure "watch" s!"reload failed: {error.message}" [("root", kind.label)]

/-- A root that cannot be reloaded is reported, and its old units stay. -/
def refresh (host : Nat) (kind : RootKind) : Run Unit := do
  match ← Run.runtime? host with
  | none => return ()
  | some runtime =>
      match ← reloadRoot host runtime kind with
      | none => return ()
      | some error => Run.report (reloadRecord kind error)

def refreshAll (host : Nat) : List RootKind → Run Unit
  | [] => return ()
  | kind :: rest => do
      refresh host kind
      refreshAll host rest

def pathChanged (host : Nat) (runtime : Runtime) (path : Pathname) : Run (Option RootKind) := do
  match runtime.roots.classify (← get).tree path with
  | none => return none
  | some kind =>
      refresh host kind
      return some kind

def notWatchedRecord (root : Pathname) (error : File.WatchError) : TraceRecord :=
  warning "watch" s!"not watching: {error.chain}" [("root", root.text)]

/-- A root that does not exist is left out. -/
def watchRoots (tree : File.Tree) : File.Watcher → List (Pathname × RootKind) →
    File.Watcher × List TraceRecord
  | watcher, [] => (watcher, [])
  | watcher, (root, kind) :: rest =>
      match watcher.watchRoot tree (fun _ => none) root kind with
      | (watcher, .ok ()) => watchRoots tree watcher rest
      | (watcher, .error error) =>
          let (watcher, records) := watchRoots tree watcher rest
          (watcher, notWatchedRecord root error :: records)

def begin (host : Nat) (runtime : Runtime) : Run Unit := do
  let (watcher, records) := watchRoots (← get).tree .empty runtime.roots.roots
  Run.reportAll records
  Run.modifyRuntime host fun runtime => { runtime with watch := some ⟨watcher, []⟩ }

def covers (watcher : File.Watcher) (path : Pathname) : Bool :=
  watcher.watched.any path.startsWith

/-- Changes below no watched root go unnoticed. -/
def notice (paths : List Pathname) (watch : Watch) : Watch :=
  { watch with changes := watch.changes ++ paths.filter (covers watch.watcher) }

def changeHost (change : Watch → Watch) (host : Host) : Host :=
  { host with
    runtime := host.runtime.map fun runtime => { runtime with watch := runtime.watch.map change } }

def changeWatches (change : Watch → Watch) : Run Unit :=
  modify fun world =>
    { world with
      hosts := world.hosts.map (changeHost change)
      threads := world.threads.map fun thread => { thread with watch := change thread.watch } }

def changed (paths : List Pathname) : Run Unit :=
  changeWatches (notice paths)

/-- The watch of a root ends when the root is removed, even if it is made anew. -/
def forget (removed : Pathname) (watch : Watch) : Watch :=
  { watch with
    watcher := { watch.watcher with
      watched := watch.watcher.watched.filter fun root => !root.startsWith removed } }

def removed (top : Pathname) (paths : List Pathname) : Run Unit := do
  changed paths
  changeWatches (forget top)

/-- Each kind is named once, in the order of the kinds. -/
def drained (tree : File.Tree) (watch : Watch) : List RootKind :=
  let kinds := watch.changes.filterMap (watch.watcher.table.classify tree)
  RootKind.all.filter kinds.contains

def poll (host : Nat) (runtime : Runtime) : Run (List RootKind) := do
  match runtime.watch with
  | none => return []
  | some watch =>
      let kinds := drained (← get).tree watch
      Run.modifyRuntime host fun runtime => { runtime with watch := some { watch with changes := [] } }
      refreshAll host kinds
      return kinds

/-- The watch is handed over once. -/
def handOver (host : Nat) (runtime : Runtime) : Run (Option Bool) := do
  match runtime.watch with
  | none => return none
  | some watch =>
      Run.modifyRuntime host fun runtime => { runtime with watch := none }
      modify fun world => { world with threads := world.threads ++ [⟨host, watch, true⟩] }
      return some true

/-- A thread that was stopped, or whose host was freed, reloads nothing. -/
def catchUp (thread : Thread) : Run Thread := do
  if thread.running ∧ ¬ (← Run.host thread.host).freed then
    refreshAll thread.host (drained (← get).tree thread.watch)
  return { thread with watch := { thread.watch with changes := [] } }

def catchUpAll : List Thread → Run (List Thread)
  | [] => return []
  | thread :: rest => do
      let thread ← catchUp thread
      let rest ← catchUpAll rest
      return thread :: rest

/-- This waits until the threads have seen to all changes. -/
def settle : Run Unit := do
  let threads ← catchUpAll (← get).threads
  modify fun world => { world with threads }

def stop : Run (List Bool) := do
  let threads := (← get).threads.map fun thread => { thread with running := false }
  modify fun world => { world with threads }
  return threads.map Thread.running

end Watching

end ScriptHost.Session

/-
This file shows which commands neither call hooks nor touch what keeps hooks.
-/
import ScriptHost.Proofs.Session.Plain

namespace ScriptHost.Session

open File (Pathname RootKind)
open Run (Plain plain_pure plain_throw plain_get plain_host plain_modify plain_modifyHost plain_runtime?
  plain_modifyRuntime plain_reportAll plain_report plain_outside plain_modifyEngine plain_setTree
  plain_modifyNames)

namespace Binding

/-- Reading a key is plain. -/
theorem readKey_plain (entity : Entity) (key : String) : Plain (readKey entity key) := by
  apply plain_get
  · intro world other sees
    rw [sees.engine]
  · intro world
    dsimp only
    split
    · exact plain_throw _
    · split
      · exact plain_pure _
      · exact (plain_report _).bind fun _ => plain_pure _

/-- Reading names is plain. -/
theorem readNames_plain (entity : Entity) (key : String) (parse : String → Option (List String)) :
    Plain (readNames entity key parse) := by
  apply (readKey_plain entity key).bind
  intro value
  cases value with
  | none => exact plain_pure _
  | some text =>
      cases parsed : parse text with
      | some names => simpa only [parsed] using plain_pure (some names)
      | none => simpa only [parsed] using (plain_report _).bind fun _ => plain_pure none

/-- Reading what an entity declares is plain. -/
theorem declared_plain (entity : Entity) : Plain (declared entity) := by
  apply (readNames_plain entity _ _).bind
  intro record
  cases record with
  | some names => exact plain_pure _
  | none =>
      apply (readNames_plain entity _ _).bind
      intro listed
      cases listed <;> exact plain_pure _

end Binding

namespace Watching

/-- Content is reloaded plainly. -/
theorem reloadContent_plain (host : Nat) (runtime : Runtime) (kind : Content.Kind) :
    Plain (reloadContent host runtime kind) := by
  apply plain_get
  · intro world other sees
    rw [sees.tree]
  · intro world
    apply (plain_outside host _).bind
    intro loaded
    have kept : Plain (Run.modifyRuntime host fun runtime => runtime.setLoader loaded.1 kind) := by
      apply plain_modifyRuntime <;> intro runtime <;> cases kind <;> rfl
    exact kept.bind fun _ => plain_pure _

/-- Units are reloaded plainly if the runtime keeps its state. -/
theorem reloadUnits_plain (host : Nat) (cache : Script.UnitCache)
    {keep : Script.UnitCache → Runtime → Runtime}
    (state : ∀ cache runtime, (keep cache runtime).state = runtime.state)
    (listener : ∀ cache runtime, (keep cache runtime).listener = runtime.listener) :
    Plain (reloadUnits host cache keep) := by
  apply plain_get
  · intro world other sees
    rw [sees.tree]
  · intro world
    apply (plain_reportAll _).bind
    intro _
    apply (plain_modifyRuntime host (state _) (listener _)).bind
    intro _
    split <;> exact plain_pure _

/-- A root of any kind is reloaded plainly. -/
theorem reloadRoot_plain (host : Nat) (runtime : Runtime) (kind : RootKind) :
    Plain (reloadRoot host runtime kind) := by
  unfold reloadRoot
  cases kind with
  | scripts => exact reloadUnits_plain host _ (fun _ _ => rfl) fun _ _ => rfl
  | behaviours => exact reloadUnits_plain host _ (fun _ _ => rfl) fun _ _ => rfl
  | quests =>
      apply (reloadContent_plain host runtime .quest).bind
      exact fun _ => plain_pure _
  | encounters =>
      apply (reloadContent_plain host runtime .encounter).bind
      exact fun _ => plain_pure _

/-- A kind is refreshed plainly. -/
theorem refresh_plain (host : Nat) (kind : RootKind) : Plain (refresh host kind) := by
  apply (plain_runtime? host).bind
  intro runtime
  cases runtime with
  | none => exact plain_pure _
  | some runtime =>
      apply (reloadRoot_plain host runtime kind).bind
      intro failed
      cases failed with
      | none => exact plain_pure _
      | some error => exact plain_report _

/-- Several kinds are refreshed plainly. -/
theorem refreshAll_plain (host : Nat) (kinds : List RootKind) : Plain (refreshAll host kinds) := by
  induction kinds with
  | nil => exact plain_pure _
  | cons kind rest ih => exact (refresh_plain host kind).bind fun _ => ih

/-- A changed path is followed up plainly. -/
theorem pathChanged_plain (host : Nat) (runtime : Runtime) (path : Pathname) :
    Plain (pathChanged host runtime path) := by
  apply plain_get
  · intro world other sees
    rw [sees.tree]
  · intro world
    split
    · exact plain_pure _
    · exact (refresh_plain host _).bind fun _ => plain_pure _

/-- A watch begins plainly. -/
theorem begin_plain (host : Nat) (runtime : Runtime) : Plain (begin host runtime) := by
  apply plain_get
  · intro world other sees
    rw [sees.tree]
  · intro world
    apply (plain_reportAll _).bind
    intro _
    exact plain_modifyRuntime host (fun _ => rfl) fun _ => rfl

/-- Watches change plainly. -/
theorem changeWatches_plain (change : Watch → Watch) : Plain (changeWatches change) := by
  apply plain_modify
  · intro world other sees
    refine { sees with
      threads := congrArg (List.map _) sees.threads
      hosts := List.forall₂_map_left_iff.mpr (List.forall₂_map_right_iff.mpr (sees.hosts.imp ?_)) }
    intro host other same
    exact ⟨same.log, by rw [changeHost, changeHost, same.runtime], same.freed⟩
  · intro world
    refine { World.Spares.refl world with hosts := ?_ }
    rw [List.forall₂_map_right_iff, List.forall₂_same]
    intro host _
    refine { Host.Spares.refl host with state := ?_, listener := ?_ } <;>
      (change (host.runtime.map _).map _ = _; cases host.runtime <;> rfl)

/-- Changed paths are noted plainly. -/
theorem changed_plain (paths : List Pathname) : Plain (changed paths) := changeWatches_plain _

/-- Removed paths are noted plainly. -/
theorem removed_plain (top : Pathname) (paths : List Pathname) : Plain (removed top paths) :=
  (changed_plain paths).bind fun _ => changeWatches_plain _

/-- Polling is plain. -/
theorem poll_plain (host : Nat) (runtime : Runtime) : Plain (poll host runtime) := by
  unfold poll
  cases runtime.watch with
  | none => exact plain_pure _
  | some watch =>
      apply plain_get
      · intro world other sees
        rw [sees.tree]
      · intro world
        have taken : Plain (Run.modifyRuntime host fun runtime =>
            { runtime with watch := some { watch with changes := [] } }) :=
          plain_modifyRuntime host (fun _ => rfl) fun _ => rfl
        exact taken.bind fun _ => (refreshAll_plain host _).bind fun _ => plain_pure _

/-- A watch is handed over plainly. -/
theorem handOver_plain (host : Nat) (runtime : Runtime) : Plain (handOver host runtime) := by
  unfold handOver
  cases runtime.watch with
  | none => exact plain_pure _
  | some watch =>
      have taken : Plain (Run.modifyRuntime host fun runtime => { runtime with watch := none }) :=
        plain_modifyRuntime host (fun _ => rfl) fun _ => rfl
      have threaded : Plain (modify fun world : World =>
          { world with threads := world.threads ++ [⟨host, watch, true⟩] } : Run Unit) :=
        plain_modify (fun _ _ sees => { sees with threads := congrArg (· ++ _) sees.threads })
          fun world => { World.Spares.refl world with }
      exact taken.bind fun _ => threaded.bind fun _ => plain_pure _

/-- A thread catches up plainly. -/
theorem catchUp_plain (thread : Thread) : Plain (catchUp thread) := by
  apply plain_host
  · intro host other sees
    rw [sees.freed]
  · intro host
    split
    · apply plain_get
      · intro world other sees
        rw [sees.tree]
      · exact fun world => (refreshAll_plain _ _).bind fun _ => plain_pure _
    · exact plain_pure _

/-- Several threads catch up plainly. -/
theorem catchUpAll_plain (threads : List Thread) : Plain (catchUpAll threads) := by
  induction threads with
  | nil => exact plain_pure _
  | cons thread rest ih =>
      exact (catchUp_plain thread).bind fun _ => ih.bind fun _ => plain_pure _

/-- Threads are replaced plainly. -/
theorem setThreads_plain (threads : List Thread) :
    Plain (modify fun world : World => { world with threads } : Run Unit) :=
  plain_modify (fun _ _ sees => { sees with threads := rfl }) fun world => { World.Spares.refl world with }

/-- Settling is plain. -/
theorem settle_plain : Plain settle := by
  apply plain_get
  · intro world other sees
    rw [sees.threads]
  · exact fun world => (catchUpAll_plain _).bind fun _ => setThreads_plain _

/-- Stopping threads is plain. -/
theorem stop_plain : Plain stop := by
  apply plain_get
  · intro world other sees
    rw [sees.threads]
  · exact fun world => (setThreads_plain _).bind fun _ => plain_pure _

end Watching

/-- Roots are loaded plainly. -/
theorem Lifecycle.loadRoots_plain (host : Nat) (kinds : List RootKind) :
    Plain (loadRoots host kinds) := by
  induction kinds with
  | nil => exact plain_pure _
  | cons kind rest ih =>
      apply (plain_runtime? host).bind
      intro runtime
      cases runtime with
      | none => exact plain_pure _
      | some runtime =>
          apply (Watching.reloadRoot_plain host runtime kind).bind
          intro failed
          cases failed with
          | none => exact ih
          | some error => exact (plain_report _).bind fun _ => ih

/-- This is what is left of a shutdown once the runtime has no listener any more. -/
def Lifecycle.close (call : Caller) (host : Nat) : Run Bool := do
  discard (Events.unhookTicks host)
  Run.modifyRuntime host fun runtime => { runtime with watch := none }
  Run.note (.shutDownBegan host)
  discard (Scheduler.shutDown call host)
  modify fun world => { world with claimed := false }
  return true

/-- These commands call hooks, or they touch what keeps hooks. -/
def Operation.stirs : Operation → Bool
  | .subscribe .. | .subscribeRaw .. | .unsubscribe .. | .subscribers _ | .dropped
  | .publish _ | .publishRaw .. | .hookTicks | .unhookTicks | .ticksHooked
  | .addListener .. | .removeListener _ | .listeners | .clock | .driveScheduler _
  | .registerSystem .. | .registerBehaviour .. | .unregister _ | .isRegistered _ | .behaviour _
  | .slot _ | .hasBinding .. | .bindings | .systems | .counts
  | .purgeBehaviours | .purgeEntity _ | .shutDownScheduler | .tick _
  | .setBinder .. | .factory _ | .bindAll
  | .newRuntime .. | .dropRuntime | .startRuntime | .shutDownRuntime | .reloadScene => true
  | _ => false

namespace Perform

/-- A command on an entity is plain if it is so for every entity. -/
theorem withEntity_plain (name : EntityName) {body : Entity → Run Answer}
    (each : ∀ entity, Plain (body entity)) : Plain (withEntity name body) := by
  unfold withEntity
  cases name with
  | number entity => exact each entity
  | name text =>
      apply plain_get
      · intro world other sees
        rw [sees.names]
      · intro world
        split
        · exact each _
        · exact plain_pure _

/-- A command on a runtime is plain if it is so for every runtime. -/
theorem withRuntime_plain (host : String) {body : Nat → Runtime → Run Answer}
    (each : ∀ id runtime, Plain (body id runtime)) : Plain (withRuntime host body) := by
  apply plain_get
  · intro world other sees
    rw [sees.names]
  · intro world
    split
    · exact plain_pure _
    · apply (plain_runtime? _).bind
      intro runtime
      split
      · exact each _ _
      · exact plain_pure _

/-- The name stands for a host, and the host has a runtime. -/
theorem withRuntime_run {name : String} {body : Nat → Runtime → Run Answer} {world : World} {host : Nat}
    {runtime : Runtime} (found : world.names.hosts.lookup name = some host)
    (running : ((world.hosts[host]?).getD .core).runtime = some runtime) :
    (withRuntime name body).run.run world = (body host runtime).run.run world := by
  unfold withRuntime
  rw [Stateful.run_get, found]
  have looked : (Run.runtime? host).run.run world = (.ok (some runtime), world) := by
    rw [← running]
    rfl
  dsimp only
  rw [Stateful.run_bind, looked]

/-- A command on a cache is plain if it is so for every cache. -/
theorem withCache_plain (name : String) {body : Script.UnitCache → Run Answer}
    (each : ∀ cache, Plain (body cache)) : Plain (withCache name body) := by
  apply plain_get
  · intro world other sees
    rw [sees.names]
  · intro world
    split
    · exact each _
    · exact plain_pure _

/-- A command on a loader is plain if it is so for every loader. -/
theorem withLoader_plain (name : String) {body : Content.Loader → Run Answer}
    (each : ∀ loader, Plain (body loader)) : Plain (withLoader name body) := by
  apply plain_get
  · intro world other sees
    rw [sees.names]
  · intro world
    split
    · exact each _
    · exact plain_pure _

/-- A change of the engine is answered plainly. -/
theorem change_plain (act : Engine → Engine × Except NativeError Unit) : Plain (change act) := by
  apply plain_get
  · intro world other sees
    rw [sees.engine]
  · intro world
    apply (plain_modifyEngine _).bind
    intro _
    split <;> exact plain_pure _

/-- A look at the engine is answered plainly. -/
theorem look_plain {α : Type} (shape : α → Answer) (act : Engine → Except NativeError α) :
    Plain (look shape act) := by
  apply plain_get
  · intro world other sees
    rw [sees.engine]
  · intro world
    split <;> exact plain_pure _

/-- A switch of the engine is set plainly. -/
theorem switch_plain (change : Engine → Engine) : Plain (switch change) :=
  (plain_modifyEngine change).bind fun _ => plain_pure _

/-- An answer that is read off the engine. -/
theorem ask_plain (answer : Engine → Answer) :
    Plain (do return answer (← get).engine : Run Answer) :=
  plain_get (fun _ _ sees => by rw [sees.engine]) fun _ => plain_pure _

/-- An entity is named plainly. -/
theorem nameEntity_plain (name : Option String) (entity : Entity) :
    Plain (Run.nameEntity name entity) := by
  cases name with
  | none => exact plain_pure _
  | some name => exact plain_modifyNames fun _ => rfl

/-- A set is named plainly. -/
theorem nameSet_plain (name : Option String) (set : Script.UnitSet) : Plain (Run.nameSet name set) := by
  cases name with
  | none => exact plain_pure _
  | some name => exact plain_modifyNames fun _ => rfl

/-- A handle is named plainly. -/
theorem nameHandle_plain (name : String) (handle : Handle) : Plain (Run.nameHandle name handle) :=
  plain_modifyNames fun _ => rfl

/-- A cache is named plainly. -/
theorem nameCache_plain (name : String) (cache : Script.UnitCache) : Plain (Run.nameCache name cache) :=
  plain_modifyNames fun _ => rfl

/-- A loader is named plainly. -/
theorem nameLoader_plain (name : String) (loader : Content.Loader) :
    Plain (Run.nameLoader name loader) :=
  plain_modifyNames fun _ => rfl

/-- An entity is spawned plainly. -/
theorem spawn_plain (name : Option String) (data : List (String × String)) : Plain (spawn name data) := by
  apply plain_get
  · intro world other sees
    rw [sees.engine]
  · intro world
    exact (plain_modifyEngine _).bind fun _ => (nameEntity_plain name _).bind fun _ => plain_pure _

/-- An entity is created plainly. -/
theorem create_plain (name : Option String) : Plain (create name) := by
  apply plain_get
  · intro world other sees
    rw [sees.engine]
  · intro world
    apply (plain_modifyEngine _).bind
    intro _
    split
    · exact (nameEntity_plain name _).bind fun _ => plain_pure _
    · exact plain_pure _

/-- Data are read plainly, and the engine may panic. -/
theorem getData_plain (key : String) (entity : Entity) : Plain (getData key entity) := by
  apply plain_get
  · intro world other sees
    rw [sees.engine]
  · intro world
    split
    · exact plain_throw _
    · exact look_plain _ _

/-- A file is written plainly. -/
theorem write_plain (location : File.Location) (content : List UInt8) : Plain (write location content) := by
  apply plain_get
  · intro world other sees
    rw [sees.tree]
  · intro world
    exact (plain_setTree _).bind fun _ => (Watching.changed_plain _).bind fun _ => plain_pure _

/-- A file is dropped in plainly. -/
theorem dropIn_plain (location : File.Location) (content : List UInt8) :
    Plain (dropIn location content) := by
  apply plain_get
  · intro world other sees
    rw [sees.tree]
  · intro world
    dsimp only
    split
    · exact (plain_setTree _).bind fun _ => (Watching.changed_plain _).bind fun _ => plain_pure _
    · exact (plain_setTree _).bind fun _ => (Watching.changed_plain _).bind fun _ => plain_pure _

/-- A directory is made plainly. -/
theorem makeDirectory_plain (location : File.Location) : Plain (makeDirectory location) := by
  apply plain_get
  · intro world other sees
    rw [sees.tree]
  · intro world
    dsimp only
    split
    · exact plain_pure _
    · exact (plain_setTree _).bind fun _ => (Watching.changed_plain _).bind fun _ => plain_pure _

/-- A file is removed plainly. -/
theorem remove_plain (location : File.Location) : Plain (remove location) := by
  apply plain_get
  · intro world other sees
    rw [sees.tree]
  · intro world
    dsimp only
    split
    · exact (plain_setTree _).bind fun _ => (Watching.removed_plain _ _).bind fun _ => plain_pure _
    · exact plain_pure _

/-- A root is compiled plainly. -/
theorem compile_plain (root : Pathname) (extension : String) (previous name : Option String) :
    Plain (compile root extension previous name) := by
  apply plain_get
  · intro world other sees
    rw [sees.tree, sees.names]
  · intro world
    dsimp only
    split
    · exact plain_pure _
    · exact (nameSet_plain name _).bind fun _ => plain_pure _

/-- A cache is reloaded plainly. -/
theorem reloadCache_plain (name : String) (cache : Script.UnitCache) : Plain (reloadCache name cache) := by
  apply plain_get
  · intro world other sees
    rw [sees.tree]
  · intro world
    apply (plain_reportAll _).bind
    intro _
    apply (nameCache_plain name _).bind
    intro _
    split <;> exact plain_pure _

/-- Lines are taken from the log plainly. -/
theorem takeLogs_plain (host : Nat) : Plain (takeLogs host) := by
  apply plain_host
  · intro host other sees
    rw [sees.log]
  · intro state
    have emptied : Plain (Run.modifyHost host fun host => { host with log := [] }) :=
      plain_modifyHost host (fun _ _ sees => { sees with log := rfl }) fun host =>
        { Host.Spares.refl host with }
    exact emptied.bind fun _ => plain_pure _

/-- The units of a cache run plainly. -/
theorem runUnits_plain (cache : Script.UnitCache) (signal : Tick.Signal) :
    Plain (runUnits cache signal) :=
  (plain_outside 0 _).bind fun _ => (takeLogs_plain 0).bind fun _ => plain_pure _

/-- A loader is reloaded plainly. -/
theorem reloadLoader_plain (name : String) (loader : Content.Loader) :
    Plain (reloadLoader name loader) := by
  apply plain_get
  · intro world other sees
    rw [sees.tree]
  · intro world
    apply (plain_outside 0 _).bind
    intro loaded
    apply (nameLoader_plain name _).bind
    intro _
    split <;> exact plain_pure _

variable (call : Caller)

/-- Operations on the engine are plain. -/
theorem engineOperation_plain (operation : Operation) : Plain (engineOperation operation) := by
  cases operation with
  | spawn name data => exact spawn_plain name data
  | create name => exact create_plain name
  | destroy entity => exact withEntity_plain _ fun _ => change_plain _
  | setData entity key value => exact withEntity_plain _ fun _ => change_plain _
  | removeData entity key => exact withEntity_plain _ fun _ => change_plain _
  | setComponent entity key value => exact withEntity_plain _ fun _ => change_plain _
  | getData entity key => exact withEntity_plain _ fun _ => getData_plain key _
  | getComponent entity key => exact withEntity_plain _ fun _ => look_plain _ _
  | alive entity => exact withEntity_plain _ fun entity => ask_plain fun engine => .truth (engine.isAlive entity)
  | live cap => exact look_plain _ _
  | entityCount => exact ask_plain fun engine => .count engine.store.count
  | data entity => exact withEntity_plain _ fun entity => ask_plain fun engine => .data (engine.entries entity)
  | declared entity =>
      exact withEntity_plain _ fun entity => (Binding.declared_plain entity).bind fun _ => plain_pure _
  | failKey key => exact switch_plain _
  | clearFailures => exact switch_plain _
  | setInterval interval => exact switch_plain _
  | interval => exact ask_plain fun engine => .interval engine.interval
  | failLive code => exact switch_plain _
  | failCreate code => exact switch_plain _
  | panicKey key => exact switch_plain _
  | _ => exact plain_pure _

/-- Operations on files that stir nothing are plain. -/
theorem fileOperation_plain (host : Nat) {operation : Operation} (calm : operation.stirs = false) :
    Plain (fileOperation call host operation) := by
  cases operation with
  | write location content => exact write_plain location content
  | dropIn location content => exact dropIn_plain location content
  | makeDirectory location => exact makeDirectory_plain location
  | remove location => exact remove_plain location
  | compile root extension previous name => exact compile_plain root extension previous name
  | newCache name root extension => exact (nameCache_plain name _).bind fun _ => plain_pure _
  | reloadCache cache => exact withCache_plain cache (reloadCache_plain cache)
  | describeCache cache => exact withCache_plain cache fun _ => plain_pure _
  | cacheHas cache unit => exact withCache_plain cache fun _ => plain_pure _
  | runUnits cache signal => exact withCache_plain cache fun _ => runUnits_plain _ signal
  | newLoader name kind root extension => exact (nameLoader_plain name _).bind fun _ => plain_pure _
  | reloadLoader loader => exact withLoader_plain loader (reloadLoader_plain loader)
  | definitions loader => exact withLoader_plain loader fun _ => plain_pure _
  | definition loader id => exact withLoader_plain loader fun _ => plain_pure _
  | decode event payload => exact plain_pure _
  | _ => first | exact engineOperation_plain _ | cases calm

/-- Commands that stir nothing depend on what they see, and spare the rest. -/
theorem operate_plain (name : String) (host : Nat) {operation : Operation}
    (calm : operation.stirs = false) : Plain (operate call name host operation) := by
  cases operation with
  | say text => exact plain_pure _
  | runtimeState => exact withRuntime_plain name fun _ _ => plain_pure _
  | claimed => exact plain_get (fun _ _ sees => by rw [sees.claimed]) fun _ => plain_pure _
  | reloadRoot kind =>
      exact withRuntime_plain name fun host runtime =>
        (Watching.reloadRoot_plain host runtime kind).bind fun _ => plain_pure _
  | pathChanged path =>
      exact withRuntime_plain name fun host runtime =>
        (Watching.pathChanged_plain host runtime path).bind fun _ => plain_pure _
  | takeLogs => exact (takeLogs_plain host).bind fun _ => plain_pure _
  | countLogs => exact plain_host (fun _ _ sees => by rw [sees.log]) fun _ => plain_pure _
  | units => exact withRuntime_plain name fun _ _ => plain_pure _
  | content => exact withRuntime_plain name fun _ _ => plain_pure _
  | reloadContent kind =>
      exact withRuntime_plain name fun host runtime =>
        (Watching.reloadContent_plain host runtime kind).bind fun _ => plain_pure _
  | pollWatcher =>
      exact withRuntime_plain name fun host runtime =>
        (Watching.poll_plain host runtime).bind fun _ => plain_pure _
  | pollUntil count =>
      apply withRuntime_plain name
      intro host runtime
      split
      · exact plain_pure _
      · exact (Watching.poll_plain host runtime).bind fun _ => plain_pure _
  | watchInBackground =>
      exact withRuntime_plain name fun host runtime =>
        (Watching.handOver_plain host runtime).bind fun _ => plain_pure _
  | awaitScripts names =>
      exact Watching.settle_plain.bind fun _ => withRuntime_plain name fun _ _ => plain_pure _
  | stopWatching => exact Watching.stop_plain.bind fun _ => plain_pure _
  | _ => first | exact fileOperation_plain call host calm | cases calm

end Perform

end ScriptHost.Session

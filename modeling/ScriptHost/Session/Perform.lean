/-
This file carries out the commands of a session.
-/
import ScriptHost.Session.Lifecycle

namespace ScriptHost.Session

open File (Pathname RootKind)

namespace Run

def modifyNames (change : Names → Names) : Run Unit :=
  modify fun world => { world with names := change world.names }

def nameEntity (name : Option String) (entity : Entity) : Run Unit :=
  match name with
  | some name => modifyNames fun names => { names with entities := (name, entity) :: names.entities }
  | none => return ()

def nameHandle (name : String) (handle : Handle) : Run Unit :=
  modifyNames fun names => { names with handles := (name, handle) :: names.handles }

def nameCache (name : String) (cache : Script.UnitCache) : Run Unit :=
  modifyNames fun names => { names with caches := (name, cache) :: names.caches }

def nameLoader (name : String) (loader : Content.Loader) : Run Unit :=
  modifyNames fun names => { names with loaders := (name, loader) :: names.loaders }

def nameSet (name : Option String) (set : Script.UnitSet) : Run Unit :=
  match name with
  | some name => modifyNames fun names => { names with sets := (name, set) :: names.sets }
  | none => return ()

def nameHost (name : String) (host : Nat) : Run Unit :=
  modifyNames fun names =>
    { names with hosts := (name, host) :: names.hosts.filter fun entry => entry.1 != name }

def forgetHost (name : String) : Run Unit :=
  modifyNames fun names => { names with hosts := names.hosts.filter fun entry => entry.1 != name }

/-- A name that no runtime has stands for the core. -/
def hostNamed (name : String) : Run Nat := do
  return ((← get).names.hosts.lookup name).getD 0

def modifyEngine (change : Engine → Engine) : Run Unit :=
  modify fun world => { world with engine := change world.engine }

def setTree (tree : File.Tree) : Run Unit :=
  modify fun world => { world with tree }

end Run

namespace Perform

def withEntity (name : EntityName) (body : Entity → Run Answer) : Run Answer := do
  match name with
  | .number entity => body entity
  | .name text =>
      match (← get).names.entities.lookup text with
      | some entity => body entity
      | none => return .problem (.noHandle s!"@{text}")

def withHandle {α : Type} (name : String) (part : Handle → Option α) (body : α → Run Answer) :
    Run Answer := do
  match ((← get).names.handles.lookup name).bind part with
  | some value => body value
  | none => return .problem (.noHandle name)

def subscription? : Handle → Option Nat
  | .subscription id => some id
  | _ => none

def listener? : Handle → Option Nat
  | .listener id => some id
  | _ => none

def receiver? : Handle → Option (Nat × Nat)
  | .receiver host id => some (host, id)
  | _ => none

def withRuntime (host : String) (body : Nat → Runtime → Run Answer) : Run Answer := do
  match (← get).names.hosts.lookup host with
  | none => return .problem .unsuitable
  | some id =>
      match ← Run.runtime? id with
      | some runtime => body id runtime
      | none => return .problem .unsuitable

def withCache (name : String) (body : Script.UnitCache → Run Answer) : Run Answer := do
  match (← get).names.caches.lookup name with
  | some cache => body cache
  | none => return .problem (.noHandle name)

def withLoader (name : String) (body : Content.Loader → Run Answer) : Run Answer := do
  match (← get).names.loaders.lookup name with
  | some loader => body loader
  | none => return .problem (.noHandle name)

/-- The engine is kept as a call left it, and the answer tells whether the call went well. -/
def change (act : Engine → Engine × Except NativeError Unit) : Run Answer := do
  let (engine, result) := act (← get).engine
  Run.modifyEngine fun _ => engine
  match result with
  | .ok () => return .truth true
  | .error error => return .problem (.native error)

def look {α : Type} (shape : α → Answer) (act : Engine → Except NativeError α) : Run Answer := do
  match act (← get).engine with
  | .ok value => return shape value
  | .error error => return .problem (.native error)

def switch (change : Engine → Engine) : Run Answer := do
  Run.modifyEngine change
  return .nothing

def spawn (name : Option String) (data : List (String × String)) : Run Answer := do
  let (engine, entity) := (← get).engine.spawn (Json.sortMembers data)
  Run.modifyEngine fun _ => engine
  Run.nameEntity name entity
  return .entity entity

def create (name : Option String) : Run Answer := do
  let (engine, result) := (← get).engine.createEntity
  Run.modifyEngine fun _ => engine
  match result with
  | .ok entity => do
      Run.nameEntity name entity
      return .entity entity
  | .error error => return .problem (.native error)

def getData (key : String) (entity : Entity) : Run Answer := do
  match (← get).engine.panicsOn key with
  | some message => throw (.panicked message)
  | none => look .possibleText fun engine => engine.scriptData entity key

def subscribe (kind : Event.Kind) (name : String) (hook : Hook Operation) : Run Answer := do
  let hooked ← Run.hooked name hook
  let id ← Events.subscribe kind (.hook hooked)
  Run.nameHandle name (.subscription id)
  return .nothing

def subscribeRaw (event name : String) (hook : Hook Operation) : Run Answer := do
  let hooked ← Run.hooked name hook
  let id ← Events.subscribeRaw event (.hook hooked)
  Run.nameHandle name (.subscription id)
  return .nothing

def addListener (host : Nat) (name : String) (listener : Listener) : Run Answer := do
  let id ← Events.listen host listener
  Run.nameHandle name (.listener id)
  return .nothing

def slotState (slot : Slot) : Option SlotState :=
  match slot.receiver with
  | .behaviour entity script _ => some ⟨entity, script, slot.started, slot.phase ≠ .live⟩
  | .system .. => none

def registeredSlot (host id : Nat) : Run Answer := do
  let registry ← Run.registry host
  if registry.isRegistered id then return .slot ((registry.slot? id).bind slotState)
  else return .slot none

def keptSlot (host id : Nat) : Run Answer := do
  return .slot ((← Scheduler.slot? host id).bind slotState)

def counts (host : Nat) : Run Answer := do
  let registry ← Run.registry host
  return .counts ⟨registry.systems.length, registry.bindings.length, (← Run.runtime? host).isSome⟩

/-- The file that is moved into its place was written beside it first. -/
def stagedLocation (location : File.Location) : File.Location :=
  location.take 1 ++ [".staged"]

def write (location : File.Location) (content : List UInt8) : Run Answer := do
  Run.setTree ((← get).tree.writeFile location content)
  Watching.changed [Pathname.ofLocation location]
  return .nothing

def dropIn (location : File.Location) (content : List UInt8) : Run Answer := do
  let tree := (← get).tree
  if tree.isDirectory location.dropLast ∧ ¬ tree.isDirectory location then
    Run.setTree ((tree.remove (stagedLocation location)).put location (.file content))
    Watching.changed [Pathname.ofLocation (stagedLocation location), Pathname.ofLocation location]
    return .truth true
  else
    Run.setTree (tree.put (stagedLocation location) (.file content))
    Watching.changed [Pathname.ofLocation (stagedLocation location)]
    return .truth false

def makeDirectory (location : File.Location) : Run Answer := do
  let tree := (← get).tree
  if (tree.node? location).isSome then return .truth (tree.isDirectory location)
  else
    let tree := tree.makeDirectories [] location
    Run.setTree tree
    Watching.changed [Pathname.ofLocation location]
    return .truth (tree.isDirectory location)

def remove (location : File.Location) : Run Answer := do
  let tree := (← get).tree
  if (tree.node? location).isSome then
    Run.setTree (tree.remove location)
    Watching.removed (Pathname.ofLocation location)
      ((tree.locationsFrom location).map Pathname.ofLocation)
    return .truth true
  else return .truth false

def compile (root : Pathname) (extension : String) (previous name : Option String) : Run Answer := do
  let world ← get
  let extension := Script.bareExtension extension
  let previous := previous.bind fun name => world.names.sets.lookup name
  match Script.compileAll world.tree extension root previous with
  | .error error => return .problem (.script error)
  | .ok compilation => do
      Run.nameSet name compilation.set
      return .compiled extension compilation

def reloadCache (name : String) (cache : Script.UnitCache) : Run Answer := do
  let (cache, records, result) := cache.reload (← get).tree
  Run.reportAll records
  Run.nameCache name cache
  match result with
  | .ok _ => return .cache cache
  | .error error => return .problem (.script error)

def takeLogs (host : Nat) : Run (List String) := do
  let log := (← Run.host host).log
  Run.modifyHost host fun host => { host with log := [] }
  return log

/-- Caches of their own log to the core. -/
def runUnits (cache : Script.UnitCache) (signal : Tick.Signal) : Run Answer := do
  let count ← Run.outside 0 (Script.runAll signal cache.active.units)
  return .unitRun count (← takeLogs 0)

def reloadLoader (name : String) (loader : Content.Loader) : Run Answer := do
  let tree := (← get).tree
  let (loader, result) ← Run.outside 0 fun outside =>
    let (loader, outside, result) := loader.reload tree outside
    ((loader, result), outside)
  Run.nameLoader name loader
  match result with
  | .ok loaded => return .loaded loaded
  | .error error => return .problem (.script error)

/-- The roots stand below the base, and files are not watched unless the settings say so. -/
def baseConfig : Config :=
  { Config.standard with
    scriptRoot := ⟨"scripts"⟩
    behaviourRoot := ⟨"behaviours"⟩
    questRoot := ⟨"quests"⟩
    encounterRoot := ⟨"encounters"⟩
    hotReload := false }

def configOf (settings : Option Json.Form) (base : Pathname) : Option Config :=
  match settings with
  | none => some (baseConfig.resolveRoots base)
  | some form => (baseConfig.overlay form).map fun config => config.resolveRoots base

variable (call : Caller)

def registerSystem (host kind : Nat) (name : String) (hooks : SystemHooks Operation) :
    Run Answer := do
  let onTick ← Run.hooked (name ++ ".on_tick") hooks.onTick
  let shutdown ← Run.hooked (name ++ ".shutdown") hooks.shutdown.panicking
  match ← Scheduler.register call host (.system kind ⟨onTick, shutdown⟩) with
  | some id => do
      Run.nameHandle name (.receiver host id)
      return .truth true
  | none => return .truth false

def registerBehaviour (host : Nat) (script name : String) (hooks : BehaviourHooks Operation)
    (entity : Entity) : Run Answer := do
  let logic ← Binding.behaviourHooks name hooks
  match ← Scheduler.register call host (.behaviour entity script logic) with
  | some id => do
      Run.nameHandle name (.receiver host id)
      return .truth true
  | none => return .truth false

def setBinder (factories : List (Factory Operation)) (cap : Option Nat) : Run Answer := do
  let chain ← Lifecycle.addFactories 0 factories
  let cap := max 1 (cap.getD standardCap)
  Run.modifyHost 0 fun host => { host with binder := ⟨chain, cap, false⟩ }
  return .count cap

def askFactories (script : String) : Run Answer := do
  let chain := (← Run.host 0).binder.factories
  return .chain chain.length (← Binding.askChain call script chain).isSome

/-- A pass of a runtime fails in other words than one of the core. -/
def boundAnswer (ofRuntime : Bool) : Except NativeError BindReport → Answer
  | .ok report => .bound report
  | .error error => .problem (if ofRuntime then .binding error else .enumeration error)

def bindAll (host : Nat) : Run Answer := do
  match ← Run.runtime? host with
  | none => return boundAnswer false (← Binding.bindAll call host)
  | some runtime =>
      if runtime.state = .shutDown then return .problem .shutDown
      else
        return boundAnswer true (← Lifecycle.whileUsing call host (Binding.bindAll call host))

def newRuntime (name : String) (settings : Option Json.Form) (base : Pathname)
    (factories : List (Factory Operation)) : Run Answer := do
  match configOf settings base with
  | none => return .problem .unsuitable
  | some config =>
      match ← Lifecycle.create config factories with
      | none => return .problem .alreadyClaimed
      | some id => do
          let former := (← get).names.hosts.lookup name
          Run.nameHost name id
          match former with
          | some former => Lifecycle.forget call former
          | none => pure ()
          return .truth true

def dropRuntime (name : String) : Run Answer := do
  match (← get).names.hosts.lookup name with
  | none => return .truth false
  | some host => do
      Run.forgetHost name
      Lifecycle.forget call host
      return .truth true

def startRuntime (host : Nat) (runtime : Runtime) : Run Answer :=
  match runtime.state with
  | .shutDown => return .problem .shutDown
  | .running => return .truth false
  | .created => do
      Lifecycle.whileUsing call host (Lifecycle.start call host)
      return .truth true

def reloadScene (host : Nat) (runtime : Runtime) : Run Answer := do
  if runtime.state = .shutDown then return .problem .shutDown
  else return boundAnswer true (← Lifecycle.whileUsing call host (Lifecycle.reloadScene call host))

def ofScriptError : Option Script.Error → Answer
  | none => .truth true
  | some error => .problem (.script error)

def ofLoaded : Except Script.Error Content.Loaded → Answer
  | .ok loaded => .loaded loaded
  | .error error => .problem (.script error)

def engineOperation : Operation → Run Answer
  | .spawn name data => spawn name data
  | .create name => create name
  | .destroy name => withEntity name fun entity => change fun engine => engine.destroyEntity entity
  | .setData name key value =>
      withEntity name fun entity => change fun engine => engine.setScriptData entity key value
  | .removeData name key =>
      withEntity name fun entity => change fun engine => engine.removeScriptData entity key
  | .setComponent name key value =>
      withEntity name fun entity => change fun engine => engine.setComponent entity key value
  | .getData name key => withEntity name (getData key)
  | .getComponent name key =>
      withEntity name fun entity => look .possibleText fun engine => engine.component entity key
  | .alive name => withEntity name fun entity => do return .truth ((← get).engine.isAlive entity)
  | .live cap => look .entities fun engine => engine.liveEntities cap
  | .entityCount => do return .count (← get).engine.store.count
  | .data name => withEntity name fun entity => do return .data ((← get).engine.entries entity)
  | .declared name => withEntity name fun entity => do return .texts (← Binding.declared entity)
  | .failKey key => switch fun engine => { engine with failing := key :: engine.failing }
  | .clearFailures => switch fun engine => { engine with failing := [] }
  | .setInterval interval => switch fun engine => { engine with interval }
  | .interval => do return .interval (← get).engine.interval
  | .failLive code => switch fun engine => { engine with liveCode := code }
  | .failCreate code => switch fun engine => { engine with createCode := code }
  | .panicKey key => switch fun engine => { engine with panicKey := key }
  | _ => return .problem .unsuitable

def eventOperation (host : Nat) : Operation → Run Answer
  | .subscribe kind name hook => subscribe kind name hook
  | .subscribeRaw event name hook => subscribeRaw event name hook
  | .unsubscribe event handle =>
      withHandle handle subscription? fun id => do return .truth (← Events.unsubscribe event id)
  | .subscribers event => do return .count ((← get).bridge.count event)
  | .dropped => do return .count (← get).bridge.dropped
  | .publish event => do return .route (← Events.publish call event)
  | .publishRaw event payload => do return .route (← Events.dispatch call event payload)
  | .decode event payload => return .decoded (Event.decode event payload)
  | .hookTicks => do return .truth (← Events.hookTicks host)
  | .unhookTicks => do return .truth (← Events.unhookTicks host)
  | .ticksHooked => do return .truth (← Run.host host).source.subscription.isSome
  | .addListener name hook => do addListener host name (.hook (← Run.hooked name hook))
  | .removeListener handle =>
      withHandle handle listener? fun id => do return .truth (← Events.dismiss host id)
  | .listeners => do return .count (← Run.host host).source.listeners.length
  | .clock => do return .clock (← Run.host host).source.clock
  | .driveScheduler name => addListener host name (.scheduler host (some name))
  | operation => engineOperation operation

def scheduleOperation (host : Nat) : Operation → Run Answer
  | .registerSystem kind name hooks => registerSystem call host kind name hooks
  | .registerBehaviour entity script name hooks =>
      withEntity entity (registerBehaviour call host script name hooks)
  | .unregister handle =>
      withHandle handle receiver? fun receiver => do
        return .truth (← Scheduler.unregister call host receiver.2)
  | .isRegistered handle =>
      withHandle handle receiver? fun receiver => do
        return .truth ((← Run.registry host).isRegistered receiver.2)
  | .behaviour handle =>
      withHandle handle receiver? fun receiver => registeredSlot host receiver.2
  | .slot handle => withHandle handle receiver? fun receiver => keptSlot receiver.1 receiver.2
  | .hasBinding entity script =>
      withEntity entity fun entity => do
        return .truth ((← Run.registry host).hasBinding entity script)
  | .bindings => do return .bindings (← Run.registry host).bindings
  | .systems => do return .systems (← Run.registry host).systems
  | .counts => counts host
  | .purgeBehaviours => do return .count (← Scheduler.purgeBehaviours call host)
  | .purgeEntity entity =>
      withEntity entity fun entity => do return .count (← Scheduler.purgeEntity call host entity)
  | .shutDownScheduler => do return .count (← Scheduler.shutDown call host)
  | .tick signal => do
      Run.note (.tickCommanded host signal)
      return .ticked (← Scheduler.tick call host signal)
  | .setBinder factories cap => setBinder factories cap
  | .factory script => askFactories call script
  | .bindAll => bindAll call host
  | operation => eventOperation call host operation

def fileOperation (host : Nat) : Operation → Run Answer
  | .write location content => write location content
  | .dropIn location content => dropIn location content
  | .makeDirectory location => makeDirectory location
  | .remove location => remove location
  | .compile root extension previous name => compile root extension previous name
  | .newCache name root extension => do
      Run.nameCache name (.create "cache" root extension)
      return .nothing
  | .reloadCache name => withCache name (reloadCache name)
  | .describeCache name => withCache name fun cache => return .cache cache
  | .cacheHas name unit => withCache name fun cache => return .truth (cache.find? unit).isSome
  | .runUnits name signal => withCache name fun cache => runUnits cache signal
  | .newLoader name kind root extension => do
      Run.nameLoader name (.create kind (.create "content" root extension))
      return .nothing
  | .reloadLoader name => withLoader name (reloadLoader name)
  | .definitions name => withLoader name fun loader => return .definitions loader.published
  | .definition name id => withLoader name fun loader => return .definition (loader.find? id)
  | operation => scheduleOperation call host operation

/-- The host of a command has a name and a number; a name without a runtime has the core's number. -/
def operate (name : String) (host : Nat) : Operation → Run Answer
  | .say text => return .text text
  | .newRuntime settings base factories => newRuntime call name settings base factories
  | .dropRuntime => dropRuntime call name
  | .startRuntime => withRuntime name (startRuntime call)
  | .shutDownRuntime =>
      withRuntime name fun host runtime => do
        return .truth (← Lifecycle.whileUsing call host (Lifecycle.shutDown call host runtime))
  | .runtimeState => withRuntime name fun _ runtime => return .state runtime.state
  | .claimed => do return .truth (← get).claimed
  | .reloadScene => withRuntime name (reloadScene call)
  | .reloadRoot kind =>
      withRuntime name fun host runtime => do
        return ofScriptError (← Watching.reloadRoot host runtime kind)
  | .pathChanged path =>
      withRuntime name fun host runtime => do
        return .rootKind (← Watching.pathChanged host runtime path)
  | .takeLogs => do return .texts (← takeLogs host)
  | .countLogs => do return .logCount (← Run.host host).log.length
  | .units => withRuntime name fun _ runtime => return .caches (RootKind.all.map runtime.cache)
  | .content =>
      withRuntime name fun _ runtime =>
        return .content runtime.quests.published runtime.encounters.published
  | .reloadContent kind =>
      withRuntime name fun host runtime => do
        return ofLoaded (← Watching.reloadContent host runtime kind)
  | .pollWatcher =>
      withRuntime name fun host runtime => do return .rootKinds (← Watching.poll host runtime)
  | .pollUntil count =>
      withRuntime name fun host runtime => do
        if count = 0 then return .rootKinds []
        else return .rootKinds (← Watching.poll host runtime)
  | .watchInBackground =>
      withRuntime name fun host runtime => do
        return .possibleTruth (← Watching.handOver host runtime)
  | .awaitScripts names => do
      Watching.settle
      withRuntime name fun _ runtime => return .truth (runtime.scripts.active.names == names)
  | .stopWatching => do return .truths (← Watching.stop)
  | operation => fileOperation call host operation

def perform (command : Command Operation) : Run Answer := do
  operate call command.host (← Run.hostNamed command.host) command.operation

/-- The answers to the commands of a hook go to the journal. -/
def performAll : List (Command Operation) → Run Unit
  | [] => return ()
  | command :: rest => do
      let answer ← perform call command
      Run.note (.answered command.title answer)
      performAll rest

end Perform

def Ending.enact : Ending → Run Unit
  | .normal => return ()
  | .failure context message => throw (.failed (context.toList ++ [message]))
  | .panic message => throw (.panicked (message.getD silentPanic))

/-- The number bounds how deep hooks may nest. -/
def caller : Nat → Caller
  | 0 => ⟨fun _ _ => throw .exhausted, fun _ => throw .exhausted⟩
  | depth + 1 =>
      { hook := fun hooked arguments => do
          Run.note (.called hooked.id hooked.label arguments)
          let turn := hooked.hook.turn (← Run.use hooked)
          Perform.performAll (caller depth) turn.commands
          Run.note (.finished hooked.id arguments turn.ending)
          turn.ending.enact
        perform := Perform.performAll (caller depth) }

def nestingLimit : Nat := 256

/-- A command from outside may find the world as an earlier one left it early. -/
def step (world : World) (command : Command Operation) : Except Raised Answer × World :=
  ((Perform.perform (caller nestingLimit) command).run).run world

end ScriptHost.Session

/-
This file says when a relation between worlds is kept by everything that hooks of a certain scope can do.
The diagonal over a predicate is such a relation, so invariants of single runs are a special case.
-/
import ScriptHost.Proofs.Binding.Views
import ScriptHost.Proofs.Session.Routine
import ScriptHost.Proofs.Shutdown.Passages

namespace ScriptHost.Session

/-- Hooks may always call the engine and manage receivers. This says whether they may also work with files
and libraries, ask the factories of the core, and work with events and ticks. -/
structure Scope where
  files : Bool
  factories : Bool
  events : Bool

/-- These commands look at the engine or change it, and touch nothing else. -/
def Operation.engines : Operation → Bool
  | .say _ | .spawn .. | .create _ | .destroy _ | .setData .. | .removeData .. | .setComponent ..
  | .getData .. | .getComponent .. | .alive _ | .live _ | .entityCount | .data _ | .declared _
  | .failKey _ | .clearFailures | .setInterval _ | .interval | .failLive _ | .failCreate _
  | .panicKey _ | .decode .. => true
  | _ => false

/-- These commands look at logs, at the states of runtimes and at what was named, and never at files. -/
def Operation.looks : Operation → Bool
  | .takeLogs | .countLogs | .claimed | .runtimeState | .newCache .. | .describeCache _ | .cacheHas ..
  | .runUnits .. | .newLoader .. | .definitions _ | .definition .. => true
  | _ => false

/-- No command of a scope makes, starts, ends or drops a runtime or lets a binder pass over all entities, and
its hooks and factories carry commands of the same scope. -/
inductive Within (scope : Scope) : Operation → Prop
  | engine {operation : Operation} (engines : operation.engines = true) : Within scope operation
  | look {operation : Operation} (looks : operation.looks = true) : Within scope operation
  | calm {operation : Operation} (allowed : scope.files = true) (calm : operation.stirs = false) :
      Within scope operation
  | registerSystem (kind : Nat) (name : String) (hooks : SystemHooks Operation)
      (onTick : ∀ calls, ∀ command ∈ (hooks.onTick.turn calls).commands, Within scope command.operation)
      (shutdown : ∀ calls, ∀ command ∈ (hooks.shutdown.turn calls).commands, Within scope command.operation) :
      Within scope (.registerSystem kind name hooks)
  | registerBehaviour (entity : EntityName) (script name : String) (hooks : BehaviourHooks Operation)
      (attach : ∀ calls, ∀ command ∈ (hooks.attach.turn calls).commands, Within scope command.operation)
      (start : ∀ calls, ∀ command ∈ (hooks.start.turn calls).commands, Within scope command.operation)
      (update : ∀ calls, ∀ command ∈ (hooks.update.turn calls).commands, Within scope command.operation)
      (dispose : ∀ calls, ∀ command ∈ (hooks.dispose.turn calls).commands, Within scope command.operation) :
      Within scope (.registerBehaviour entity script name hooks)
  | unregister (handle : String) : Within scope (.unregister handle)
  | isRegistered (handle : String) : Within scope (.isRegistered handle)
  | behaviour (handle : String) : Within scope (.behaviour handle)
  | slot (handle : String) : Within scope (.slot handle)
  | hasBinding (entity : EntityName) (script : String) : Within scope (.hasBinding entity script)
  | bindings : Within scope .bindings
  | systems : Within scope .systems
  | counts : Within scope .counts
  | purgeBehaviours : Within scope .purgeBehaviours
  | purgeEntity (entity : EntityName) : Within scope (.purgeEntity entity)
  | shutDownScheduler : Within scope .shutDownScheduler
  | setBinder (allowed : scope.factories = true) (factories : List (Factory Operation)) (cap : Option Nat)
      (commands : ∀ factory ∈ factories, ∀ script, ∀ command ∈ (factory.ask script).commands,
        Within scope command.operation)
      (attach : ∀ factory ∈ factories, ∀ script hooks, (factory.ask script).offer = .made hooks →
        ∀ calls, ∀ command ∈ (hooks.attach.turn calls).commands, Within scope command.operation)
      (start : ∀ factory ∈ factories, ∀ script hooks, (factory.ask script).offer = .made hooks →
        ∀ calls, ∀ command ∈ (hooks.start.turn calls).commands, Within scope command.operation)
      (update : ∀ factory ∈ factories, ∀ script hooks, (factory.ask script).offer = .made hooks →
        ∀ calls, ∀ command ∈ (hooks.update.turn calls).commands, Within scope command.operation)
      (dispose : ∀ factory ∈ factories, ∀ script hooks, (factory.ask script).offer = .made hooks →
        ∀ calls, ∀ command ∈ (hooks.dispose.turn calls).commands, Within scope command.operation) :
      Within scope (.setBinder factories cap)
  | factory (allowed : scope.factories = true) (script : String) : Within scope (.factory script)
  | subscribe (allowed : scope.events = true) (kind : Event.Kind) (name : String) (hook : Hook Operation)
      (heard : ∀ calls, ∀ command ∈ (hook.turn calls).commands, Within scope command.operation) :
      Within scope (.subscribe kind name hook)
  | subscribeRaw (allowed : scope.events = true) (event name : String) (hook : Hook Operation)
      (heard : ∀ calls, ∀ command ∈ (hook.turn calls).commands, Within scope command.operation) :
      Within scope (.subscribeRaw event name hook)
  | unsubscribe (allowed : scope.events = true) (event handle : String) :
      Within scope (.unsubscribe event handle)
  | subscribers (allowed : scope.events = true) (event : String) : Within scope (.subscribers event)
  | dropped (allowed : scope.events = true) : Within scope .dropped
  | publish (allowed : scope.events = true) (event : Event.Builtin) : Within scope (.publish event)
  | publishRaw (allowed : scope.events = true) (event : String) (payload : Event.Payload) :
      Within scope (.publishRaw event payload)
  | hookTicks (allowed : scope.events = true) : Within scope .hookTicks
  | unhookTicks (allowed : scope.events = true) : Within scope .unhookTicks
  | ticksHooked (allowed : scope.events = true) : Within scope .ticksHooked
  | addListener (allowed : scope.events = true) (name : String) (hook : Hook Operation)
      (heard : ∀ calls, ∀ command ∈ (hook.turn calls).commands, Within scope command.operation) :
      Within scope (.addListener name hook)
  | removeListener (allowed : scope.events = true) (handle : String) : Within scope (.removeListener handle)
  | listeners (allowed : scope.events = true) : Within scope .listeners
  | clock (allowed : scope.events = true) : Within scope .clock
  | driveScheduler (allowed : scope.events = true) (name : String) : Within scope (.driveScheduler name)
  | tick (allowed : scope.events = true) (signal : Tick.Signal) : Within scope (.tick signal)

/-- Whenever it is called, the hook carries commands of the scope. -/
def Hook.Within (scope : Scope) (hook : Hook Operation) : Prop :=
  ∀ calls, ∀ command ∈ (hook.turn calls).commands, Session.Within scope command.operation

structure BehaviourHooks.Within (scope : Scope) (hooks : BehaviourHooks Operation) : Prop where
  attach : hooks.attach.Within scope
  start : hooks.start.Within scope
  update : hooks.update.Within scope
  dispose : hooks.dispose.Within scope

structure Factory.Within (scope : Scope) (factory : Factory Operation) : Prop where
  commands : ∀ script, ∀ command ∈ (factory.ask script).commands, Session.Within scope command.operation
  made : ∀ script hooks, (factory.ask script).offer = .made hooks → hooks.Within scope

def BehaviourLogic.Within (scope : Scope) : BehaviourLogic → Prop
  | .hooked attach start update dispose =>
      attach.hook.Within scope ∧ start.hook.Within scope ∧ update.hook.Within scope ∧ dispose.hook.Within scope
  | .scripted .. => True

def WithinReceiver (scope : Scope) : Receiver → Prop
  | .system _ logic => logic.onTick.hook.Within scope ∧ logic.shutdown.hook.Within scope
  | .behaviour _ _ logic => logic.Within scope

def Handler.Within (scope : Scope) : Handler → Prop
  | .hook hooked => hooked.hook.Within scope
  | .source _ => True

def Listener.Within (scope : Scope) : Listener → Prop
  | .hook hooked => hooked.hook.Within scope
  | .scheduler .. => True

/-- All subscribers of the bridge are of the scope. -/
structure WithinBridge (scope : Scope) (bridge : Event.Bridge Handler) : Prop where
  typed : ∀ kind, ∀ subscription ∈ bridge.typed.under kind, subscription.handler.Within scope
  raw : ∀ name, ∀ subscription ∈ bridge.raw.under name, subscription.handler.Within scope

def WithinSource (scope : Scope) (source : Tick.Source Listener) : Prop :=
  ∀ listening ∈ source.listeners, listening.listener.Within scope

/-- Turning failures into panics does not lead out of a scope. -/
theorem Hook.Within.panicking {scope : Scope} {hook : Hook Operation} (within : hook.Within scope) :
    hook.panicking.Within scope := within

/-- The registry has the same receivers as before but for what their scripts keep, and nobody is registered
anew. -/
structure Alters (registry after : Registry) : Prop where
  slots : after.slots.map (fun slot => Binding.bare slot.receiver) =
    registry.slots.map fun slot => Binding.bare slot.receiver
  registered : after.registered ⊆ registry.registered

/-- Under this number stands this receiver, whatever its script keeps. -/
def Bears (host id : Nat) (receiver : Receiver) (world : World) : Prop :=
  ∃ slot, (world.registryOf host).slots[id]? = some slot ∧ Binding.bare slot.receiver = Binding.bare receiver

namespace World

def steer (world : World) (engine : Engine) : World :=
  { world with engine }

def rename (world : World) (names : Names) : World :=
  { world with names }

def restock (world : World) (factories : List FactoryState) : World :=
  { world with factories }

def rebridge (world : World) (bridge : Event.Bridge Handler) : World :=
  { world with bridge }

def resource (world : World) (host : Nat) (source : Tick.Source Listener) : World :=
  world.putHost host { world.hostOf host with source }

def rebind (world : World) (host : Nat) (binder : Binder) : World :=
  world.putHost host { world.hostOf host with binder }

end World

/-- The ticks of schedulers begin with these entries, or are asked for by them. -/
def Entry.ticks : Entry → Bool
  | .tickBegan .. | .tickCommanded .. | .broadcast .. | .ticked .. => true
  | _ => false

variable (scope : Scope) (fits : Nat → Receiver → Prop)

/-- Related worlds show the same to hooks that call the engine and manage receivers, and stay related when
the same is done to both. Only receivers that fit are registered. -/
structure Congruence (related : World → World → Prop) : Prop where
  engine : ∀ {world other}, related world other → world.engine = other.engine
  draws : ∀ {world other}, related world other → world.draws = other.draws
  names : ∀ {world other}, related world other → world.names = other.names
  uses : ∀ {world other}, related world other → world.uses = other.uses
  claimed : ∀ {world other}, related world other → world.claimed = other.claimed
  registry : ∀ {world other}, related world other → ∀ host, world.registryOf host = other.registryOf host
  log : ∀ {world other}, related world other → ∀ host, (world.hostOf host).log = (other.hostOf host).log
  scripts : ∀ {world other}, related world other → ∀ host,
    (world.hostOf host).runtime.map (fun runtime => (runtime.scripts.active, runtime.state)) =
      (other.hostOf host).runtime.map fun runtime => (runtime.scripts.active, runtime.state)
  within : ∀ {world other}, related world other → ∀ host, ∀ slot ∈ (world.registryOf host).slots,
    WithinReceiver scope slot.receiver
  system : ∀ {host kind logic}, WithinReceiver scope (.system kind logic) → fits host (.system kind logic)
  hooked : ∀ {host entity script attach start update dispose},
    WithinReceiver scope (.behaviour entity script (.hooked attach start update dispose)) →
      fits host (.behaviour entity script (.hooked attach start update dispose))
  note : ∀ {world other entry}, entry.ticks = false → related world other →
    related (world.note entry) (other.note entry)
  leave : ∀ {world other} host outside, related world other →
    related (world.leave host outside) (other.leave host outside)
  count : ∀ {world other} uses, related world other → related (world.count uses) (other.count uses)
  steer : ∀ {world other} engine, related world other → related (world.steer engine) (other.steer engine)
  rename : ∀ {world other} names, related world other → names.hosts = world.names.hosts →
    related (world.rename names) (other.rename names)
  change : ∀ {world other host registry}, related world other → Alters (world.registryOf host) registry →
    related (world.putRegistry host registry) (other.putRegistry host registry)
  add : ∀ {world other host receiver}, related world other → fits host receiver →
    WithinReceiver scope receiver → related (world.putRegistry host ((world.registryOf host).add receiver).1)
      (other.putRegistry host ((world.registryOf host).add receiver).1)

/-- Related worlds also show the same factories. -/
structure Stocked (related : World → World → Prop) : Prop where
  factories : ∀ {world other}, related world other → world.factories = other.factories
  within : ∀ {world other}, related world other → ∀ state ∈ world.factories, state.factory.Within scope
  binder : ∀ {world other}, related world other → ∀ host,
    (world.hostOf host).binder = (other.hostOf host).binder
  restock : ∀ {world other} factories, related world other →
    (∀ state ∈ factories, state.factory.Within scope) → related (world.restock factories) (other.restock factories)
  rebind : ∀ {world other} host binder, related world other →
    related (world.rebind host binder) (other.rebind host binder)

/-- They also show the same libraries, so that binders can pass. -/
structure Bindable (related : World → World → Prop) : Prop extends Stocked scope related where
  library : ∀ {world other}, related world other → ∀ host,
    (world.hostOf host).runtime.map Runtime.behaviours = (other.hostOf host).runtime.map Runtime.behaviours
  scripted : ∀ {world other host runtime entity script unit}, related world other →
    (world.hostOf host).runtime = some runtime → runtime.behaviours.find? script = some unit →
      fits host (.behaviour entity script (.scripted unit (.map [])))

/-- Related worlds also show the same to whoever works with events and ticks. -/
structure Audible (related : World → World → Prop) : Prop where
  bridge : ∀ {world other}, related world other → world.bridge = other.bridge
  source : ∀ {world other}, related world other → ∀ host,
    (world.hostOf host).source = (other.hostOf host).source
  freed : ∀ {world other}, related world other → ∀ host, (world.hostOf host).freed = (other.hostOf host).freed
  handlers : ∀ {world other}, related world other → WithinBridge scope world.bridge
  listeners : ∀ {world other}, related world other → ∀ host, WithinSource scope (world.hostOf host).source
  note : ∀ {world other} entry, related world other → related (world.note entry) (other.note entry)
  rebridge : ∀ {world other bridge}, related world other → WithinBridge scope bridge →
    related (world.rebridge bridge) (other.rebridge bridge)
  resource : ∀ {world other source} host, related world other → WithinSource scope source →
    related (world.resource host source) (other.resource host source)

/-- Hooks of the scope keep such a relation. -/
structure Heeds (related : World → World → Prop) : Prop extends Congruence scope fits related where
  calm : scope.files = true → ∀ {α : Type} {body : Run α}, Run.Plain body →
    Effect.Together related (Effect.Twin Eq) body body
  stocks : scope.factories = true → Stocked scope related
  hears : scope.events = true → Audible scope related

/-- From related worlds the body ends the same way, and it leaves related worlds. -/
abbrev Run.Agrees {α : Type} (related : World → World → Prop) (body : Run α) : Prop :=
  Effect.Together related (Effect.Twin Eq) body body

/-- Both results are the same, and a value is good. -/
abbrev Run.AgreesOn {α : Type} (related : World → World → Prop) (good : α → Prop) (body : Run α) : Prop :=
  Effect.Together related (Effect.Twin fun value other => value = other ∧ good value) body body

/-- This is what it means for one pair of worlds. -/
def Run.AgreesAt {α : Type} (related : World → World → Prop) (body : Run α) (world other : World) : Prop :=
  Effect.Twin Eq (body.run.run world).1 (body.run.run other).1 ∧
    related (body.run.run world).2 (body.run.run other).2

/-- Hooks and commands of the scope do the same in related worlds. -/
structure Caller.Heeding (call : Caller) : Prop where
  hook : ∀ {related}, Heeds scope fits related → ∀ {hooked : Hooked} (arguments : Arguments),
    hooked.hook.Within scope → (call.hook hooked arguments).Agrees related
  perform : ∀ {related}, Heeds scope fits related → ∀ {commands : List (Command Operation)},
    (∀ command ∈ commands, Within scope command.operation) → (call.perform commands).Agrees related

end ScriptHost.Session

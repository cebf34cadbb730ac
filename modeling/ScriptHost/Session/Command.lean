/-
This file holds the commands of a session and the hooks that carry commands of their own.
-/
import ScriptHost.Content.Definition
import ScriptHost.Event.Builtin
import ScriptHost.File.Root
import ScriptHost.Json.Form
import ScriptHost.Tick.Signal

namespace ScriptHost.Session

open File (Pathname RootKind)

/-- An entity is given by its number or by the name that an earlier command gave it. -/
inductive EntityName where
  | number (entity : Entity)
  | name (text : String)
  deriving DecidableEq, Repr

/-- The message of an error may stand below a context. -/
inductive Ending where
  | normal
  | failure (context : Option String) (message : String)
  | panic (message : Option String)
  deriving DecidableEq, Repr

/-- A command says which host it is meant for, and the journal calls it by its title. -/
structure Command (Operation : Type) where
  title : String
  host : String
  operation : Operation

/-- This is what one call of a hook does. -/
structure Turn (Operation : Type) where
  commands : List (Command Operation)
  ending : Ending

/-- A hook is asked with the number of calls that came before. -/
structure Hook (Operation : Type) where
  turn : Nat → Turn Operation

/-- Where no error can be returned, the message of the error makes the hook panic. -/
def Ending.panicking : Ending → Ending
  | .failure _ message => .panic (some message)
  | ending => ending

def Hook.panicking {Operation : Type} (hook : Hook Operation) : Hook Operation where
  turn calls := { hook.turn calls with ending := (hook.turn calls).ending.panicking }

structure SystemHooks (Operation : Type) where
  onTick : Hook Operation
  shutdown : Hook Operation

structure BehaviourHooks (Operation : Type) where
  attach : Hook Operation
  start : Hook Operation
  update : Hook Operation
  dispose : Hook Operation

/-- A factory declines a script, makes a behaviour for it, or panics. -/
inductive Offer (Operation : Type) where
  | declined
  | made (hooks : BehaviourHooks Operation)
  | panic (message : String)

/-- A factory that panics at once carries out no commands. -/
structure Asked (Operation : Type) where
  commands : List (Command Operation)
  offer : Offer Operation

structure Factory (Operation : Type) where
  ask : String → Asked Operation

inductive Operation where
  | say (text : String)
  | spawn (name : Option String) (data : List (String × String))
  | create (name : Option String)
  | destroy (entity : EntityName)
  | setData (entity : EntityName) (key value : String)
  | removeData (entity : EntityName) (key : String)
  | setComponent (entity : EntityName) (key value : String)
  | getData (entity : EntityName) (key : String)
  | getComponent (entity : EntityName) (key : String)
  | alive (entity : EntityName)
  | live (cap : Nat)
  | entityCount
  | data (entity : EntityName)
  | declared (entity : EntityName)
  | failKey (key : String)
  | clearFailures
  | setInterval (interval : Float32)
  | interval
  | failLive (code : Option Int)
  | failCreate (code : Option Int)
  | panicKey (key : Option String)
  | subscribe (kind : Event.Kind) (name : String) (hook : Hook Operation)
  | subscribeRaw (event name : String) (hook : Hook Operation)
  | unsubscribe (event handle : String)
  | subscribers (event : String)
  | dropped
  | publish (event : Event.Builtin)
  | publishRaw (event : String) (payload : Event.Payload)
  | decode (event : String) (payload : Event.Payload)
  | hookTicks
  | unhookTicks
  | ticksHooked
  | addListener (name : String) (hook : Hook Operation)
  | removeListener (handle : String)
  | listeners
  | clock
  | driveScheduler (name : String)
  | registerSystem (kind : Nat) (name : String) (hooks : SystemHooks Operation)
  | registerBehaviour (entity : EntityName) (script name : String)
      (hooks : BehaviourHooks Operation)
  | unregister (handle : String)
  | isRegistered (handle : String)
  | behaviour (handle : String)
  | slot (handle : String)
  | hasBinding (entity : EntityName) (script : String)
  | bindings
  | systems
  | counts
  | purgeBehaviours
  | purgeEntity (entity : EntityName)
  | shutDownScheduler
  | tick (signal : Tick.Signal)
  | setBinder (factories : List (Factory Operation)) (cap : Option Nat)
  | factory (script : String)
  | bindAll
  | write (location : File.Location) (content : List UInt8)
  | dropIn (location : File.Location) (content : List UInt8)
  | makeDirectory (location : File.Location)
  | remove (location : File.Location)
  | compile (root : Pathname) (extension : String) (previous name : Option String)
  | newCache (name : String) (root : Pathname) (extension : String)
  | reloadCache (cache : String)
  | describeCache (cache : String)
  | cacheHas (cache unit : String)
  | runUnits (cache : String) (signal : Tick.Signal)
  | newLoader (name : String) (kind : Content.Kind) (root : Pathname) (extension : String)
  | reloadLoader (loader : String)
  | definitions (loader : String)
  | definition (loader id : String)
  | newRuntime (settings : Option Json.Form) (base : Pathname) (factories : List (Factory Operation))
  | dropRuntime
  | startRuntime
  | shutDownRuntime
  | runtimeState
  | claimed
  | reloadScene
  | reloadRoot (kind : RootKind)
  | pathChanged (path : Pathname)
  | takeLogs
  | countLogs
  | units
  | content
  | reloadContent (kind : Content.Kind)
  | pollWatcher
  | pollUntil (count : Nat)
  | watchInBackground
  | awaitScripts (names : List String)
  | stopWatching

end ScriptHost.Session

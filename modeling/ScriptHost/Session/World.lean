/-
This file holds the world of a session and the runs that change it. A run can be left early by a fault,
and it keeps what it has changed until then.
-/
import ScriptHost.Config
import ScriptHost.Engine.Store
import ScriptHost.Schedule.Registry
import ScriptHost.Session.Answer
import ScriptHost.Session.Command

namespace ScriptHost.Session

open File (Pathname RootKind)

/-- The calls of a hook are counted under its number and written down under its label. -/
structure Hooked where
  id : Nat
  label : String
  hook : Hook Operation

inductive Handler where
  | hook (hooked : Hooked)
  | source (host : Nat)

/-- A listener that drives a scheduler may write down the report of the tick. -/
inductive Listener where
  | hook (hooked : Hooked)
  | scheduler (host : Nat) (journalName : Option String)

structure SystemLogic where
  onTick : Hooked
  shutdown : Hooked

/-- A scripted behaviour keeps its unit and its own `this`, whatever becomes of the library. -/
inductive BehaviourLogic where
  | hooked (attach start update dispose : Hooked)
  | scripted (unit : Script.CompiledUnit) (subject : Script.Value)

abbrev Receiver := Schedule.Receiver SystemLogic BehaviourLogic

abbrev Slot := Schedule.Slot SystemLogic BehaviourLogic

abbrev Registry := Schedule.Registry SystemLogic BehaviourLogic

/-- A factory knows its place in its chain and how many behaviours it has made. -/
structure FactoryState where
  factory : Factory Operation
  place : Nat
  made : Nat

/-- A binder is busy during a pass. -/
structure Binder where
  factories : List Nat
  cap : Nat
  busy : Bool
  deriving Inhabited

def standardCap : Nat := 4096

/-- The changed paths wait until they are drained. -/
structure Watch where
  watcher : File.Watcher
  changes : List Pathname

structure Runtime where
  config : Config
  scripts : Script.UnitCache
  behaviours : Script.UnitCache
  quests : Content.Loader
  encounters : Content.Loader
  roots : File.RootTable
  listener : Option Nat
  watch : Option Watch
  state : RuntimeState

/-- A host is freed when it has lost its name and no command uses it any longer. -/
structure Host where
  registry : Registry
  source : Tick.Source Listener
  binder : Binder
  log : List String
  runtime : Option Runtime
  users : Nat
  named : Bool
  freed : Bool

namespace Host

def create (factories : List Nat) (cap : Nat) (runtime : Option Runtime) : Host :=
  ⟨.empty, .empty, ⟨factories, cap, false⟩, [], runtime, 0, true, false⟩

/-- The core host has no runtime. -/
def core : Host := create [] standardCap none

end Host

inductive Handle where
  | subscription (id : Nat)
  | listener (id : Nat)
  | receiver (host id : Nat)
  deriving DecidableEq, Repr

/-- The names that commands gave to what they made; a later name hides an equal earlier one. -/
structure Names where
  entities : List (String × Entity)
  handles : List (String × Handle)
  caches : List (String × Script.UnitCache)
  loaders : List (String × Content.Loader)
  sets : List (String × Script.UnitSet)
  hosts : List (String × Nat)

def Names.none : Names := ⟨[], [], [], [], [], []⟩

inductive Arguments where
  | none
  | event (event : Event.Builtin)
  | payload (bytes : Event.Payload)
  | signal (signal : Tick.Signal)
  | entity (entity : Entity)
  | turn (entity : Entity) (script : String) (signal : Tick.Signal)

/-- These are the functions that a script can define to be a behaviour. -/
inductive ScriptHook where
  | start
  | update
  | dispose
  deriving DecidableEq, Repr

/-- The journal tells what began and ended, what was answered, and what was reported. Hooks and factories
are known by their numbers, and receivers by their host and their number there. A registry is listed
whenever it has changed. -/
inductive Entry where
  | called (hook : Nat) (label : String) (arguments : Arguments)
  | finished (hook : Nat) (arguments : Arguments) (ending : Ending)
  | asked (factory place : Nat) (script : String)
  | answered (title : String) (answer : Answer)
  | ticked (name : String) (report : TickReport)
  | reported (record : TraceRecord)
  | listed (host : Nat) (receivers : List Nat)
  | accepted (host receiver : Nat)
  | rejected (host : Nat) (receiver : Receiver)
  | removed (host : Nat) (receivers : List Nat)
  | broadcast (host : Nat) (signal : Tick.Signal)
  | tickCommanded (host : Nat) (signal : Tick.Signal)
  | tickBegan (host : Nat) (signal : Tick.Signal)
  | turnBegan (host receiver : Nat)
  | scriptCalled (host receiver : Nat) (hook : ScriptHook)
  | finalized (host receiver : Nat)
  | unitsBegan (host : Nat) (names : List String) (signal : Tick.Signal)
  | shutDownBegan (host : Nat)

/-- A thread watches the roots of a host until it is stopped. -/
structure Thread where
  host : Nat
  watch : Watch
  running : Bool

/-- The first host is the core, and the journal stands latest first. -/
structure World where
  engine : Engine
  draws : Script.Draws
  tree : File.Tree
  bridge : Event.Bridge Handler
  claimed : Bool
  hosts : List Host
  factories : List FactoryState
  threads : List Thread
  names : Names
  uses : List Nat
  journal : List Entry

def World.create (tree : File.Tree) (draws : Script.Draws) : World :=
  ⟨.create Engine.standardInterval, draws, tree, .empty, false, [.core], [], [], .none, [], []⟩

/-- A run is stuck when it waits for itself, and exhausted when hooks nest too deep. -/
inductive Raised where
  | failed (causes : List String)
  | panicked (message : String)
  | stuck
  | exhausted
  deriving DecidableEq, Repr

abbrev Run := ExceptT Raised (StateM World)

namespace Run

/-- Errors and panics stop here, and what they changed stays. -/
def isolate (body : Run Unit) : Run (Option Fault) := do
  try
    body
    return none
  catch raised =>
    match raised with
    | .failed causes => return some (.error causes)
    | .panicked message => return some (.panicked message)
    | other => throw other

/-- The second run follows whether or not the first is left early. -/
def afterwards {α : Type} (body : Run α) (finish : Run Unit) : Run α := do
  try
    let value ← body
    finish
    return value
  catch raised =>
    finish
    throw raised

def note (entry : Entry) : Run Unit :=
  modify fun world => { world with journal := entry :: world.journal }

def report (record : TraceRecord) : Run Unit :=
  note (.reported record)

def reportAll (records : List TraceRecord) : Run Unit :=
  modify fun world => { world with journal := (records.map .reported).reverse ++ world.journal }

def host (id : Nat) : Run Host := do
  return ((← get).hosts[id]?).getD .core

def setHost (id : Nat) (host : Host) : Run Unit :=
  modify fun world => { world with hosts := world.hosts.set id host }

def modifyHost (id : Nat) (change : Host → Host) : Run Unit := do
  setHost id (change (← host id))

/-- Whoever needs the registry waits for its lock. -/
def registry (id : Nat) : Run Registry := do
  let registry := (← host id).registry
  if registry.locked then throw .stuck else return registry

/-- Nothing else changes which receivers are registered. -/
def setRegistry (id : Nat) (registry : Registry) : Run Unit := do
  modifyHost id fun host => { host with registry }
  note (.listed id registry.registered)

def modifyRegistry (id : Nat) (change : Registry → Registry) : Run Unit :=
  modifyHost id fun host => { host with registry := change host.registry }

def runtime? (id : Nat) : Run (Option Runtime) := do
  return (← host id).runtime

def modifyRuntime (id : Nat) (change : Runtime → Runtime) : Run Unit :=
  modifyHost id fun host => { host with runtime := host.runtime.map change }

/-- Scripts see the engine, the draws and the log of a host, and what they report goes to the journal. -/
def outside {α : Type} (id : Nat) (act : Script.Outside → α × Script.Outside) : Run α := do
  let world ← get
  let host ← host id
  let (value, after) := act ⟨world.engine, world.draws, host.log, []⟩
  modify fun world => { world with engine := after.engine, draws := after.draws }
  modifyHost id fun host => { host with log := after.log }
  reportAll after.records
  return value

def hooked (label : String) (hook : Hook Operation) : Run Hooked := do
  let id := (← get).uses.length
  modify fun world => { world with uses := world.uses ++ [0] }
  return ⟨id, label, hook⟩

/-- This is the number of calls before this one. -/
def use (hooked : Hooked) : Run Nat := do
  let calls := ((← get).uses[hooked.id]?).getD 0
  modify fun world => { world with uses := world.uses.set hooked.id (calls + 1) }
  return calls

end Run

/-- A caller carries out calls of hooks and the commands of factories. -/
structure Caller where
  hook : Hooked → Arguments → Run Unit
  perform : List (Command Operation) → Run Unit

end ScriptHost.Session

/-
This file carries events to their subscribers and ticks to their listeners.
-/
import ScriptHost.Session.Schedule

namespace ScriptHost.Session

namespace Events

variable (call : Caller)

def callListener (signal : Tick.Signal) : Listener → Run Unit
  | .hook hooked => call.hook hooked (.signal signal)
  | .scheduler host none => discard (Scheduler.tick call host signal)
  | .scheduler host (some name) => do
      Run.note (.tickCommanded host signal)
      Run.note (.ticked name (← Scheduler.tick call host signal))

def listenerRecord (id : Nat) (signal : Tick.Signal) (fault : Fault) : TraceRecord :=
  failure "tick" s!"tick listener failed: {fault.display}"
    [("listener", toString id), ("tick_index", toString signal.index.toNat)]

def broadcast (signal : Tick.Signal) : List (Tick.Listening Listener) → Run Unit
  | [] => return ()
  | listening :: rest => do
      match ← Run.isolate (callListener call signal listening.listener) with
      | none => pure ()
      | some fault => Run.report (listenerRecord listening.id signal fault)
      broadcast signal rest

/-- The clock has taken the signal before any listener hears of it. -/
def nativeTick (host : Nat) (index : UInt64) : Run Unit := do
  let interval := (← get).engine.interval
  let source := (← Run.host host).source
  let signal := Tick.signalOf interval index
  Run.reportAll (Tick.intervalRecords interval ++ Tick.orderRecords source.clock index)
  Run.modifyHost host fun host =>
    { host with source := { host.source with clock := host.source.clock.advance signal } }
  Run.note (.broadcast host signal)
  broadcast call signal source.listeners

/-- A source that was freed hears nothing, and other events than ticks mean nothing to it. -/
def callHandler (event : Event.Builtin) : Handler → Run Unit
  | .hook hooked => call.hook hooked (.event event)
  | .source host => do
      if ¬ (← Run.host host).freed then
        match event with
        | .logicTick index => nativeTick call host index
        | _ => return ()

def callRawHandler (payload : Event.Payload) : Handler → Run Unit
  | .hook hooked => call.hook hooked (.payload payload)
  | .source _ => return ()

def subscriberRecord (name : String) (id : Nat) (fault : Fault) : TraceRecord :=
  failure "events" s!"subscriber failed: {fault.display}"
    [("event", name), ("subscription", toString id)]

def deliver (name : String) (hand : Handler → Run Unit) : List (Event.Subscription Handler) → Run Unit
  | [] => return ()
  | subscription :: rest => do
      match ← Run.isolate (hand subscription.handler) with
      | none => pure ()
      | some fault => Run.report (subscriberRecord name subscription.id fault)
      deliver name hand rest

/-- The subscribers of an event are the ones that are there when its delivery begins. -/
def dispatch (name : String) (payload : Event.Payload) : Run Event.Route := do
  let bridge := (← get).bridge
  match Event.Kind.ofName? name with
  | some kind =>
      match kind.decode payload with
      | .ok event =>
          let subscribers := bridge.typed.under kind
          deliver name (callHandler call event) subscribers
          return .typed subscribers.length
      | .error mismatch =>
          modify fun world => { world with bridge := world.bridge.drop }
          Run.report (warning "events" s!"dropping event: {mismatch.message}" [])
          return .dropped
  | none =>
      let subscribers := bridge.raw.under name
      deliver name (callRawHandler call payload) subscribers
      return .raw subscribers.length

def publish (event : Event.Builtin) : Run Event.Route :=
  dispatch call event.name event.encode

def subscribe (kind : Event.Kind) (handler : Handler) : Run Nat := do
  let (bridge, id) := (← get).bridge.subscribe kind handler
  modify fun world => { world with bridge }
  return id

def rawRecords (event : String) : List TraceRecord :=
  if (Event.Kind.ofName? event).isSome then
    [warning "events" "raw subscription to a built-in event never fires" [("event", event)]]
  else []

def subscribeRaw (event : String) (handler : Handler) : Run Nat := do
  Run.reportAll (rawRecords event)
  let (bridge, id) := (← get).bridge.subscribeRaw event handler
  modify fun world => { world with bridge }
  return id

def unsubscribe (event : String) (id : Nat) : Run Bool := do
  let (bridge, removed) := (← get).bridge.unsubscribe event id
  modify fun world => { world with bridge }
  return removed

/-- A source takes at most one subscription. -/
def hookTicks (host : Nat) : Run Bool := do
  match (← Run.host host).source.subscription with
  | some _ => return false
  | none =>
      let id ← subscribe .logicTick (.source host)
      Run.modifyHost host fun host =>
        { host with source := { host.source with subscription := some id } }
      return true

def unhookTicks (host : Nat) : Run Bool := do
  match (← Run.host host).source.subscription with
  | none => return false
  | some id =>
      Run.modifyHost host fun host =>
        { host with source := { host.source with subscription := none } }
      unsubscribe Event.Kind.logicTick.name id

def listen (host : Nat) (listener : Listener) : Run Nat := do
  let (source, id) := (← Run.host host).source.listen listener
  Run.modifyHost host fun host => { host with source }
  return id

def dismiss (host id : Nat) : Run Bool := do
  let source := (← Run.host host).source
  Run.modifyHost host fun host => { host with source := host.source.dismiss id }
  return source.hasListener id

end Events

end ScriptHost.Session

/-
This file lets receivers come and go and calls them on every tick.
-/
import ScriptHost.Session.World

namespace ScriptHost.Session

def ScriptHook.name : ScriptHook → String
  | .start => "start"
  | .update => "update"
  | .dispose => "dispose"

/-- The unit and the function together name the place of a failure. -/
def ScriptHook.place (unit : Script.CompiledUnit) (hook : ScriptHook) : String :=
  s!"{unit.name}::{hook.name}"

namespace Scheduler

def slot? (host id : Nat) : Run (Option Slot) := do
  return (← Run.host host).registry.slot? id

def setSlot (host id : Nat) (slot : Slot) : Run Unit :=
  Run.modifyRegistry host fun registry => registry.setSlot id slot

def setSubject (host id : Nat) (unit : Script.CompiledUnit) (subject : Script.Value) : Run Unit := do
  match ← slot? host id with
  | some slot =>
      match slot.receiver with
      | .behaviour entity script _ =>
          setSlot host id { slot with receiver := .behaviour entity script (.scripted unit subject) }
      | .system .. => return ()
  | none => return ()

/-- A function that the script does not define is not called. -/
def callScript (host id : Nat) (unit : Script.CompiledUnit) (subject : Script.Value)
    (hook : ScriptHook) (arguments : List Script.Value) : Run Unit := do
  if unit.program.defines hook.name then
    Run.note (.scriptCalled host id hook)
    let (outcome, subject) ← Run.outside host fun outside =>
      let (outcome, subject, outside) := unit.program.callHook hook.name arguments subject outside
      ((outcome, subject), outside)
    setSubject host id unit subject
    match Script.faultOf (hook.place unit) outcome with
    | none => return ()
    | some (.error causes) => throw (.failed causes)
    | some (.panicked message) => throw (.panicked message)

def scriptArguments (entity : Entity) : List Script.Value :=
  [.engine, .integer entity.toInt]

variable (call : Caller)

def start (host id : Nat) (entity : Entity) (script : String) (logic : BehaviourLogic)
    (signal : Tick.Signal) : Run Unit :=
  match logic with
  | .hooked _ start _ _ => call.hook start (.turn entity script signal)
  | .scripted unit subject => callScript host id unit subject .start (scriptArguments entity)

def update (host id : Nat) (entity : Entity) (script : String) (logic : BehaviourLogic)
    (signal : Tick.Signal) : Run Unit :=
  match logic with
  | .hooked _ _ update _ => call.hook update (.turn entity script signal)
  | .scripted unit subject =>
      callScript host id unit subject .update
        (scriptArguments entity ++ [.float signal.duration.toFloat])

def disposeRecord (unit : Script.CompiledUnit) (entity : Entity) (fault : Fault) : TraceRecord :=
  failure "script" fault.display [("unit", unit.name), ("entity", entity.display)]

/-- A script that fails to dispose of its behaviour is reported on the spot; a panic goes on. -/
def disposeScript (host id : Nat) (entity : Entity) (unit : Script.CompiledUnit)
    (subject : Script.Value) : Run Unit := do
  try
    callScript host id unit subject .dispose (scriptArguments entity)
  catch raised =>
    match raised with
    | .failed causes => Run.report (disposeRecord unit entity (.error causes))
    | other => throw other

def finalizer (host id : Nat) : Receiver → Run Unit
  | .system _ logic => call.hook logic.shutdown .none
  | .behaviour _ _ (.hooked _ _ _ dispose) => call.hook dispose .none
  | .behaviour entity _ (.scripted unit subject) => disposeScript host id entity unit subject

def finalizerRecord (fault : Fault) : TraceRecord :=
  failure "scheduler" s!"finalizer failed: {fault.display}" []

def finalize (host id : Nat) (receiver : Receiver) : Run Unit := do
  match ← Run.isolate (finalizer call host id receiver) with
  | none => return ()
  | some fault => Run.report (finalizerRecord fault)

/-- A leaving receiver is finalized as soon as it is not busy. -/
def finish (host id : Nat) : Run Unit := do
  match ← slot? host id with
  | some slot =>
      if ¬ slot.busy ∧ slot.phase = .leaving then
        setSlot host id { slot with phase := .gone }
        Run.note (.finalized host id)
        finalize call host id slot.receiver
  | none => return ()

def retire (host id : Nat) : Run Unit := do
  match ← slot? host id with
  | some slot =>
      if slot.phase = .live then
        setSlot host id { slot with phase := .leaving }
        finish call host id
  | none => return ()

def retireAll (host : Nat) : List Nat → Run Unit
  | [] => return ()
  | id :: rest => do
      retire call host id
      retireAll host rest

/-- All receivers are taken out before the first of them is finalized. -/
def removeWhere (host : Nat) (choose : Receiver → Bool) : Run Nat := do
  let (registry, removed) := (← Run.registry host).take choose
  Run.setRegistry host registry
  retireAll call host removed
  Run.note (.removed host removed)
  return removed.length

def purgeBehaviours (host : Nat) : Run Nat :=
  removeWhere call host fun receiver => receiver.binding?.isSome

def ofEntity (entity : Entity) (receiver : Receiver) : Bool :=
  match receiver.binding? with
  | some binding => binding.1 == entity
  | none => false

def purgeEntity (host : Nat) (entity : Entity) : Run Nat :=
  removeWhere call host (ofEntity entity)

def shutDown (host : Nat) : Run Nat :=
  removeWhere call host fun _ => true

def unregister (host id : Nat) : Run Bool := do
  let registry ← Run.registry host
  if registry.isRegistered id then
    Run.setRegistry host (registry.erase id)
    retire call host id
    Run.note (.removed host [id])
    return true
  else return false

def attachRecord (entity : Entity) (script : String) (fault : Fault) : TraceRecord :=
  failure "scheduler" s!"attach failed: {fault.display}"
    [("entity", entity.display), ("script", script)]

/-- The registry stays locked until the behaviour is attached. -/
def attach (host : Nat) (entity : Entity) (script : String) (logic : BehaviourLogic) : Run Unit :=
  match logic with
  | .hooked attach _ _ _ => do
      Run.modifyRegistry host fun registry => { registry with locked := true }
      let fault ← Run.isolate (call.hook attach (.entity entity))
      Run.modifyRegistry host fun registry => { registry with locked := false }
      match fault with
      | none => return ()
      | some fault => Run.report (attachRecord entity script fault)
  | .scripted .. => return ()

/-- A rejected system is forgotten, and a rejected behaviour is disposed of. -/
def reject (receiver : Receiver) : Run Unit := do
  match receiver with
  | .behaviour _ _ (.hooked _ _ _ dispose) =>
      match ← Run.isolate (call.hook dispose .none) with
      | none => return ()
      | some fault => Run.report (finalizerRecord fault)
  | _ => return ()

def register (host : Nat) (receiver : Receiver) : Run (Option Nat) := do
  if (← Run.registry host).accepts receiver then
    match receiver with
    | .behaviour entity script logic => attach call host entity script logic
    | .system .. => pure ()
    let (registry, id) := (← Run.registry host).add receiver
    Run.setRegistry host registry
    Run.note (.accepted host id)
    return some id
  else
    Run.note (.rejected host receiver)
    reject call receiver
    return none

def logic? : Receiver → Option BehaviourLogic
  | .system .. => none
  | .behaviour _ _ logic => some logic

/-- A script may have changed what its behaviour keeps. -/
def currentLogic (host id : Nat) (logic : BehaviourLogic) : Run BehaviourLogic := do
  return ((← slot? host id).bind fun slot => logic? slot.receiver).getD logic

/-- The first call of a behaviour starts it, and a fault of the start takes the place of the update. -/
def runBehaviour (host id : Nat) (entity : Entity) (script : String) (logic : BehaviourLogic)
    (slot : Slot) (signal : Tick.Signal) : Run (Option Fault) := do
  if slot.started then Run.isolate (update call host id entity script logic signal)
  else
    setSlot host id { slot with started := true }
    match ← Run.isolate (start call host id entity script logic signal) with
    | some fault => return some fault
    | none =>
        let logic ← currentLogic host id logic
        Run.isolate (update call host id entity script logic signal)

def runReceiver (host id : Nat) (slot : Slot) (signal : Tick.Signal) : Run (Option Fault) :=
  match slot.receiver with
  | .system _ logic => Run.isolate (call.hook logic.onTick (.signal signal))
  | .behaviour entity script logic => runBehaviour call host id entity script logic slot signal

def setBusy (host id : Nat) (busy : Bool) : Run Unit := do
  match ← slot? host id with
  | some slot => setSlot host id { slot with busy }
  | none => return ()

/-- A receiver that is busy already waits for itself. -/
def turn (host id : Nat) (slot : Slot) (signal : Tick.Signal) : Run (Option Fault) := do
  if slot.busy then throw .stuck
  Run.note (.turnBegan host id)
  let slot : Slot := { slot with busy := true }
  setSlot host id slot
  let fault ← runReceiver call host id slot signal
  setBusy host id false
  finish call host id
  return fault

def faultRecord (receiver : Receiver) (signal : Tick.Signal) (fault : Fault) : TraceRecord :=
  failure "scheduler" s!"on_tick failed: {fault.display}"
    [("receiver", receiver.label), ("tick", toString signal.index.toNat)]

/-- A receiver that was removed before its turn is passed over. -/
def runAll (host : Nat) (signal : Tick.Signal) : List Nat → Nat × Nat → Run (Nat × Nat)
  | [], counts => return counts
  | id :: rest, (invoked, faults) => do
      let registry := (← Run.host host).registry
      match registry.slot? id with
      | some slot =>
          if registry.isRegistered id then
            match ← turn call host id slot signal with
            | none => runAll host signal rest (invoked + 1, faults)
            | some fault =>
                Run.report (faultRecord slot.receiver signal fault)
                runAll host signal rest (invoked + 1, faults + 1)
          else runAll host signal rest (invoked, faults)
      | none => runAll host signal rest (invoked, faults)

/-- The loose units come from the set that is active when all receivers have been called. -/
def runLoose (host : Nat) (signal : Tick.Signal) : Run Script.RunCount := do
  match ← Run.runtime? host with
  | none => return ⟨0, 0⟩
  | some runtime => do
      Run.note (.unitsBegan host runtime.scripts.active.names signal)
      Run.outside host (Script.runAll signal runtime.scripts.active.units)

/-- The receivers of a tick are the ones that are registered when it begins. -/
def tick (host : Nat) (signal : Tick.Signal) : Run TickReport := do
  let receivers := (← Run.registry host).registered
  Run.note (.tickBegan host signal)
  let (invoked, faults) ← runAll call host signal receivers (0, 0)
  return ⟨invoked, faults, ← runLoose host signal⟩

end Scheduler

end ScriptHost.Session

/-
This file binds the scripts that entities declare to behaviours.
-/
import ScriptHost.Bind.Declaration
import ScriptHost.Session.Schedule

namespace ScriptHost.Session

namespace Binding

def readRecord (entity : Entity) (key : String) (error : NativeError) : TraceRecord :=
  warning "native" s!"reading script data failed: {error.message}"
    [("entity", entity.display), ("key", key)]

def malformedRecord (entity : Entity) (key : String) : TraceRecord :=
  warning "binder" "malformed script declaration" [("entity", entity.display), ("key", key)]

/-- A key that cannot be read counts as one that is not there. -/
def readKey (entity : Entity) (key : String) : Run (Option String) := do
  let engine := (← get).engine
  match engine.panicsOn key with
  | some message => throw (.panicked message)
  | none =>
      match engine.scriptData entity key with
      | .ok value => return value
      | .error error =>
          Run.report (readRecord entity key error)
          return none

def readNames (entity : Entity) (key : String) (parse : String → Option (List String)) :
    Run (Option (List String)) := do
  match ← readKey entity key with
  | none => return none
  | some text =>
      match parse text with
      | some names => return some names
      | none =>
          Run.report (malformedRecord entity key)
          return none

/-- The list counts only where there is no record that can be read. -/
def declared (entity : Entity) : Run (List String) := do
  match ← readNames entity Bind.recordKey Bind.recordNames? with
  | some names => return Bind.tidy names
  | none =>
      match ← readNames entity Bind.listKey Bind.listNames? with
      | some names => return Bind.tidy names
      | none => return []

def behaviourHooks (label : String) (hooks : BehaviourHooks Operation) : Run BehaviourLogic := do
  let attach ← Run.hooked (label ++ ".attach") hooks.attach.panicking
  let start ← Run.hooked (label ++ ".start") hooks.start
  let update ← Run.hooked (label ++ ".update") hooks.update
  let dispose ← Run.hooked (label ++ ".dispose") hooks.dispose.panicking
  return .hooked attach start update dispose

/-- This counts a behaviour that a factory makes, from zero. -/
def countMade (id : Nat) : Run Nat := do
  let factories := (← get).factories
  match factories[id]? with
  | some state =>
      modify fun world =>
        { world with factories := factories.set id { state with made := state.made + 1 } }
      return state.made
  | none => return 0

variable (call : Caller)

def askFactory (id : Nat) (script : String) : Run (Option BehaviourLogic) := do
  match (← get).factories[id]? with
  | none => return none
  | some state =>
      Run.note (.asked id state.place script)
      let asked := state.factory.ask script
      call.perform asked.commands
      match asked.offer with
      | .declined => return none
      | .panic message => throw (.panicked message)
      | .made hooks =>
          let count ← countMade id
          return some (← behaviourHooks s!"{script}#{count}" hooks)

/-- The first factory that makes a behaviour wins. -/
def askChain (script : String) : List Nat → Run (Option BehaviourLogic)
  | [] => return none
  | id :: rest => do
      match ← askFactory call id script with
      | some logic => return some logic
      | none => askChain script rest

/-- The library of a runtime is asked last. -/
def create (host : Nat) (chain : List Nat) (script : String) : Run (Option BehaviourLogic) := do
  match ← askChain call script chain with
  | some logic => return some logic
  | none =>
      match ← Run.runtime? host with
      | none => return none
      | some runtime =>
          return (runtime.behaviours.find? script).map fun unit => .scripted unit (.map [])

def factoryRecord (entity : Entity) (script : String) (fault : Fault) : TraceRecord :=
  failure "binder" s!"behaviour factory failed: {fault.display}"
    [("entity", entity.display), ("script", script)]

def unresolvedRecord (entity : Entity) (script : String) : TraceRecord :=
  warning "binder" "unresolved behaviour reference"
    [("entity", entity.display), ("script", script)]

/-- A factory that panics makes nothing. -/
def createSafely (host : Nat) (chain : List Nat) (entity : Entity) (script : String) :
    Run (Option BehaviourLogic) := do
  try
    create call host chain script
  catch raised =>
    match raised with
    | .failed causes =>
        Run.report (factoryRecord entity script (.error causes))
        return none
    | .panicked message =>
        Run.report (factoryRecord entity script (.panicked message))
        return none
    | other => throw other

/-- A pass keeps the bindings that it knows of beside its report. -/
structure Pass where
  bound : List (Entity × String)
  report : BindReport

def Pass.known (pass : Pass) : Pass :=
  { pass with report := { pass.report with alreadyBound := pass.report.alreadyBound + 1 } }

def Pass.unresolved (pass : Pass) (entity : Entity) (script : String) : Pass :=
  { pass with
    report := { pass.report with unresolved := pass.report.unresolved ++ [(entity, script)] } }

def Pass.attached (pass : Pass) : Pass :=
  { pass with report := { pass.report with attached := pass.report.attached + 1 } }

def Pass.bind (pass : Pass) (entity : Entity) (script : String) : Pass :=
  { pass with bound := (entity, script) :: pass.bound }

def bindName (host : Nat) (chain : List Nat) (entity : Entity) (pass : Pass) (script : String) : Run Pass := do
  if pass.bound.contains (entity, script) then return pass.known
  else
    match ← createSafely call host chain entity script with
    | none =>
        Run.report (unresolvedRecord entity script)
        return pass.unresolved entity script
    | some logic =>
        match ← Scheduler.register call host (.behaviour entity script logic) with
        | some _ => return pass.attached.bind entity script
        | none => return pass.known.bind entity script

def bindNames (host : Nat) (chain : List Nat) (entity : Entity) : Pass → List String → Run Pass
  | pass, [] => return pass
  | pass, name :: rest => do
      let pass ← bindName call host chain entity pass name
      bindNames host chain entity pass rest

def bindEntities (host : Nat) (chain : List Nat) : Pass → List Entity → Run Pass
  | pass, [] => return pass
  | pass, entity :: rest => do
      let pass ← bindNames call host chain entity pass (← declared entity)
      bindEntities host chain pass rest

/-- Each entity comes once, in ascending order. -/
def insertEntity (entity : Entity) : List Entity → List Entity
  | [] => [entity]
  | held :: rest =>
      if entity.bits < held.bits then entity :: held :: rest
      else if entity = held then held :: rest
      else held :: insertEntity entity rest

def orphans (bound : List (Entity × String)) (live : List Entity) : List Entity :=
  ((bound.map Prod.fst).filter fun entity => !live.contains entity).foldr insertEntity []

def prune (host : Nat) : List Entity → Nat → Run Nat
  | [], pruned => return pruned
  | entity :: rest, pruned => do
      let removed ← Scheduler.purgeEntity call host entity
      prune host rest (pruned + removed)

def capRecord (cap : Nat) : TraceRecord :=
  warning "binder" "entity snapshot hit the cap; skipping orphan pruning" [("cap", toString cap)]

/-- Entities past the cap were not looked at, so nothing is pruned when the cap is reached. -/
def pass (host : Nat) (chain : List Nat) (cap : Nat) (entities : List Entity) : Run BindReport := do
  let bound := (← Run.registry host).bindings
  let truncated : Bool := cap ≤ entities.length
  let pass ← bindEntities call host chain
    ⟨bound, ⟨entities.length, 0, 0, [], 0, truncated⟩⟩ entities
  if truncated then
    Run.report (capRecord cap)
    return pass.report
  else
    let pruned ← prune call host (orphans pass.bound entities) 0
    return { pass.report with pruned }

def setBusy (host : Nat) (busy : Bool) : Run Unit :=
  Run.modifyHost host fun host => { host with binder := { host.binder with busy } }

/-- A pass that begins during another pass of the same binder waits for itself. -/
def bindAll (host : Nat) : Run (Except NativeError BindReport) := do
  let binder := (← Run.host host).binder
  if binder.busy then throw .stuck
  match (← get).engine.liveEntities binder.cap with
  | .error error => return .error error
  | .ok entities =>
      setBusy host true
      return .ok (← Run.afterwards (pass call host binder.factories binder.cap entities) (setBusy host false))

end Binding

end ScriptHost.Session

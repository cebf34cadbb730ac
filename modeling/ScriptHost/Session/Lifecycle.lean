/-
This file takes runtimes from their creation to their end.
-/
import ScriptHost.Session.Binding
import ScriptHost.Session.Events
import ScriptHost.Session.Watching

namespace ScriptHost.Session

open File (Pathname RootKind)

namespace Runtime

/-- Every root enters the table under its kind, and equal roots keep the first. -/
def rootTable (tree : File.Tree) (config : Config) : File.RootTable :=
  let roots : List (Pathname × RootKind) :=
    [(config.scriptRoot, .scripts), (config.behaviourRoot, .behaviours),
      (config.questRoot, .quests), (config.encounterRoot, .encounters)]
  roots.foldl (fun table entry => (table.insert tree entry.1 entry.2).1) .empty

def create (tree : File.Tree) (config : Config) : Runtime :=
  let cache (kind : RootKind) (root : Pathname) : Script.UnitCache :=
    .create kind.label root config.scriptExtension
  { config
    scripts := cache .scripts config.scriptRoot
    behaviours := cache .behaviours config.behaviourRoot
    quests := .create .quest (cache .quests config.questRoot)
    encounters := .create .encounter (cache .encounters config.encounterRoot)
    roots := rootTable tree config
    listener := none
    watch := none
    state := .created }

end Runtime

namespace Lifecycle

def addFactories : Nat → List (Factory Operation) → Run (List Nat)
  | _, [] => return []
  | place, factory :: rest => do
      let id := (← get).factories.length
      modify fun world => { world with factories := world.factories ++ [⟨factory, place, 0⟩] }
      let ids ← addFactories (place + 1) rest
      return id :: ids

/-- The context takes one runtime at a time. -/
def create (config : Config) (factories : List (Factory Operation)) : Run (Option Nat) := do
  if (← get).claimed then return none
  else
    let runtime := Runtime.create (← get).tree config
    let chain ← addFactories 0 factories
    let id := (← get).hosts.length
    let host := Host.create chain (max 1 config.maxBindEntities.toNat) (some runtime)
    modify fun world => { world with claimed := true, hosts := world.hosts ++ [host] }
    return some id

def setState (host : Nat) (state : RuntimeState) : Run Unit :=
  Run.modifyRuntime host fun runtime => { runtime with state }

def loadRecord (kind : RootKind) (error : Script.Error) : TraceRecord :=
  warning "runtime" s!"initial load failed: {error.message}" [("root", kind.label)]

def loadRoots (host : Nat) : List RootKind → Run Unit
  | [] => return ()
  | kind :: rest => do
      match ← Run.runtime? host with
      | none => return ()
      | some runtime =>
          match ← Watching.reloadRoot host runtime kind with
          | none => pure ()
          | some error => Run.report (loadRecord kind error)
          loadRoots host rest

def bindRecord (error : NativeError) : TraceRecord :=
  warning "runtime" s!"initial bind failed: {enumerationMessage error}" []

variable (call : Caller)

/-- The runtime counts as running before its first pass begins. -/
def start (host : Nat) : Run Unit := do
  loadRoots host RootKind.all
  discard (Events.hookTicks host)
  let listener ← Events.listen host (.scheduler host none)
  Run.modifyRuntime host fun runtime => { runtime with listener := some listener }
  match ← Run.runtime? host with
  | none => return ()
  | some runtime =>
      if runtime.config.hotReload then Watching.begin host runtime
      setState host .running
      match ← Binding.bindAll call host with
      | .ok _ => return ()
      | .error error => Run.report (bindRecord error)

/-- The context is released when all receivers are gone. -/
def shutDown (host : Nat) (runtime : Runtime) : Run Bool := do
  if runtime.state = .shutDown then return false
  else
    setState host .shutDown
    match runtime.listener with
    | some listener => discard (Events.dismiss host listener)
    | none => pure ()
    Run.modifyRuntime host fun runtime => { runtime with listener := none }
    discard (Events.unhookTicks host)
    Run.modifyRuntime host fun runtime => { runtime with watch := none }
    Run.note (.shutDownBegan host)
    discard (Scheduler.shutDown call host)
    modify fun world => { world with claimed := false }
    return true

/-- All behaviours go before the first new one is bound. -/
def reloadScene (host : Nat) : Run (Except NativeError BindReport) := do
  discard (Scheduler.purgeBehaviours call host)
  Binding.bindAll call host

/-- A host that nobody names or uses is shut down and freed. -/
def free (host : Nat) : Run Unit := do
  let state ← Run.host host
  if ¬ state.named ∧ state.users = 0 ∧ ¬ state.freed then
    match state.runtime with
    | some runtime => discard (shutDown call host runtime)
    | none => pure ()
    Run.modifyHost host fun host => { host with freed := true }

/-- A host is not freed while it is used. -/
def whileUsing {α : Type} (host : Nat) (body : Run α) : Run α := do
  Run.modifyHost host fun host => { host with users := host.users + 1 }
  Run.afterwards body do
    Run.modifyHost host fun host => { host with users := host.users - 1 }
    free call host

def forget (host : Nat) : Run Unit := do
  Run.modifyHost host fun host => { host with named := false }
  free call host

end Lifecycle

end ScriptHost.Session

/-
This file runs scenes and reports what became of them.
-/
import ScriptHost.CommandLine
import ScriptHost.Scene.Report
import ScriptHost.Session.Perform

namespace ScriptHost.Scene

open File (Pathname)
open Session (Run)

namespace Actor

def jsonList (texts : List String) : Json.Value :=
  .array (texts.map Json.Value.string)

/-- Both declarations replace data of the same key, and an empty one is not written. -/
def texts (actor : Actor) : List (String × String) :=
  [("name", actor.name)] ++ actor.data ++
    (if actor.legacyScripts.isEmpty then []
      else [("scripts", (jsonList actor.legacyScripts).write)]) ++
    (if actor.scripts.isEmpty then []
      else [("ScriptComponent", (Json.Value.object [("scripts", jsonList actor.scripts)]).write)])

def writeTexts (entity : Entity) : List (String × String) → Engine → Except NativeError Engine
  | [], engine => .ok engine
  | (key, text) :: rest, engine =>
      match engine.setScriptData entity key text with
      | (engine, .ok ()) => writeTexts entity rest engine
      | (_, .error error) => .error error

def writeComponents (entity : Entity) :
    List (String × Json.Value) → Engine → Except NativeError Engine
  | [], engine => .ok engine
  | (key, value) :: rest, engine =>
      match engine.setComponent entity key value.write with
      | (engine, .ok ()) => writeComponents entity rest engine
      | (_, .error error) => .error error

def spawn (actor : Actor) (engine : Engine) : Except Error (Engine × Entity) :=
  let (engine, entity) := engine.spawn []
  match writeTexts entity actor.texts engine >>= writeComponents entity actor.components with
  | .ok engine => .ok (engine, entity)
  | .error _ => .error (.spawning actor.name)

end Actor

def spawnAll : List Actor → Engine → Except Error (Engine × List Entity)
  | [], engine => .ok (engine, [])
  | actor :: rest, engine => do
      let (engine, entity) ← actor.spawn engine
      let (engine, entities) ← spawnAll rest engine
      return (engine, entity :: entities)

/-- An entity that is not of the scene stands at the last place. -/
def placeOf (entities : List Entity) (entity : Entity) : UInt64 :=
  match entities.findIdx? (· == entity) with
  | some place => UInt64.ofNat place
  | none => UInt64.ofNat 0xffffffffffffffff

def binding (entities : List Entity) (bound : Entity × String) : Binding :=
  ⟨placeOf entities bound.1, bound.2⟩

def finalStates (engine : Engine) : Nat → List Actor → List Entity → List FinalState
  | place, actor :: actors, entity :: entities =>
      ⟨UInt64.ofNat place, actor.name, engine.entries entity⟩ ::
        finalStates engine (place + 1) actors entities
  | _, _, _ => []

def caller : Session.Caller :=
  Session.caller Session.nestingLimit

/-- The lines of a tick are the ones that were logged while it was delivered. -/
def runTicks (host : Nat) : Nat → Nat → Run (List TickLog)
  | 0, _ => return []
  | count + 1, next => do
      let tick := UInt64.ofNat next
      discard (Session.Events.publish caller (.logicTick tick))
      let lines ← Session.Perform.takeLogs host
      let rest ← runTicks host count (next + 1)
      return ⟨tick, lines⟩ :: rest

def rebound (entities : List Entity) (report : Session.BindReport) : Rebound :=
  ⟨report.attached, report.alreadyBound, report.unresolved.map (binding entities)⟩

def stopped : Session.Raised := .failed ["the scene cannot be run"]

def runtimeOf (host : Nat) : Run Session.Runtime := do
  match ← Run.runtime? host with
  | some runtime => return runtime
  | none => throw stopped

def bindAgain (host : Nat) : Run Session.BindReport := do
  match ← Session.Binding.bindAll caller host with
  | .ok report => return report
  | .error error => throw (.failed [Session.enumerationMessage error])

/-- What was logged before the first tick is dropped. -/
def run (scene : Scene) (config : Config) (entities : List Entity) : Run Report := do
  match ← Session.Lifecycle.create config [] with
  | none => throw stopped
  | some host =>
      Session.Lifecycle.start caller host
      let loaded ← runtimeOf host
      discard (Session.Perform.takeLogs host)
      let results ← runTicks host scene.ticks.toNat 0
      let report ← bindAgain host
      let registry ← Run.registry host
      let final ← runtimeOf host
      return {
        ticks := scene.ticks
        interval := scene.interval
        units := loaded.scripts.active.names
        behaviours := loaded.behaviours.active.names
        results
        bindings := registry.bindings.map (binding entities)
        rebound := rebound entities report
        quests := final.quests.ids
        encounters := final.encounters.ids
        final := finalStates (← get).engine 0 scene.actors entities }

def raisedReason : Session.Raised → String
  | .failed causes => causes.head?.getD ""
  | .panicked message => message
  | .stuck => "the scene waits for itself"
  | .exhausted => "the scene nests too deep"

def runWith (tree : File.Tree) (draws : Script.Draws) (scene : Scene) (config : Config) : Except Error Report := do
  let (engine, entities) ← spawnAll scene.actors (.create scene.interval)
  let world := { Session.World.create tree draws with engine }
  match ((run scene config entities).run).run world with
  | (.ok report, _) => .ok report
  | (.error raised, _) => .error (.failed (raisedReason raised))

def runScene (tree : File.Tree) (draws : Script.Draws) (scene : Scene) : Except Error Report :=
  runWith tree draws scene scene.config

/-- Without a scene the roots of the settings are run with no entities. -/
def bare (ticks : UInt64) : Scene :=
  ⟨⟨"."⟩, ticks, Engine.standardInterval, []⟩

def configFor (tree : File.Tree) (options : CommandLine.Options) : Except Error Config :=
  match options.config with
  | none => .ok (Config.standard.apply options.overrides)
  | some path =>
      match Config.load tree path with
      | .error error => .error (.config error)
      | .ok config =>
          .ok ((config.resolveRoots (path.parent.getD ⟨"."⟩)).apply options.overrides)

/-- A scene brings its own roots; only the extension and the cap come from the settings. -/
def sceneConfig (config : Config) (scene : Scene) : Config :=
  { scene.config with
    scriptExtension := config.scriptExtension
    maxBindEntities := config.maxBindEntities }

/-- This finds out what is to be run before any script is read. -/
def prepare (tree : File.Tree) (options : CommandLine.Options) : Except Error (Scene × Config) := do
  let config ← configFor tree options
  match options.fixture with
  | none => return (bare (options.ticks.getD 1), { config with hotReload := false })
  | some path => do
      let scene ← load tree path
      return ({ scene with ticks := options.ticks.getD scene.ticks }, sceneConfig config scene)

def runOptions (tree : File.Tree) (draws : Script.Draws) (options : CommandLine.Options) : Except Error Report := do
  let (scene, config) ← prepare tree options
  runWith tree draws scene config

end ScriptHost.Scene

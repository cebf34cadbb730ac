/-
This file holds the settings of a runtime.
-/
import ScriptHost.File.Tree
import ScriptHost.Json.Record

namespace ScriptHost

open File (Pathname)

structure Config where
  scriptRoot : Pathname
  behaviourRoot : Pathname
  questRoot : Pathname
  encounterRoot : Pathname
  scriptExtension : String
  maxBindEntities : UInt64
  watchPollInterval : UInt64
  hotReload : Bool
  logLevel : String
  deriving DecidableEq, Repr

/-- Settings that a command line may replace. -/
structure Overrides where
  scriptRoot : Option Pathname
  behaviourRoot : Option Pathname
  hotReload : Option Bool
  logLevel : Option String
  deriving DecidableEq, Repr

inductive ConfigError where
  | unreadable (path : Pathname)
  | malformed (path : Pathname)
  deriving DecidableEq, Repr

def ConfigError.message : ConfigError → String
  | .unreadable path => s!"Failed to read config file {path.text}"
  | .malformed path => s!"Failed to parse config file {path.text}"

namespace Config

def standard : Config where
  scriptRoot := ⟨"assets/scripts"⟩
  behaviourRoot := ⟨"assets/behaviours"⟩
  questRoot := ⟨"assets/quests"⟩
  encounterRoot := ⟨"assets/encounters"⟩
  scriptExtension := "rhai"
  maxBindEntities := 4096
  watchPollInterval := 300
  hotReload := true
  logLevel := "info"

def fieldNames : List String :=
  ["script_root", "behaviour_root", "quest_root", "encounter_root", "script_extension",
    "max_bind_entities", "watch_poll_interval_ms", "hot_reload", "log_level"]

def readPath (form : Json.Form) : Option Pathname :=
  form.string?.map Pathname.mk

/-- A missing field takes its standard value. -/
def overlay (base : Config) (form : Json.Form) : Option Config := do
  match ← form.record? fieldNames with
  | [scripts, behaviours, quests, encounters, extension, cap, poll, hotReload, level] =>
      return {
        scriptRoot := ← scripts.orElse base.scriptRoot readPath
        behaviourRoot := ← behaviours.orElse base.behaviourRoot readPath
        questRoot := ← quests.orElse base.questRoot readPath
        encounterRoot := ← encounters.orElse base.encounterRoot readPath
        scriptExtension := ← extension.orElse base.scriptExtension Json.Form.string?
        maxBindEntities := ← cap.orElse base.maxBindEntities Json.Form.natural?
        watchPollInterval := ← poll.orElse base.watchPollInterval Json.Form.natural?
        hotReload := ← hotReload.orElse base.hotReload Json.Form.boolean?
        logLevel := ← level.orElse base.logLevel Json.Form.string? }
  | _ => none

def ofBytes? (bytes : List UInt8) : Option Config := do
  let form ← Json.Form.readBytes bytes
  standard.overlay form

def load (tree : File.Tree) (path : Pathname) : Except ConfigError Config :=
  match tree.read? path with
  | none => .error (.unreadable path)
  | some bytes =>
      match ofBytes? bytes with
      | none => .error (.malformed path)
      | some config => .ok config

def loadOrStandard (tree : File.Tree) (path : Pathname) : Config :=
  match load tree path with
  | .ok config => config
  | .error _ => standard

/-- Only relative roots are moved below the base. -/
def resolveRoots (config : Config) (base : Pathname) : Config :=
  { config with
    scriptRoot := config.scriptRoot.resolveAgainst base
    behaviourRoot := config.behaviourRoot.resolveAgainst base
    questRoot := config.questRoot.resolveAgainst base
    encounterRoot := config.encounterRoot.resolveAgainst base }

/-- The interval is at least one millisecond. -/
def pollInterval (config : Config) : UInt64 :=
  if config.watchPollInterval = 0 then 1 else config.watchPollInterval

def apply (config : Config) (overrides : Overrides) : Config :=
  { config with
    scriptRoot := overrides.scriptRoot.getD config.scriptRoot
    behaviourRoot := overrides.behaviourRoot.getD config.behaviourRoot
    hotReload := overrides.hotReload.getD config.hotReload
    logLevel := overrides.logLevel.getD config.logLevel }

end Config

namespace Overrides

def none : Overrides := ⟨Option.none, Option.none, Option.none, Option.none⟩

def appliedFields (overrides : Overrides) : List String :=
  (if overrides.scriptRoot.isSome then ["script_root"] else []) ++
  (if overrides.behaviourRoot.isSome then ["behaviour_root"] else []) ++
  (if overrides.hotReload.isSome then ["hot_reload"] else []) ++
  (if overrides.logLevel.isSome then ["log_level"] else [])

def isEmpty (overrides : Overrides) : Bool :=
  overrides.appliedFields.isEmpty

end Overrides

end ScriptHost

/-
This file reads scenes. A scene says where its scripts are, which entities it has, and how many ticks
it is run for.
-/
import ScriptHost.Config
import ScriptHost.Engine.Store

namespace ScriptHost.Scene

/-- The declarations of scripts come in both forms that are understood. -/
structure Actor where
  name : String
  scripts : List String
  legacyScripts : List String
  data : List (String × String)
  components : List (String × Json.Value)
  deriving Repr

end ScriptHost.Scene

namespace ScriptHost

structure Scene where
  root : File.Pathname
  ticks : UInt64
  interval : Float32
  actors : List Scene.Actor
  deriving Repr

end ScriptHost

namespace ScriptHost.Scene

open File (Pathname)

inductive Error where
  | config (error : ConfigError)
  | missing (path : Pathname)
  | malformed
  | spawning (name : String)
  | failed (reason : String)
  deriving DecidableEq, Repr

def Error.message : Error → String
  | .config error => error.message
  | .missing path => s!"opening fixture '{path.text}'"
  | .malformed => "parsing fixture JSON"
  | .spawning name => s!"spawning fixture entity '{name}'"
  | .failed reason => reason

namespace Actor

/-- Four levels of the scene stand around a component. -/
def componentDepth : Nat := Json.depthLimit - 4

def read? (form : Json.Form) : Option Actor := do
  match ← form.record? ["name", "scripts", "legacy_scripts", "script_data", "components"] with
  | [name, scripts, legacyScripts, data, components] =>
      return {
        name := ← name.required Json.Form.string?
        scripts := ← scripts.orElse [] Json.Form.strings?
        legacyScripts := ← legacyScripts.orElse [] Json.Form.strings?
        data := ← data.orElse [] (Json.Form.dictionary? Json.Form.string?)
        components := ← components.orElse []
          (Json.Form.dictionary? (Json.Form.value? componentDepth)) }
  | _ => none

end Actor

def readActors? (form : Json.Form) : Option (List Actor) := do
  let items ← form.items?
  items.mapM Actor.read?

/-- The root is a path from the directory of the scene. -/
def read? (form : Json.Form) : Option Scene := do
  match ← form.record? ["root", "ticks", "dt", "entities"] with
  | [root, ticks, interval, actors] =>
      return {
        root := ← root.orElse ⟨"."⟩ Config.readPath
        ticks := ← ticks.orElse 1 Json.Form.natural?
        interval := ← interval.orElse Engine.standardInterval Json.Form.single?
        actors := ← actors.orElse [] readActors? }
  | _ => none

/-- A directory can be opened, but it holds no text. -/
def load (tree : File.Tree) (path : Pathname) : Except Error Scene :=
  if ¬ tree.exists? path then .error (.missing path)
  else
    match (tree.read? path).bind fun bytes => (Json.Form.readBytes bytes).bind read? with
    | none => .error .malformed
    | some scene =>
        .ok { scene with root := scene.root.resolveAgainst (path.parent.getD ⟨"."⟩) }

/-- All roots stand below the root of the scene, and files are not watched. -/
def config (scene : Scene) : Config :=
  { Config.standard with
    scriptRoot := scene.root.joinName "scripts"
    behaviourRoot := scene.root.joinName "behaviours"
    questRoot := scene.root.joinName "quests"
    encounterRoot := scene.root.joinName "encounters"
    hotReload := false }

end ScriptHost.Scene

/-
This file loads definitions from content scripts. Every unit gives one definition or one error, and of
two definitions with the same id the first is kept.
-/
import ScriptHost.Content.Definition
import ScriptHost.Script.Evaluate
import ScriptHost.Script.Library
import ScriptHost.Text.Blank

namespace ScriptHost.Content

open Script (Value)

inductive Error where
  | failed (error : Script.Error)
  | panicked (name message : String)
  | notAnObject (name : String)
  | wrongKind (name : String) (expected : Kind) (found : String)
  | invalid (name : String) (kind : Kind)
  | emptyId (name : String)
  | duplicateId (name id : String)
  deriving DecidableEq, Repr

def Error.message : Error → String
  | .failed error => error.message
  | .panicked name message => s!"'{name}' panicked: {message}"
  | .notAnObject name => s!"'{name}' did not return an object map"
  | .wrongKind name expected found =>
      s!"'{name}' declares kind '{found}', expected '{expected.label}'"
  | .invalid name kind => s!"'{name}' is not a valid {kind.label}"
  | .emptyId name => s!"'{name}' has an empty id"
  | .duplicateId name id => s!"'{name}' redefines '{id}'"

/-- A kind that is not a string counts as an empty one. -/
def foundKind (entries : List (String × Value)) : String :=
  ((Value.lookup "kind" entries).bind Definition.string?).getD ""

def ofMap (kind : Kind) (name : String) (entries : List (String × Value)) :
    Except Error Definition :=
  if foundKind entries ≠ kind.label then .error (.wrongKind name kind (foundKind entries))
  else
    match Definition.read? kind entries with
    | none => .error (.invalid name kind)
    | some definition =>
        if Text.trim definition.id = "" then .error (.emptyId name) else .ok definition

def ofOutcome (kind : Kind) (name : String) : Script.Outcome → Except Error Definition
  | .failed reason => .error (.failed (.failed name reason))
  | .exhausted => .error (.failed (.failed name "too many steps"))
  | .panicked message => .error (.panicked name message)
  | .value (.map entries) => ofMap kind name entries
  | .value _ => .error (.notAnObject name)

/-- Only the ids of definitions that were kept are taken. -/
def judge (kind : Kind) (taken : List String) (name : String) (outcome : Script.Outcome) :
    Except Error Definition :=
  match ofOutcome kind name outcome with
  | .error error => .error error
  | .ok definition =>
      if taken.contains definition.id then .error (.duplicateId name definition.id)
      else .ok definition

def skipRecord (kind : Kind) (error : Error) : TraceRecord :=
  warning "content" s!"skipping {error.message}" [("kind", kind.label)]

/-- Content scripts see the engine alone. -/
def contentVariables : List Script.Variable :=
  [⟨"engine", .engine, false⟩]

structure Loaded where
  definitions : List Definition
  skipped : List Error
  deriving DecidableEq, Repr

def loadUnits (kind : Kind) : List String → List Script.CompiledUnit → Script.Outside →
    Loaded × Script.Outside
  | _, [], outside => (⟨[], []⟩, outside)
  | taken, unit :: rest, outside =>
      let (outcome, outside) := unit.program.run contentVariables outside
      match judge kind taken unit.name outcome with
      | .ok definition =>
          let (loaded, outside) := loadUnits kind (definition.id :: taken) rest outside
          ({ loaded with definitions := definition :: loaded.definitions }, outside)
      | .error error =>
          let (loaded, outside) := loadUnits kind taken rest (outside.report (skipRecord kind error))
          ({ loaded with skipped := error :: loaded.skipped }, outside)

/-- A loader publishes the definitions of the set that was loaded last. -/
structure Loader where
  kind : Kind
  cache : Script.UnitCache
  published : List Definition

namespace Loader

def create (kind : Kind) (cache : Script.UnitCache) : Loader := ⟨kind, cache, []⟩

def find? (loader : Loader) (id : String) : Option Definition :=
  loader.published.find? fun definition => definition.id == id

def ids (loader : Loader) : List String :=
  loader.published.map Definition.id

/-- An unreadable root changes neither the cache nor the published definitions. -/
def reload (tree : File.Tree) (loader : Loader) (outside : Script.Outside) :
    Loader × Script.Outside × Except Script.Error Loaded :=
  match loader.cache.reload tree with
  | (cache, records, .error error) =>
      ({ loader with cache }, records.foldl Script.Outside.report outside, .error error)
  | (cache, records, .ok set) =>
      let (loaded, outside) :=
        loadUnits loader.kind [] set.units (records.foldl Script.Outside.report outside)
      (⟨loader.kind, cache, loaded.definitions⟩, outside, .ok loaded)

end Loader

end ScriptHost.Content

/-
This file holds the reports of scenes and their JSON form.
-/
import ScriptHost.Json.Pretty
import ScriptHost.Scene.Basic

namespace ScriptHost.Scene

structure TickLog where
  tick : UInt64
  lines : List String
  deriving DecidableEq, Repr

/-- Entities are named by their place in the scene. -/
structure Binding where
  place : UInt64
  script : String
  deriving DecidableEq, Repr

structure Rebound where
  attached : Nat
  alreadyBound : Nat
  unresolved : List Binding
  deriving DecidableEq, Repr

structure FinalState where
  place : UInt64
  name : String
  data : List (String × String)
  deriving DecidableEq, Repr

structure Report where
  ticks : UInt64
  interval : Float32
  units : List String
  behaviours : List String
  results : List TickLog
  bindings : List Binding
  rebound : Rebound
  quests : List String
  encounters : List String
  final : List FinalState

namespace Report

def count (value : Nat) : Json.Value :=
  .number (.natural (UInt64.ofNat value))

def word (value : UInt64) : Json.Value :=
  .number (.natural value)

def strings (texts : List String) : Json.Value :=
  .array (texts.map Json.Value.string)

def ofBinding (binding : Binding) : Json.Value :=
  .object [("entity", word binding.place), ("script", .string binding.script)]

def ofTick (log : TickLog) : Json.Value :=
  .object [("tick", word log.tick), ("logs", strings log.lines)]

def ofRebound (rebound : Rebound) : Json.Value :=
  .object [("attached", count rebound.attached), ("already_bound", count rebound.alreadyBound),
    ("unresolved", .array (rebound.unresolved.map ofBinding))]

def ofFinal (state : FinalState) : Json.Value :=
  .object [("entity", word state.place), ("name", .string state.name),
    ("script_data", .object (state.data.map fun entry => (entry.1, .string entry.2)))]

/-- A single precision float is written with its own digits, which are fewer than those of a double. -/
def ofSingle (value : Float32) : Json.Value :=
  let text := (Decimal.single.read value.toBits.toNat).write Json.layout
  (Json.Value.read? text).getD .null

def json (report : Report) : Json.Value :=
  .object [("ticks", word report.ticks), ("dt", ofSingle report.interval),
    ("units", strings report.units), ("behaviours", strings report.behaviours),
    ("results", .array (report.results.map ofTick)),
    ("bindings", .array (report.bindings.map ofBinding)), ("rebind", ofRebound report.rebound),
    ("quests", strings report.quests), ("encounters", strings report.encounters),
    ("final_entities", .array (report.final.map ofFinal))]

end Report

end ScriptHost.Scene

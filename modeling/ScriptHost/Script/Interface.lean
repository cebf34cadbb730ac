/-
This file holds the functions that scripts can call without defining them.
-/
import ScriptHost.Engine.Store
import ScriptHost.Script.Exchange
import ScriptHost.Text.Blank
import ScriptHost.Trace

namespace ScriptHost.Script

/-- A draw answers two bounds with a number, or it panics because of them. -/
abbrev Draw := Float → Float → Except String Float

/-- These are the draws to come, one after the other. -/
abbrev Draws := Nat → Draw

namespace Draws

def rest (draws : Draws) : Draws := fun place => draws (place + 1)

/-- Such draws always give the lower bound. -/
def lowest : Draws := fun _ low _ => .ok low

end Draws

/-- This is all that a script can touch outside itself. -/
structure Outside where
  engine : Engine
  draws : Draws
  log : List String
  records : List TraceRecord

namespace Outside

def say (outside : Outside) (line : String) : Outside :=
  { outside with log := outside.log ++ [line] }

def report (outside : Outside) (record : TraceRecord) : Outside :=
  { outside with records := outside.records ++ [record] }

def warnNative (outside : Outside) (message : String) (fields : List (String × String)) : Outside :=
  outside.report (warning "native" message fields)

end Outside

/-- A call answers, is refused because nothing fits it, or makes the engine panic. -/
inductive Reply where
  | answer (value : Value) (outside : Outside)
  | refused
  | panicked (message : String)

namespace Interface

def entities (outside : Outside) : Reply :=
  match outside.engine.liveEntities 0x10000000000000000 with
  | .ok list => .answer (.array (list.map fun entity => .integer entity.toInt)) outside
  | .error error => .answer (.array []) (outside.warnNative s!"entities(): {error.message}" [])

def isAlive (handle : Int64) (outside : Outside) : Reply :=
  match Entity.ofInt handle with
  | some entity => .answer (.boolean (outside.engine.isAlive entity)) outside
  | none => .answer (.boolean false) outside

def createEntity (outside : Outside) : Reply :=
  match outside.engine.createEntity with
  | (engine, .ok entity) => .answer (.integer entity.toInt) { outside with engine }
  | (_, .error error) =>
      .answer (.integer (-1)) (outside.warnNative s!"create_entity(): {error.message}" [])

/-- A write answers whether it was done, and a refused write is reported. -/
def settle (outside : Outside) (call : String) (fields : List (String × String))
    (result : Engine × Except NativeError Unit) : Reply :=
  match result with
  | (engine, .ok ()) => .answer (.boolean true) { outside with engine }
  | (_, .error error) =>
      .answer (.boolean false) (outside.warnNative s!"{call}(): {error.message}" fields)

def destroyEntity (handle : Int64) (outside : Outside) : Reply :=
  match Entity.ofInt handle with
  | none => .answer (.boolean false) outside
  | some entity =>
      settle outside "destroy_entity" [("entity", entity.display)]
        (outside.engine.destroyEntity entity)

/-- Text that is no JSON reads as the unit. -/
def getComponent (handle : Int64) (component : String) (outside : Outside) : Reply :=
  match Entity.ofInt handle with
  | none => .answer .unit outside
  | some entity =>
      let fields := [("entity", entity.display), ("component", component)]
      match outside.engine.component entity component with
      | .error error =>
          .answer .unit (outside.warnNative s!"get_component(): {error.message}" fields)
      | .ok none => .answer .unit outside
      | .ok (some text) =>
          match Json.Value.read? text with
          | some value => .answer (Value.ofJson value) outside
          | none =>
              .answer .unit (outside.warnNative "component payload is not JSON" fields)

def setComponent (handle : Int64) (component : String) (value : Value) (outside : Outside) : Reply :=
  match Entity.ofInt handle with
  | none => .answer (.boolean false) outside
  | some entity =>
      let fields := [("entity", entity.display), ("component", component)]
      match value.toJson? with
      | none =>
          .answer (.boolean false)
            (outside.report (warning "script" "set_component() value is not serializable" fields))
      | some json =>
          settle outside "set_component" fields
            (outside.engine.setComponent entity component json.write)

def getScriptData (handle : Int64) (key : String) (outside : Outside) : Reply :=
  match Entity.ofInt handle with
  | none => .answer .unit outside
  | some entity =>
      match outside.engine.panicsOn key with
      | some message => .panicked message
      | none =>
          match outside.engine.scriptData entity key with
          | .ok (some text) => .answer (.string text) outside
          | .ok none => .answer .unit outside
          | .error error =>
              .answer .unit (outside.warnNative s!"get_script_data(): {error.message}"
                [("entity", entity.display), ("key", key)])

def setScriptData (handle : Int64) (key value : String) (outside : Outside) : Reply :=
  match Entity.ofInt handle with
  | none => .answer (.boolean false) outside
  | some entity =>
      settle outside "set_script_data" [("entity", entity.display), ("key", key)]
        (outside.engine.setScriptData entity key value)

def removeScriptData (handle : Int64) (key : String) (outside : Outside) : Reply :=
  match Entity.ofInt handle with
  | none => .answer (.boolean false) outside
  | some entity =>
      settle outside "remove_script_data" [("entity", entity.display), ("key", key)]
        (outside.engine.removeScriptData entity key)

def warn (message : String) (outside : Outside) : Reply :=
  .answer .unit ((outside.report (warning "script" message [])).say s!"warn: {message}")

/-- Only between bounds that are in order is a number drawn. -/
def rand (low high : Float) (outside : Outside) : Reply :=
  if low < high then
    match outside.draws 0 low high with
    | .ok value => .answer (.float value) { outside with draws := outside.draws.rest }
    | .error message => .panicked message
  else .answer (.float low) outside

/-- The engine functions take exactly these types; nothing is converted. -/
def engineCall (name : String) (arguments : List Value) (outside : Outside) : Reply :=
  match name, arguments with
  | "entities", [] => entities outside
  | "create_entity", [] => createEntity outside
  | "log", [.string message] => .answer .unit (outside.say message)
  | "warn", [.string message] => warn message outside
  | "is_alive", [.integer handle] => isAlive handle outside
  | "destroy_entity", [.integer handle] => destroyEntity handle outside
  | "get_component", [.integer handle, .string component] => getComponent handle component outside
  | "set_component", [.integer handle, .string component, value] =>
      setComponent handle component value outside
  | "get_script_data", [.integer handle, .string key] => getScriptData handle key outside
  | "set_script_data", [.integer handle, .string key, .string value] =>
      setScriptData handle key value outside
  | "remove_script_data", [.integer handle, .string key] => removeScriptData handle key outside
  | "rand", [.float low, .float high] => rand low high outside
  | _, _ => .refused

def digits? (digits : List Char) : Option Nat :=
  if digits.isEmpty then none
  else
    digits.foldl (fun value digit => do
      let value ← value
      if '0' ≤ digit ∧ digit ≤ '9' then some (value * 10 + (digit.toNat - 48)) else none) (some 0)

/-- One sign may stand before the digits, and white space around them is dropped. -/
def parseInteger (text : String) : Option Int64 := do
  let value : Int ← match Text.trimChars text.toList with
    | '+' :: digits => (digits? digits).map Int.ofNat
    | '-' :: digits => (digits? digits).map fun value => -(Int.ofNat value)
    | digits => (digits? digits).map Int.ofNat
  if -0x8000000000000000 ≤ value ∧ value < 0x8000000000000000 then some (Int64.ofInt value) else none

def size? : Value → Option Nat
  | .string text => some text.length
  | .array items => some items.length
  | .map entries => some entries.length
  | _ => none

/-- The subject of a method is its first argument. -/
def call (name : String) (arguments : List Value) (outside : Outside) : Reply :=
  match name, arguments with
  | "print", [] => .answer .unit (outside.say "")
  | "print", [value] => .answer .unit (outside.say value.display)
  | "type_of", [value] => .answer (.string value.typeName) outside
  | "to_string", [value] => .answer (.string value.display) outside
  | "len", [value] =>
      match size? value with
      | some size => .answer (.integer (Int64.ofNat size)) outside
      | none => .refused
  | "parse_int", [.string text] =>
      match parseInteger text with
      | some value => .answer (.integer value) outside
      | none => .refused
  | _, .engine :: rest => engineCall name rest outside
  | _, _ => .refused

end Interface

end ScriptHost.Script

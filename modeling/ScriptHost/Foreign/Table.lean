/-
This file holds the calls that a foreign engine understands. Foreign code is a function from calls to
replies over a state of its own.
-/
import ScriptHost.Engine.Entity

namespace ScriptHost.Foreign

/-- A call that reads passes on the size of the buffer for the answer. -/
inductive Call where
  | subscribe (pattern : String)
  | tickInterval
  | allEntities (room : Nat)
  | createEntity
  | destroyEntity (entity : Entity)
  | isAlive (entity : Entity)
  | component (entity : Entity) (key : String) (size : Nat)
  | setComponent (entity : Entity) (key value : String)
  | scriptData (entity : Entity) (key : String) (size : Nat)
  | setScriptData (entity : Entity) (key value : String)
  | removeScriptData (entity : Entity) (key : String)
  deriving DecidableEq, Repr

def Call.name : Call → String
  | .subscribe _ => "subscribe_event"
  | .tickInterval => "get_tick_interval"
  | .allEntities _ => "get_all_entities"
  | .createEntity => "create_entity"
  | .destroyEntity _ => "destroy_entity"
  | .isAlive _ => "is_alive"
  | .component .. => "get_component_json"
  | .setComponent .. => "set_component_json"
  | .scriptData .. => "get_script_data"
  | .setScriptData .. => "set_script_data"
  | .removeScriptData .. => "remove_script_data"

/-- A reply is a status together with all that was written to the places for answers. -/
structure Reply where
  status : Int
  bytes : List UInt8
  entities : List Entity
  interval : Float32
  deriving Inhabited

def Reply.ofStatus (status : Int) : Reply := ⟨status, [], [], 0⟩

abbrev Table (State : Type) := Call → State → Reply × State

/-- Sizes are passed on as signed numbers of 32 bits. -/
def clamp (size : Nat) : Nat :=
  min size 0x7fffffff

end ScriptHost.Foreign

/-
This file holds the built-in events and their native payloads.
-/
import ScriptHost.Engine.Entity
import ScriptHost.Text.Utf8

namespace ScriptHost.Event

/-- A built-in event is known by its name. -/
inductive Kind where
  | logicTick
  | movementStarted
  | movementCompleted
  | animationFinished
  | stateEntered
  | frameRender
  deriving DecidableEq, Repr

inductive Builtin where
  | logicTick (index : UInt64)
  | movementStarted (entity : Entity) (x y : Int32)
  | movementCompleted (entity : Entity) (x y : Int32)
  | animationFinished (entity : Entity)
  | stateEntered (entity : Entity) (state : String)
  | frameRender (state : UInt64)
  deriving DecidableEq, Repr

abbrev Payload := List UInt8

namespace Kind

def all : List Kind :=
  [.logicTick, .movementStarted, .movementCompleted, .animationFinished, .stateEntered, .frameRender]

def name : Kind → String
  | .logicTick => "logic_tick"
  | .movementStarted => "movement_started"
  | .movementCompleted => "movement_completed"
  | .animationFinished => "animation_finished"
  | .stateEntered => "state_entered"
  | .frameRender => "frame_render"

def ofName? (text : String) : Option Kind :=
  all.find? fun kind => kind.name == text

/-- The room for a state name in its payload. -/
def stateRoom : Nat := 64

def size : Kind → Nat
  | .logicTick => 8
  | .movementStarted => 16
  | .movementCompleted => 16
  | .animationFinished => 8
  | .stateEntered => 8 + stateRoom
  | .frameRender => 8

end Kind

/-- The low byte comes first. -/
def littleEndian : Nat → Nat → List UInt8
  | 0, _ => []
  | width + 1, value => UInt8.ofNat (value % 256) :: littleEndian width (value / 256)

def fromLittleEndian : List UInt8 → Nat
  | [] => 0
  | byte :: rest => byte.toNat + 256 * fromLittleEndian rest

def word (value : UInt64) : List UInt8 :=
  littleEndian 8 value.toNat

def tile (value : Int32) : List UInt8 :=
  littleEndian 4 value.toUInt32.toNat

def readWord (payload : Payload) (start : Nat) : UInt64 :=
  UInt64.ofNat (fromLittleEndian ((payload.drop start).take 8))

def readTile (payload : Payload) (start : Nat) : Int32 :=
  (UInt32.ofNat (fromLittleEndian ((payload.drop start).take 4))).toInt32

/-- A name that is too long loses whole characters, and zeros fill the room. -/
def stateField (state : String) : List UInt8 :=
  let bytes := Text.Utf8.encodeChars (Text.Utf8.fitting Kind.stateRoom state.toList)
  bytes ++ List.replicate (Kind.stateRoom - bytes.length) 0

/-- The name ends at the first zero. -/
def readState (field : List UInt8) : String :=
  Text.Utf8.decodeLossy (field.takeWhile (· ≠ 0))

namespace Builtin

def kind : Builtin → Kind
  | .logicTick _ => .logicTick
  | .movementStarted .. => .movementStarted
  | .movementCompleted .. => .movementCompleted
  | .animationFinished _ => .animationFinished
  | .stateEntered .. => .stateEntered
  | .frameRender _ => .frameRender

def name (event : Builtin) : String :=
  event.kind.name

def encode : Builtin → Payload
  | .logicTick index => word index
  | .movementStarted entity x y => word entity.bits ++ tile x ++ tile y
  | .movementCompleted entity x y => word entity.bits ++ tile x ++ tile y
  | .animationFinished entity => word entity.bits
  | .stateEntered entity state => word entity.bits ++ stateField state
  | .frameRender state => word state

/-- The payload has the size of the event. -/
def ofPayload (payload : Payload) : Kind → Builtin
  | .logicTick => .logicTick (readWord payload 0)
  | .movementStarted => .movementStarted ⟨readWord payload 0⟩ (readTile payload 8) (readTile payload 12)
  | .movementCompleted =>
      .movementCompleted ⟨readWord payload 0⟩ (readTile payload 8) (readTile payload 12)
  | .animationFinished => .animationFinished ⟨readWord payload 0⟩
  | .stateEntered => .stateEntered ⟨readWord payload 0⟩ (readState (payload.drop 8))
  | .frameRender => .frameRender (readWord payload 0)

end Builtin

/-- A built-in event takes payloads of one size only. -/
structure SizeMismatch where
  kind : Kind
  actual : Nat
  deriving DecidableEq, Repr

def SizeMismatch.message (mismatch : SizeMismatch) : String :=
  s!"built-in event '{mismatch.kind.name}' expects {mismatch.kind.size} payload bytes, got {mismatch.actual}"

def Kind.decode (kind : Kind) (payload : Payload) : Except SizeMismatch Builtin :=
  if payload.length = kind.size then .ok (Builtin.ofPayload payload kind)
  else .error ⟨kind, payload.length⟩

/-- The answer is `none` for a name that is not built in. -/
def decode (name : String) (payload : Payload) : Option (Except SizeMismatch Builtin) :=
  (Kind.ofName? name).map fun kind => kind.decode payload

def hexadecimal (value : Nat) : String :=
  String.ofList (Nat.toDigits 16 value)

def Builtin.display : Builtin → String
  | .logicTick index => s!"LogicTick index={index}"
  | .movementStarted entity x y => s!"MovementStarted entity={entity.display} tile=({x}, {y})"
  | .movementCompleted entity x y => s!"MovementCompleted entity={entity.display} tile=({x}, {y})"
  | .animationFinished entity => s!"AnimationFinished entity={entity.display}"
  | .stateEntered entity state => s!"StateEntered entity={entity.display} state={state}"
  | .frameRender state => s!"FrameRender state=0x{hexadecimal state.toNat}"

end ScriptHost.Event

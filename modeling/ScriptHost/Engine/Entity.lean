/-
This file holds entity handles and the failures of native calls.
-/

namespace ScriptHost

/-- The engine owns the entity; only the engine gives its bits a meaning. -/
structure Entity where
  bits : UInt64
  deriving DecidableEq, Repr, Inhabited

namespace Entity

def display (entity : Entity) : String :=
  s!"#{entity.bits.toNat}"

/-- Scripts see an entity as an integer, and a negative integer means no entity. -/
def ofInt (value : Int64) : Option Entity :=
  if value < 0 then none else some ⟨value.toUInt64⟩

def toInt (entity : Entity) : Int64 :=
  entity.bits.toInt64

end Entity

inductive NativeError where
  | deadEntity (entity : Entity)
  | callFailed (call : String) (entity : Entity) (key : String) (code : Int)
  | engineCallFailed (call : String) (code : Int)
  | invalidUtf8 (entity : Entity) (key : String)
  | invalidArgument (call : String) (reason : String)
  deriving DecidableEq, Repr

def NativeError.message : NativeError → String
  | .deadEntity entity => s!"entity {entity.display} is not alive"
  | .callFailed call entity key code =>
      s!"native call '{call}' failed for entity {entity.display} ('{key}'): code {code}"
  | .engineCallFailed call code => s!"native call '{call}' failed: code {code}"
  | .invalidUtf8 entity key =>
      s!"native payload for entity {entity.display} ('{key}') is not valid UTF-8"
  | .invalidArgument call reason => s!"invalid argument for '{call}': {reason}"

end ScriptHost

/-
This file holds the signal that every tick hands to its receivers.
-/

namespace ScriptHost.Tick

/-- The duration counts seconds. -/
structure Signal where
  duration : Float32
  index : UInt64
  deriving Repr, Inhabited

/-- A signal never carries a negative, infinite or undefined duration. -/
def usable (interval : Float32) : Bool :=
  interval.isFinite && 0 ≤ interval

end ScriptHost.Tick

/-
This file carries values between scripts and JSON.
-/
import ScriptHost.Script.Value

namespace ScriptHost.Script.Value

def ofNumber : Json.Number → Value
  | .natural value =>
      if value.toNat < 0x8000000000000000 then .integer value.toInt64 else .float value.toFloat
  | .negative value => .integer value
  | .float value => .float value

mutual

def ofJson : Json.Value → Value
  | .null => .unit
  | .boolean value => .boolean value
  | .number value => ofNumber value
  | .string text => .string text
  | .array items => .array (ofJsonItems items)
  | .object members => .map (ofJsonMembers members)

def ofJsonItems : List Json.Value → List Value
  | [] => []
  | item :: rest => ofJson item :: ofJsonItems rest

def ofJsonMembers : List (String × Json.Value) → List (String × Value)
  | [] => []
  | (name, item) :: rest => (name, ofJson item) :: ofJsonMembers rest

end

def toNumber (value : Int64) : Json.Number :=
  if value < 0 then .negative value else .natural value.toUInt64

/-- JSON has no number that is infinite or undefined. -/
def floatToJson (value : Float) : Json.Value :=
  if value.isFinite then .number (.float value) else .null

mutual

/-- The engine and ranges have no JSON form. -/
def toJson? : Value → Option Json.Value
  | .unit => some .null
  | .boolean value => some (.boolean value)
  | .integer value => some (.number (toNumber value))
  | .float value => some (floatToJson value)
  | .character value => some (.string value.toString)
  | .string text => some (.string text)
  | .array items => (toJsonItems? items).map .array
  | .map entries => (toJsonMembers? entries).map .object
  | .range .. => none
  | .engine => none

def toJsonItems? : List Value → Option (List Json.Value)
  | [] => some []
  | item :: rest => do
      let value ← toJson? item
      let values ← toJsonItems? rest
      return value :: values

def toJsonMembers? : List (String × Value) → Option (List (String × Json.Value))
  | [] => some []
  | (name, item) :: rest => do
      let value ← toJson? item
      let members ← toJsonMembers? rest
      return (name, value) :: members

end

end ScriptHost.Script.Value

/-
This file holds JSON values and their compact text.
-/
import ScriptHost.Decimal.Layout
import ScriptHost.Json.Number
import ScriptHost.Text.Utf8

namespace ScriptHost.Json

/-- The members of an object that was read stand in ascending order of their names. -/
inductive Value where
  | null
  | boolean (value : Bool)
  | number (value : Number)
  | string (text : String)
  | array (items : List Value)
  | object (members : List (String × Value))
  deriving Repr

/-- A later member of the same name replaces the earlier one. -/
def put {α : Type} (name : String) (value : α) : List (String × α) → List (String × α)
  | [] => [(name, value)]
  | (other, kept) :: rest =>
      if name < other then (name, value) :: (other, kept) :: rest
      else if name = other then (name, value) :: rest
      else (other, kept) :: put name value rest

def sortMembers {α : Type} (members : List (String × α)) : List (String × α) :=
  members.foldl (fun sorted member => put member.1 member.2 sorted) []

/-- Arrays and objects may nest this deep. -/
def depthLimit : Nat := 127

mutual

/-- The first argument bounds how deep arrays and objects may still nest. -/
def Form.value? : Nat → Form → Option Value
  | _, .null => some .null
  | _, .boolean value => some (.boolean value)
  | _, .number numeral => numeral.number?.map .number
  | _, .string text => text.map .string
  | room, .array items => if room = 0 then none else (Form.values? (room - 1) items).map .array
  | room, .object members =>
      if room = 0 then none
      else (Form.memberValues? (room - 1) members).map fun members => .object (sortMembers members)

def Form.values? : Nat → List Form → Option (List Value)
  | _, [] => some []
  | room, item :: rest => do
      let value ← Form.value? room item
      let values ← Form.values? room rest
      return value :: values

def Form.memberValues? : Nat → List (Option String × Form) → Option (List (String × Value))
  | _, [] => some []
  | room, (name, item) :: rest => do
      let name ← name
      let value ← Form.value? room item
      let members ← Form.memberValues? room rest
      return (name, value) :: members

end

def Value.read? (text : String) : Option Value := do
  let form ← Form.read text.toList
  form.value? depthLimit

/-- A damaged byte stands for an escape that names no character: it may be skipped but never read. The
mark before the escape keeps it apart from an escape that is open already. -/
def mend : Text.Utf8.Piece → List Char
  | .character value => [value]
  | .damaged => ['?', '\\', 'u', 'd', 'c', '0', '0']

def Form.readBytes (bytes : List UInt8) : Option Form :=
  Form.read ((Text.Utf8.pieces bytes).flatMap mend)

def hexDigit (value : Nat) : Char :=
  if value < 10 then Char.ofNat (48 + value) else Char.ofNat (87 + value)

def escapeChar (value : Char) : List Char :=
  if value = '"' then ['\\', '"']
  else if value = '\\' then ['\\', '\\']
  else if value.toNat = 8 then ['\\', 'b']
  else if value.toNat = 9 then ['\\', 't']
  else if value.toNat = 10 then ['\\', 'n']
  else if value.toNat = 12 then ['\\', 'f']
  else if value.toNat = 13 then ['\\', 'r']
  else if value.toNat < 32 then
    ['\\', 'u', '0', '0', hexDigit (value.toNat / 16), hexDigit (value.toNat % 16)]
  else [value]

def quote (text : String) : List Char :=
  '"' :: text.toList.flatMap escapeChar ++ ['"']

/-- Small exponents are written out, and an exponent has a sign and two digits. -/
def layout : Decimal.Layout where
  positional := fun leading => -5 ≤ leading && leading ≤ 15
  tie := .even
  wholeSuffix := ".0"
  plusSign := true
  exponentWidth := 2
  negativeZero := true
  notANumber := "null"
  infinite := "null"

def Number.write : Number → List Char
  | .natural value => Nat.toDigits 10 value.toNat
  | .negative value => (toString value.toInt).toList
  | .float value =>
      if value.isFinite then (layout.float value).toList else ['n', 'u', 'l', 'l']

mutual

/-- This is the compact text of a value. -/
def Value.chars : Value → List Char
  | .null => ['n', 'u', 'l', 'l']
  | .boolean true => ['t', 'r', 'u', 'e']
  | .boolean false => ['f', 'a', 'l', 's', 'e']
  | .number value => value.write
  | .string text => quote text
  | .array items => '[' :: (Value.itemChars items ++ [']'])
  | .object members => '\x7b' :: (Value.memberChars members ++ ['\x7d'])

def Value.itemChars : List Value → List Char
  | [] => []
  | [item] => item.chars
  | item :: next :: rest => item.chars ++ ',' :: Value.itemChars (next :: rest)

def Value.memberChars : List (String × Value) → List Char
  | [] => []
  | [(name, value)] => quote name ++ ':' :: value.chars
  | (name, value) :: next :: rest =>
      quote name ++ ':' :: value.chars ++ ',' :: Value.memberChars (next :: rest)

end

def Value.write (value : Value) : String :=
  String.ofList value.chars

end ScriptHost.Json

/-
This file holds the values of scripts and the way they are shown.
-/
import ScriptHost.Decimal.Layout
import ScriptHost.Json.Value

namespace ScriptHost.Script

/-- The entries of a map stand in ascending order of their keys. -/
inductive Value where
  | unit
  | boolean (value : Bool)
  | integer (value : Int64)
  | float (value : Float)
  | character (value : Char)
  | string (text : String)
  | array (items : List Value)
  | map (entries : List (String × Value))
  | range (first last : Int64) (closed : Bool)
  | engine
  deriving Repr, Inhabited

namespace Value

def typeName : Value → String
  | .unit => "()"
  | .boolean _ => "bool"
  | .integer _ => "i64"
  | .float _ => "f64"
  | .character _ => "char"
  | .string _ => "string"
  | .array _ => "array"
  | .map _ => "map"
  | .range _ _ false => "range"
  | .range _ _ true => "range="
  | .engine => "Engine"

/-- Inside a container a float is positional between these places of its leading digit. -/
def nestedLayout : Decimal.Layout where
  positional := fun leading => -4 ≤ leading && leading ≤ 15
  tie := .up
  wholeSuffix := ".0"
  plusSign := false
  exponentWidth := 1
  negativeZero := true
  notANumber := "NaN"
  infinite := "inf"

def positionalLayout : Decimal.Layout :=
  { nestedLayout with positional := fun _ => true, negativeZero := false }

def scientificLayout : Decimal.Layout :=
  { nestedLayout with positional := fun _ => false }

/-- These bounds are the single precision floats next to ten to the power of 13 and of -13. -/
def largestPositional : Float := Float.ofBits 0x42a2309ce0000000

def smallestPositional : Float := Float.ofBits 0x3d3c25c260000000

def showFloat (value : Float) : String :=
  let size := value.abs
  if size == 0 then "0.0"
  else if largestPositional < size || size < smallestPositional then scientificLayout.float value
  else positionalLayout.float value

/-- Marks that join the character before them and characters without a shape are written by number. -/
def isUnseen (value : Char) : Bool :=
  let code := value.toNat
  code < 0x20 || (0x7F ≤ code && code < 0xA0) || code == 0xAD ||
    (0x300 ≤ code && code < 0x370) || (0x200B ≤ code && code ≤ 0x200F) ||
    (0x2028 ≤ code && code ≤ 0x202E) || (0x2060 ≤ code && code ≤ 0x206F) ||
    (0xE000 ≤ code && code ≤ 0xF8FF) || (0xFE00 ≤ code && code ≤ 0xFE0F) || code == 0xFEFF

def escapeCommon (value : Char) : List Char :=
  if value = '\\' then ['\\', '\\']
  else if value = '\n' then ['\\', 'n']
  else if value = '\t' then ['\\', 't']
  else if value = '\r' then ['\\', 'r']
  else if value.toNat = 0 then ['\\', '0']
  else if isUnseen value then
    ['\\', 'u', '\x7b'] ++ Nat.toDigits 16 value.toNat ++ ['\x7d']
  else [value]

def quoteText (text : String) : String :=
  "\"" ++ String.ofList (text.toList.flatMap fun value =>
    if value = '"' then ['\\', '"'] else escapeCommon value) ++ "\""

def quoteChar (value : Char) : String :=
  "'" ++ String.ofList (if value = '\'' then ['\\', '\''] else escapeCommon value) ++ "'"

def showRange (first last : Int64) (closed : Bool) : String :=
  toString first ++ (if closed then "..=" else "..") ++ toString last

mutual

/-- This is how a value is shown inside an array or a map. -/
def showNested : Value → String
  | .unit => "()"
  | .boolean value => toString value
  | .integer value => toString value
  | .float value => nestedLayout.float value
  | .character value => quoteChar value
  | .string text => quoteText text
  | .array items => "[" ++ showItems items ++ "]"
  | .map entries => "#\x7b" ++ showEntries entries ++ "\x7d"
  | .range first last closed => showRange first last closed
  | .engine => "Engine"

def showItems : List Value → String
  | [] => ""
  | [item] => item.showNested
  | item :: next :: rest => item.showNested ++ ", " ++ showItems (next :: rest)

def showEntries : List (String × Value) → String
  | [] => ""
  | [(key, value)] => quoteText key ++ ": " ++ value.showNested
  | (key, value) :: next :: rest =>
      quoteText key ++ ": " ++ value.showNested ++ ", " ++ showEntries (next :: rest)

end

/-- A unit is shown as nothing, and text is shown without quotes. -/
def display : Value → String
  | .unit => ""
  | .float value => showFloat value
  | .character value => value.toString
  | .string text => text
  | value => value.showNested

mutual

/-- Values of different kinds differ, except that an integer may equal a float. -/
def equals : Value → Value → Bool
  | .unit, .unit => true
  | .boolean left, .boolean right => left == right
  | .integer left, .integer right => left == right
  | .integer left, .float right => left.toFloat == right
  | .float left, .integer right => left == right.toFloat
  | .float left, .float right => left == right
  | .character left, .character right => left == right
  | .string left, .string right => left == right
  | .array left, .array right => equalItems left right
  | .map left, .map right => equalEntries left right
  | .range first last closed, .range first' last' closed' =>
      first == first' && last == last' && closed == closed'
  | _, _ => false

def equalItems : List Value → List Value → Bool
  | [], [] => true
  | left :: lefts, right :: rights => left.equals right && equalItems lefts rights
  | _, _ => false

def equalEntries : List (String × Value) → List (String × Value) → Bool
  | [], [] => true
  | (key, left) :: lefts, (key', right) :: rights =>
      key == key' && left.equals right && equalEntries lefts rights
  | _, _ => false

end

def lookup (key : String) (entries : List (String × Value)) : Option Value :=
  (entries.find? fun entry => entry.1 == key).map Prod.snd

end Value

end ScriptHost.Script

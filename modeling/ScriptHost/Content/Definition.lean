/-
This file reads definitions of quests and encounters from the values of scripts.
-/
import ScriptHost.Content.Region
import ScriptHost.Script.Value

namespace ScriptHost.Content

open Script (Value)

inductive Kind where
  | quest
  | encounter
  deriving DecidableEq, Repr

def Kind.label : Kind → String
  | .quest => "quest"
  | .encounter => "encounter"

inductive Definition where
  | quest (id title description : String) (objectives : List String)
  | encounter (id : String) (enemies : List String) (minLevel : UInt32) (region : Option Region)
  deriving DecidableEq, Repr

namespace Definition

def id : Definition → String
  | .quest id _ _ _ => id
  | .encounter id _ _ _ => id

def string? : Value → Option String
  | .string text => some text
  | _ => none

def strings? : Value → Option (List String)
  | .array items => items.mapM string?
  | _ => none

def level? : Value → Option UInt32
  | .integer value =>
      if 0 ≤ value.toInt ∧ value.toInt < 0x100000000 then some (UInt32.ofNat value.toInt.toNat) else none
  | _ => none

def coordinate? : Value → Option Int32
  | .integer value =>
      if -0x80000000 ≤ value.toInt ∧ value.toInt < 0x80000000 then some (Int32.ofInt value.toInt) else none
  | _ => none

/-- Only the first two items count. -/
def tile? : Value → Option Tile
  | .array (x :: y :: _) => do
      let x ← coordinate? x
      let y ← coordinate? y
      return ⟨x, y⟩
  | _ => none

def region? : Value → Option Region
  | .map entries => do
      let min ← Value.lookup "min" entries
      let max ← Value.lookup "max" entries
      return ⟨← tile? min, ← tile? max⟩
  | _ => none

/-- A unit stands for a region that is left out. -/
def optionalRegion? : Value → Option (Option Region)
  | .unit => some none
  | value => (region? value).map some

/-- A field that is left out has a standard value, and one that is there must have the right type. -/
def field {α : Type} (name : String) (standard : α) (reader : Value → Option α)
    (entries : List (String × Value)) : Option α :=
  match Value.lookup name entries with
  | none => some standard
  | some value => reader value

def read? (kind : Kind) (entries : List (String × Value)) : Option Definition := do
  let id ← (Value.lookup "id" entries).bind string?
  match kind with
  | .quest =>
      return .quest id (← field "title" "" string? entries)
        (← field "description" "" string? entries) (← field "objectives" [] strings? entries)
  | .encounter =>
      return .encounter id (← field "enemies" [] strings? entries)
        (← field "min_level" 0 level? entries) (← field "tile_region" none optionalRegion? entries)

end Definition

end ScriptHost.Content

/-
This file reads the fields of a record from a written form.
-/
import ScriptHost.Json.Value

namespace ScriptHost.Json

/-- The answer for a field tells an absent field from one that is present but wrong. -/
inductive Field where
  | absent
  | present (form : Form)
  deriving Repr

namespace Form

def string? : Form → Option String
  | .string text => text
  | _ => none

def boolean? : Form → Option Bool
  | .boolean value => some value
  | _ => none

/-- Only an integer numeral without a sign is a natural number. -/
def natural? : Form → Option UInt64
  | .number numeral =>
      match numeral.number? with
      | some (.natural value) => some value
      | _ => none
  | _ => none

def single? : Form → Option Float32
  | .number numeral =>
      match numeral.number? with
      | some (.natural value) => some value.toFloat32
      | some (.negative value) => some value.toFloat32
      | some (.float value) => some value.toFloat32
      | none => none
  | _ => none

def items? : Form → Option (List Form)
  | .array items => some items
  | _ => none

def strings? (form : Form) : Option (List String) := do
  let items ← form.items?
  items.mapM string?

/-- Every name of a dictionary must be readable, and a later entry of the same name wins. -/
def dictionary? {α : Type} (entry : Form → Option α) : Form → Option (List (String × α))
  | .object members => do
      let entries ← members.mapM fun (name, form) => do
        let name ← name
        let value ← entry form
        return (name, value)
      return sortMembers entries
  | _ => none

/-- A name of the record may occur once at most; other members are skipped. -/
def member (name : String) (members : List (Option String × Form)) : Option Field :=
  match members.filter (fun entry => entry.1 == some name) with
  | [] => some .absent
  | [(_, form)] => some (.present form)
  | _ => none

/-- A record is an object, or an array that lists its first fields in order. -/
def record? (names : List String) : Form → Option (List Field)
  | .object members =>
      if members.all (fun entry => entry.1.isSome) then names.mapM (member · members) else none
  | .array items =>
      if items.length ≤ names.length then
        some (items.map .present ++ List.replicate (names.length - items.length) .absent)
      else none
  | _ => none

end Form

namespace Field

def orElse {α : Type} (field : Field) (default : α) (reader : Form → Option α) : Option α :=
  match field with
  | .absent => some default
  | .present form => reader form

def required {α : Type} (field : Field) (reader : Form → Option α) : Option α :=
  match field with
  | .absent => none
  | .present form => reader form

end Field

end ScriptHost.Json

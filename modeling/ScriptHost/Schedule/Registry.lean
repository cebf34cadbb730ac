/-
This file keeps the receivers of ticks. A receiver that was accepted keeps its slot for ever, and the
registry lists the slots that are still to be called.
-/
import ScriptHost.Engine.Entity

namespace ScriptHost.Schedule

inductive Receiver (System Behaviour : Type) where
  | system (kind : Nat) (logic : System)
  | behaviour (entity : Entity) (script : String) (logic : Behaviour)

namespace Receiver

variable {System Behaviour : Type}

def label : Receiver System Behaviour → String
  | .system kind _ => s!"System<{kind}>"
  | .behaviour entity script _ => s!"{script}@{entity.display}"

def kind? : Receiver System Behaviour → Option Nat
  | .system kind _ => some kind
  | .behaviour .. => none

def binding? : Receiver System Behaviour → Option (Entity × String)
  | .system .. => none
  | .behaviour entity script _ => some (entity, script)

/-- Two systems of one kind collide, and so do two behaviours of one script on one entity. -/
def collides (left right : Receiver System Behaviour) : Bool :=
  left.kind? == right.kind? && left.binding? == right.binding?

end Receiver

/-- A leaving receiver has been removed, but its finalizer has not begun. -/
inductive Phase where
  | live
  | leaving
  | gone
  deriving DecidableEq, Repr

/-- A slot is busy while a hook of its receiver runs in a tick. -/
structure Slot (System Behaviour : Type) where
  receiver : Receiver System Behaviour
  started : Bool
  phase : Phase
  busy : Bool

/-- The registry is locked while a behaviour is being attached. -/
structure Registry (System Behaviour : Type) where
  slots : List (Slot System Behaviour)
  registered : List Nat
  locked : Bool

namespace Registry

variable {System Behaviour : Type}

def empty : Registry System Behaviour := ⟨[], [], false⟩

def slot? (registry : Registry System Behaviour) (id : Nat) : Option (Slot System Behaviour) :=
  registry.slots[id]?

def setSlot (registry : Registry System Behaviour) (id : Nat) (slot : Slot System Behaviour) :
    Registry System Behaviour :=
  { registry with slots := registry.slots.set id slot }

def isRegistered (registry : Registry System Behaviour) (id : Nat) : Bool :=
  registry.registered.contains id

def receiver? (registry : Registry System Behaviour) (id : Nat) :
    Option (Receiver System Behaviour) :=
  (registry.slot? id).map Slot.receiver

def receivers (registry : Registry System Behaviour) : List (Receiver System Behaviour) :=
  registry.registered.filterMap registry.receiver?

def accepts (registry : Registry System Behaviour) (receiver : Receiver System Behaviour) : Bool :=
  !registry.receivers.any fun held => held.collides receiver

/-- The number of a receiver is its place among all that were accepted. -/
def add (registry : Registry System Behaviour) (receiver : Receiver System Behaviour) :
    Registry System Behaviour × Nat :=
  let id := registry.slots.length
  ({ registry with
      slots := registry.slots ++ [⟨receiver, false, .live, false⟩]
      registered := registry.registered ++ [id] },
    id)

def chosen (registry : Registry System Behaviour) (choose : Receiver System Behaviour → Bool)
    (id : Nat) : Bool :=
  match registry.receiver? id with
  | some receiver => choose receiver
  | none => false

/-- The receivers that are taken out are listed in the order of registration. -/
def take (registry : Registry System Behaviour) (choose : Receiver System Behaviour → Bool) :
    Registry System Behaviour × List Nat :=
  ({ registry with
      registered := registry.registered.filter fun id => !registry.chosen choose id },
    registry.registered.filter (registry.chosen choose))

def erase (registry : Registry System Behaviour) (id : Nat) : Registry System Behaviour :=
  { registry with registered := registry.registered.filter (· != id) }

def bindings (registry : Registry System Behaviour) : List (Entity × String) :=
  registry.receivers.filterMap Receiver.binding?

def systems (registry : Registry System Behaviour) : List Nat :=
  registry.receivers.filterMap Receiver.kind?

def hasBinding (registry : Registry System Behaviour) (entity : Entity) (script : String) : Bool :=
  registry.bindings.contains (entity, script)

end Registry

end ScriptHost.Schedule

/-
This file keeps the subscriptions to events. Built-in events have a table of their own, and both tables
draw their numbers from one count, so numbers tell the order of subscription.
-/
import ScriptHost.Event.Builtin

namespace ScriptHost.Event

structure Subscription (Handler : Type) where
  id : Nat
  handler : Handler

/-- The subscriptions to one name stand in the order in which they were made. -/
abbrev Table (Key Handler : Type) := List (Key × List (Subscription Handler))

namespace Table

variable {Key Handler : Type} [DecidableEq Key]

def under (key : Key) : Table Key Handler → List (Subscription Handler)
  | [] => []
  | (other, held) :: rest => if other = key then held else under key rest

def add (key : Key) (subscription : Subscription Handler) : Table Key Handler → Table Key Handler
  | [] => [(key, [subscription])]
  | (other, held) :: rest =>
      if other = key then (other, held ++ [subscription]) :: rest
      else (other, held) :: add key subscription rest

def holds (key : Key) (id : Nat) (table : Table Key Handler) : Bool :=
  (table.under key).any fun subscription => subscription.id == id

def erase (key : Key) (id : Nat) : Table Key Handler → Table Key Handler
  | [] => []
  | (other, held) :: rest =>
      if other = key then (other, held.filter fun subscription => subscription.id != id) :: rest
      else (other, held) :: erase key id rest

end Table

structure Bridge (Handler : Type) where
  next : Nat
  typed : Table Kind Handler
  raw : Table String Handler
  dropped : Nat

/-- This says who an event reached, or that it was dropped for its size. -/
inductive Route where
  | typed (count : Nat)
  | raw (count : Nat)
  | dropped
  deriving DecidableEq, Repr

namespace Bridge

variable {Handler : Type}

def empty : Bridge Handler := ⟨0, [], [], 0⟩

def subscribe (bridge : Bridge Handler) (kind : Kind) (handler : Handler) : Bridge Handler × Nat :=
  ({ bridge with next := bridge.next + 1, typed := bridge.typed.add kind ⟨bridge.next, handler⟩ },
    bridge.next)

/-- A raw subscription to a built-in name is kept, but no event reaches it. -/
def subscribeRaw (bridge : Bridge Handler) (name : String) (handler : Handler) :
    Bridge Handler × Nat :=
  ({ bridge with next := bridge.next + 1, raw := bridge.raw.add name ⟨bridge.next, handler⟩ },
    bridge.next)

def unsubscribeRaw (bridge : Bridge Handler) (name : String) (id : Nat) : Bridge Handler × Bool :=
  if bridge.raw.holds name id then ({ bridge with raw := bridge.raw.erase name id }, true)
  else (bridge, false)

/-- The table of built-in events is tried first. -/
def unsubscribe (bridge : Bridge Handler) (name : String) (id : Nat) : Bridge Handler × Bool :=
  match Kind.ofName? name with
  | some kind =>
      if bridge.typed.holds kind id then ({ bridge with typed := bridge.typed.erase kind id }, true)
      else bridge.unsubscribeRaw name id
  | none => bridge.unsubscribeRaw name id

/-- Raw subscriptions to a built-in name do not count. -/
def count (bridge : Bridge Handler) (name : String) : Nat :=
  match Kind.ofName? name with
  | some kind => (bridge.typed.under kind).length
  | none => (bridge.raw.under name).length

def drop (bridge : Bridge Handler) : Bridge Handler :=
  { bridge with dropped := bridge.dropped + 1 }

end Bridge

end ScriptHost.Event

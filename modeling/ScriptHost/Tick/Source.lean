/-
This file keeps the clock and the listeners of a tick source.
-/
import ScriptHost.Decimal.Layout
import ScriptHost.Tick.Signal
import ScriptHost.Trace

namespace ScriptHost.Tick

structure Clock where
  last : Option Signal
  elapsed : Float
  seen : Nat
  deriving Repr, Inhabited

structure Listening (Listener : Type) where
  id : Nat
  listener : Listener

/-- The subscription is the one through which the source hears of native ticks. -/
structure Source (Listener : Type) where
  subscription : Option Nat
  listeners : List (Listening Listener)
  count : Nat
  clock : Clock

namespace Source

variable {Listener : Type}

def empty : Source Listener := ⟨none, [], 0, ⟨none, 0, 0⟩⟩

/-- The first listener has the number one. -/
def listen (source : Source Listener) (listener : Listener) : Source Listener × Nat :=
  ({ source with
      count := source.count + 1
      listeners := source.listeners ++ [⟨source.count + 1, listener⟩] },
    source.count + 1)

def hasListener (source : Source Listener) (id : Nat) : Bool :=
  source.listeners.any fun listening => listening.id == id

def dismiss (source : Source Listener) (id : Nat) : Source Listener :=
  { source with listeners := source.listeners.filter fun listening => listening.id != id }

end Source

/-- An unusable interval counts as zero. -/
def signalOf (interval : Float32) (index : UInt64) : Signal :=
  ⟨if usable interval then interval else 0, index⟩

def intervalRecords (interval : Float32) : List TraceRecord :=
  if usable interval then []
  else
    [warning "tick" "engine reported an invalid tick interval; using 0"
      [("interval", Decimal.plain.float interval.toFloat)]]

def orderRecords (clock : Clock) (index : UInt64) : List TraceRecord :=
  match clock.last with
  | some last =>
      if index ≤ last.index then
        [warning "tick" "tick index did not advance"
          [("tick_index", toString index.toNat), ("previous", toString last.index.toNat)]]
      else []
  | none => []

/-- The clock takes every signal, whether or not its index advances. -/
def Clock.advance (clock : Clock) (signal : Signal) : Clock :=
  ⟨some signal, clock.elapsed + signal.duration.toFloat, clock.seen + 1⟩

end ScriptHost.Tick

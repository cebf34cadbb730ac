/-
This file runs the units of a set that stand for themselves, once for every tick.
-/
import ScriptHost.Script.Evaluate
import ScriptHost.Script.Library
import ScriptHost.Tick.Signal

namespace ScriptHost.Script

structure RunCount where
  ran : Nat
  failed : Nat
  deriving DecidableEq, Repr, Inhabited

/-- Scripts count ticks with signed integers, and a tick past the last one counts as the last. -/
def tickNumber (index : UInt64) : Int64 :=
  if index.toNat < 0x8000000000000000 then index.toInt64 else Int64.ofInt 0x7fffffffffffffff

/-- The signal is constant for a script, and the engine is not. -/
def looseVariables (signal : Tick.Signal) : List Variable :=
  [⟨"tick", .integer (tickNumber signal.index), true⟩,
    ⟨"dt", .float signal.duration.toFloat, true⟩,
    ⟨"engine", .engine, false⟩]

/-- The answer tells what went wrong with the run, if anything did. -/
def faultOf (name : String) : Outcome → Option Fault
  | .value _ => none
  | .failed reason => some (.error [(Error.failed name reason).message])
  | .exhausted => some (.error [(Error.failed name "too many steps").message])
  | .panicked message => some (.panicked message)

def looseFault (name : String) (signal : Tick.Signal) (fault : Fault) : TraceRecord :=
  failure "script" fault.display [("unit", name), ("tick", toString signal.index.toNat)]

def runLoose (signal : Tick.Signal) (unit : CompiledUnit) (outside : Outside) :
    Option Fault × Outside :=
  let (outcome, outside) := unit.program.run (looseVariables signal) outside
  (faultOf unit.name outcome, outside)

/-- A unit that fails does not keep the later ones from running. -/
def runAll (signal : Tick.Signal) : List CompiledUnit → Outside → RunCount × Outside
  | [], outside => (⟨0, 0⟩, outside)
  | unit :: rest, outside =>
      match runLoose signal unit outside with
      | (none, outside) =>
          let (count, outside) := runAll signal rest outside
          ({ count with ran := count.ran + 1 }, outside)
      | (some fault, outside) =>
          let (count, outside) := runAll signal rest (outside.report (looseFault unit.name signal fault))
          ({ count with failed := count.failed + 1 }, outside)

end ScriptHost.Script

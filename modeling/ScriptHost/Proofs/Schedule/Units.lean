/-
This file says what a tick does after its receivers: it runs the units of the one set that is active then,
whatever the receivers did to the scripts.
-/
import ScriptHost.Proofs.Congruence.Scheduling
import ScriptHost.Proofs.Script.Conduct
import ScriptHost.Session.Lifecycle

namespace ScriptHost.Session.Scheduler

/-- This is the part of a tick that belongs to the receivers. -/
def callReceivers (call : Caller) (host : Nat) (signal : Tick.Signal) : Run (Nat × Nat) := do
  let receivers := (← Run.registry host).registered
  Run.note (.tickBegan host signal)
  runAll call host signal receivers (0, 0)

/-- A tick calls the receivers and then runs the loose units. -/
theorem tick_eq (call : Caller) (host : Nat) (signal : Tick.Signal) : tick call host signal = do
    let counts ← callReceivers call host signal
    let count ← runLoose host signal
    return ⟨counts.1, counts.2, count⟩ := by
  unfold tick callReceivers
  simp only [bind_assoc]

/-- In these variables a unit finds the signal, which it cannot change. An index that is too large for a
script counts as the largest one that is not. -/
structure Given (signal : Tick.Signal) (scope : List Script.Variable) (number : Int64) : Prop where
  given : scope = [⟨"tick", .integer number, true⟩, ⟨"dt", .float signal.duration.toFloat, true⟩,
    ⟨"engine", .engine, false⟩]
  number : number.toInt = min signal.index.toNat 0x7fffffffffffffff

/-- The units of the set that is active run, and they change nothing but the engine, the log and the
journal. -/
inductive UnitPhase (host : Nat) (signal : Tick.Signal) (middle : World) : Script.RunCount → World → Prop
  | bare (bare : (middle.hostOf host).runtime = none) : UnitPhase host signal middle ⟨0, 0⟩ middle
  | ran {runtime : Runtime} {turns : List Script.Turn} {count : Script.RunCount} {outside : Script.Outside}
      (held : (middle.hostOf host).runtime = some runtime)
      (phase : Script.Phase signal runtime.scripts.active.units
        ⟨middle.engine, middle.draws, (middle.hostOf host).log, []⟩ (count, outside) turns) :
      UnitPhase host signal middle count
        ((middle.note (.unitsBegan host runtime.scripts.active.names signal)).leave host outside)

/-- The loose units run in a phase of their own, which always ends. -/
theorem runLoose_phase (host : Nat) (signal : Tick.Signal) (middle : World) :
    ∃ count after, (runLoose host signal).run.run middle = (.ok count, after) ∧
      UnitPhase host signal middle count after := by
  cases held : (middle.hostOf host).runtime with
  | none =>
      refine ⟨⟨0, 0⟩, middle, ?_, .bare held⟩
      rw [runLoose_run, held]
      rfl
  | some runtime =>
      obtain ⟨turns, phase⟩ := Script.runAll_phase signal runtime.scripts.active.units
        ⟨middle.engine, middle.draws, (middle.hostOf host).log, []⟩
      refine ⟨_, _, ?_, .ran held phase⟩
      rw [runLoose_run, held]
      rfl

/-- Whatever the receivers do, the units of the set that is active after them run, each once, from the
signal, the engine and the draws alone. -/
theorem tick_runs_units (call : Caller) (host : Nat) (signal : Tick.Signal) (world : World) :
    (∃ number, Given signal (Script.looseVariables signal) number) ∧
      match (callReceivers call host signal).run.run world with
      | (.error raised, middle) => (tick call host signal).run.run world = (.error raised, middle)
      | (.ok (invoked, faults), middle) => ∃ count after,
          (tick call host signal).run.run world = (.ok ⟨invoked, faults, count⟩, after) ∧
            UnitPhase host signal middle count after := by
  refine ⟨⟨_, rfl, Script.tickNumber_toInt signal.index⟩, ?_⟩
  rw [tick_eq, Stateful.run_bind]
  rcases (callReceivers call host signal).run.run world with ⟨raised | ⟨invoked, faults⟩, middle⟩
  · rfl
  · obtain ⟨count, after, ran, phase⟩ := runLoose_phase host signal middle
    refine ⟨count, after, ?_, phase⟩
    dsimp only
    rw [Stateful.run_bind, ran]
    rfl

/-- A system loads two other scripts during the tick, and the first of them fails. -/
def swapping : Caller where
  hook _ _ := Run.modifyRuntime 0 fun runtime =>
    { runtime with scripts := { runtime.scripts with active := ⟨⟨"/s"⟩, 2,
      [⟨"broken", ⟨"/s/broken"⟩, [], ⟨[], [.leave]⟩⟩, ⟨"sound", ⟨"/s/sound"⟩, [], ⟨[], []⟩⟩]⟩ } }
  perform _ := pure ()

def swapped : World :=
  let hook : Hooked := ⟨0, "system", ⟨fun _ => ⟨[], .normal⟩⟩⟩
  let registry := (Schedule.Registry.empty.add (.system 0 ⟨hook, hook⟩)).1
  let host := Host.create [] 0 (some (.create ⟨[], []⟩ .standard))
  { World.create ⟨[], []⟩ .lowest with hosts := [{ host with registry }] }

example :
    let answer := (tick swapping 0 ⟨Float32.ofBits 0, 7⟩).run.run swapped
    answer.1.toOption = some ⟨1, 0, ⟨1, 1⟩⟩ ∧ answer.2.journal.filterMap (fun
      | .unitsBegan _ names _ => some names
      | _ => none) = [["broken", "sound"]] := by
  decide +kernel

end ScriptHost.Session.Scheduler

/-
This file shows that edits of files and reloads of the behaviours change nothing but what no behaviour sees.
-/
import ScriptHost.Proofs.Congruence.Holding
import ScriptHost.Proofs.Session.Routine

namespace ScriptHost.Session

open File (RootKind)

/-- The library of behaviours and the watch are left out. -/
def Host.veil (host : Host) : Host :=
  { host with runtime := host.runtime.map fun runtime =>
      { runtime with behaviours := .create "" ⟨""⟩ "", watch := none } }

/-- The files are left out, and who watches them, and the journal. -/
def World.veil (world : World) : World :=
  { world with tree := default, threads := [], journal := [], hosts := world.hosts.map Host.veil }

/-- These commands change files or compile the behaviours anew. -/
def Operation.edits : Operation → Bool
  | .write .. | .dropIn .. | .makeDirectory _ | .remove _ | .reloadRoot .behaviours => true
  | _ => false

namespace World

variable {world : World} {host : Nat}

/-- A veiled world has veiled hosts. -/
theorem veil_hostOf : world.veil.hostOf host = (world.hostOf host).veil := by
  change ((world.hosts.map Host.veil)[host]?).getD .core = ((world.hosts[host]?).getD .core).veil
  rw [List.getElem?_map]
  cases world.hosts[host]? <;> rfl

/-- Putting a host and veiling the world go together. -/
theorem veil_putHost (state : Host) : (world.putHost host state).veil = world.veil.putHost host state.veil := by
  simp [veil, putHost, List.map_set]

/-- A change that the veil does not hinder can be made below it. -/
theorem veil_modify {change : Host → Host} (commutes : ∀ state : Host, (change state).veil = change state.veil) :
    (world.putHost host (change (world.hostOf host))).veil =
      world.veil.putHost host (change (world.veil.hostOf host)) := by
  rw [veil_putHost, commutes, veil_hostOf]

/-- Putting a host in its own place changes nothing. -/
theorem putHost_hostOf_self : world.putHost host (world.hostOf host) = world := by
  by_cases present : host < world.hosts.length
  · have found : world.hostOf host = world.hosts[host] := by
      unfold hostOf
      rw [List.getElem?_eq_getElem present, Option.getD_some]
    simp [putHost, found]
  · simp [putHost, List.set_eq_of_length_le (Nat.le_of_not_lt present)]

/-- A change behind the veil is not seen. -/
theorem veil_unseen {state : Host} (same : state.veil = (world.hostOf host).veil) :
    (world.putHost host state).veil = world.veil := by
  rw [veil_putHost, same, ← veil_hostOf, putHost_hostOf_self]

end World

namespace Run

variable {α β : Type}

/-- Behind the veil such a run changes what it likes. -/
def Veiled (body : Run α) : Prop :=
  ∀ world, (body.run.run world).2.veil = world.veil

/-- A run that only returns leaves the veil as it is. -/
theorem veiled_pure (value : α) : Veiled (pure value) := fun _ => rfl

/-- Two veiled runs are veiled together. -/
theorem Veiled.bind {body : Run α} {next : α → Run β} (first : Veiled body) (rest : ∀ value, Veiled (next value)) :
    Veiled (body >>= next) := by
  intro world
  have before := first world
  rw [Stateful.run_bind]
  revert before
  rcases body.run.run world with ⟨raised | value, after⟩
  · exact id
  · exact fun before => (rest value after).trans before

/-- Whoever reads the world may be veiled in each case. -/
theorem veiled_get {next : World → Run α} (rest : ∀ world, Veiled (next world)) : Veiled (get >>= next) :=
  fun world => rest world world

/-- Reports are behind the veil. -/
theorem veiled_reportAll (records : List TraceRecord) : Veiled (reportAll records) := fun _ => rfl

/-- Files are behind the veil. -/
theorem veiled_setTree (tree : File.Tree) : Veiled (setTree tree) := fun _ => rfl

/-- Reading a runtime changes nothing. -/
theorem veiled_runtime? (host : Nat) : Veiled (runtime? host) := fun _ => rfl

/-- The library of behaviours is behind the veil. -/
theorem veiled_keepBehaviours (host : Nat) (behaviours : Script.UnitCache) :
    Veiled (modifyRuntime host fun runtime => { runtime with behaviours }) := by
  intro world
  apply World.veil_unseen
  change ({ world.hostOf host with runtime := (world.hostOf host).runtime.map fun runtime =>
    { runtime with behaviours } } : Host).veil = _
  unfold Host.veil
  rw [Option.map_map]
  rfl

end Run

namespace Edits

open Run (Veiled veiled_pure veiled_get veiled_reportAll veiled_setTree veiled_keepBehaviours)

/-- The watch of a host is behind the veil. -/
theorem changeHost_veil (change : Watch → Watch) (host : Host) :
    (Watching.changeHost change host).veil = host.veil := by
  unfold Host.veil Watching.changeHost
  rw [Option.map_map]
  rfl

/-- All watches are behind the veil. -/
theorem changeWatches_veiled (change : Watch → Watch) : Veiled (Watching.changeWatches change) := by
  intro world
  have hosts : (world.hosts.map (Watching.changeHost change)).map Host.veil = world.hosts.map Host.veil := by
    rw [List.map_map]
    exact List.map_congr_left fun host _ => changeHost_veil change host
  change { world.veil with hosts := (world.hosts.map (Watching.changeHost change)).map Host.veil } = world.veil
  rw [hosts]
  rfl

/-- A reload of the behaviours leaves the veil as it is. -/
theorem reloadBehaviours_veiled (host : Nat) (runtime : Runtime) :
    Veiled (Watching.reloadRoot host runtime .behaviours) := by
  apply veiled_get
  intro world
  apply (veiled_reportAll _).bind
  intro _
  apply (veiled_keepBehaviours host _).bind
  intro _
  split <;> exact veiled_pure _

variable (call : Caller)

/-- Edits leave the veil as it is. -/
theorem operate_veiled (name : String) (host : Nat) {operation : Operation} (edits : operation.edits = true) :
    Veiled (Perform.operate call name host operation) := by
  cases operation with
  | write location content =>
      apply veiled_get
      intro world
      apply (veiled_setTree _).bind
      intro _
      exact (changeWatches_veiled _).bind fun _ => veiled_pure _
  | dropIn location content =>
      apply veiled_get
      intro world
      dsimp only
      split
      · apply (veiled_setTree _).bind
        intro _
        exact (changeWatches_veiled _).bind fun _ => veiled_pure _
      · apply (veiled_setTree _).bind
        intro _
        exact (changeWatches_veiled _).bind fun _ => veiled_pure _
  | makeDirectory location =>
      apply veiled_get
      intro world
      dsimp only
      split
      · exact veiled_pure _
      · apply (veiled_setTree _).bind
        intro _
        exact (changeWatches_veiled _).bind fun _ => veiled_pure _
  | remove location =>
      apply veiled_get
      intro world
      dsimp only
      split
      · apply (veiled_setTree _).bind
        intro _
        apply ((changeWatches_veiled _).bind fun _ => changeWatches_veiled _).bind
        exact fun _ => veiled_pure _
      · exact veiled_pure _
  | reloadRoot kind =>
      cases kind with
      | behaviours =>
          apply veiled_get
          intro world
          split
          · exact veiled_pure _
          · next id _ =>
              apply (Run.veiled_runtime? id).bind
              intro runtime
              cases runtime with
              | none => exact veiled_pure _
              | some runtime => exact (reloadBehaviours_veiled id runtime).bind fun _ => veiled_pure _
      | scripts => cases edits
      | quests => cases edits
      | encounters => cases edits
  | _ => cases edits

/-- Edits call no hook. -/
theorem edits_calm {operation : Operation} (edits : operation.edits = true) : operation.stirs = false := by
  cases operation <;> first | rfl | cases edits

/-- An edit leaves only reports, and it touches nothing that keeps hooks. -/
theorem perform_edit {scope : Scope} {command : Command Operation} (edits : command.operation.edits = true)
    {world : World} (within : WithinWorld scope world) :
    let after := ((Perform.perform call command).run.run world).2
    after.veil = world.veil ∧ WithinWorld scope after ∧
      ∃ records : List TraceRecord, after.journal = records.map .reported ++ world.journal := by
  have performed : (Perform.perform call command).run.run world = (Perform.operate call command.host
      ((world.names.hosts.lookup command.host).getD 0) command.operation).run.run world := rfl
  intro after
  have spares : world.Spares after := by
    change world.Spares ((Perform.perform call command).run.run world).2
    rw [performed]
    exact (Perform.operate_plain call command.host _ (edits_calm edits)).spares world
  refine ⟨?_, within.spared spares, spares.journal⟩
  change ((Perform.perform call command).run.run world).2.veil = _
  rw [performed]
  exact operate_veiled call command.host _ edits world

end Edits

end ScriptHost.Session

/-
This file shows that a session goes on the same way whatever has changed behind the veil.
-/
import ScriptHost.Proofs.Congruence.Commands
import ScriptHost.Proofs.Edits.Veils
import ScriptHost.Proofs.Shutdown.Runs

namespace ScriptHost.Session

/-- Hooks of this scope call the engine, manage receivers, ask factories and hear events and ticks, but they
do not work with files and libraries. -/
def Scope.running : Scope := ⟨false, true, true⟩

namespace Edits

open Shutdown (attempts)

variable {before later : List Entry} {world other : World} {host : Nat}

/-- The worlds differ behind the veil alone, and since two earlier moments they have noted the same. -/
structure Unseen (before later : List Entry) (world other : World) : Prop where
  veil : world.veil = other.veil
  noted : ∃ entries, world.journal = entries ++ before ∧ other.journal = entries ++ later
  within : WithinWorld .running world

namespace Unseen

variable (unseen : Unseen before later world other)

include unseen

/-- What the veil does not hide is the same. -/
theorem shown {α : Type} (look : World → α) : look world.veil = look other.veil :=
  congrArg look unseen.veil

/-- What the veil leaves of a host is the same in both worlds. -/
theorem shownHost {α : Type} (look : Host → α) (host : Nat) :
    look (world.hostOf host).veil = look (other.hostOf host).veil := by
  rw [← World.veil_hostOf, ← World.veil_hostOf, unseen.veil]

/-- A note is written behind what was written before. -/
theorem note (entry : Entry) : Unseen before later (world.note entry) (other.note entry) where
  veil := unseen.veil
  noted := by
    obtain ⟨entries, noted, noted'⟩ := unseen.noted
    exact ⟨entry :: entries, congrArg (entry :: ·) noted, congrArg (entry :: ·) noted'⟩
  within := unseen.within.note entry

/-- A change to a host that the veil does not hinder is made in both worlds alike. -/
theorem modify (host : Nat) (change : Host → Host) (commutes : ∀ state, (change state).veil = change state.veil)
    (within : WithinWorld .running (world.putHost host (change (world.hostOf host)))) :
    Unseen before later (world.putHost host (change (world.hostOf host)))
      (other.putHost host (change (other.hostOf host))) where
  veil := by
    rw [World.veil_modify commutes, World.veil_modify commutes, unseen.veil]
  noted := unseen.noted
  within := within

/-- Scripts leave the same behind in both worlds. -/
theorem leave (host : Nat) (outside : Script.Outside) :
    Unseen before later (world.leave host outside) (other.leave host outside) where
  veil := by
    have changed := unseen.modify host (fun state => { state with log := outside.log }) (fun _ => rfl)
      (unseen.within.putHost host _ (unseen.within.receivers host) (unseen.within.sources host))
    exact congrArg (fun world : World => { world with engine := outside.engine, draws := outside.draws }) changed.veil
  noted := by
    obtain ⟨entries, noted, noted'⟩ := unseen.noted
    refine ⟨(outside.records.map .reported).reverse ++ entries, ?_, ?_⟩
    · exact (congrArg _ noted).trans (List.append_assoc _ _ _).symm
    · exact (congrArg _ noted').trans (List.append_assoc _ _ _).symm
  within := unseen.within.leave host outside

/-- A registry may be set in both worlds. -/
theorem putRegistry {registry : Registry} (within : WithinWorld .running (world.putRegistry host registry)) :
    Unseen before later (world.putRegistry host registry) (other.putRegistry host registry) :=
  unseen.modify host (fun state => { state with registry }) (fun _ => rfl) within

end Unseen

/-- What lies behind the veil is not seen by anything that hooks of the scope do. -/
theorem unseen_congruence (before later : List Entry) :
    Congruence .running (fun _ _ => True) (Unseen before later) where
  engine unseen := unseen.shown World.engine
  draws unseen := unseen.shown World.draws
  names unseen := unseen.shown World.names
  uses unseen := unseen.shown World.uses
  claimed unseen := unseen.shown World.claimed
  registry unseen host := unseen.shownHost Host.registry host
  log unseen host := unseen.shownHost Host.log host
  scripts unseen host := by
    have same := unseen.shownHost
      (fun state => state.runtime.map fun runtime => (runtime.scripts.active, runtime.state)) host
    simp only [Host.veil, Option.map_map] at same
    exact same
  within unseen := unseen.within.receivers
  system _ := trivial
  hooked _ := trivial
  note _ unseen := unseen.note _
  leave host outside unseen := unseen.leave host outside
  count uses unseen := ⟨congrArg (World.count · uses) unseen.veil, unseen.noted, unseen.within.count uses⟩
  steer engine unseen := ⟨congrArg (World.steer · engine) unseen.veil, unseen.noted, unseen.within.steer engine⟩
  rename names unseen _ := ⟨congrArg (World.rename · names) unseen.veil, unseen.noted, unseen.within.rename names⟩
  change unseen alters := unseen.putRegistry (unseen.within.change alters)
  add unseen _ within := unseen.putRegistry (unseen.within.add within)

/-- Factories come to both worlds. -/
theorem unseen_stocked (before later : List Entry) : Stocked .running (Unseen before later) where
  factories unseen := unseen.shown World.factories
  within unseen := unseen.within.factories
  binder unseen host := unseen.shownHost Host.binder host
  restock factories unseen within :=
    ⟨congrArg (World.restock · factories) unseen.veil, unseen.noted, unseen.within.restock within⟩
  rebind host binder unseen := by
    have changed := unseen.modify host (fun state => { state with binder }) (fun _ => rfl)
      (unseen.within.putHost host _ (unseen.within.receivers host) (unseen.within.sources host))
    exact ⟨changed.veil, changed.noted, changed.within⟩

/-- Notes are written in both worlds. -/
theorem unseen_audible (before later : List Entry) : Audible .running (Unseen before later) where
  bridge unseen := unseen.shown World.bridge
  source unseen host := unseen.shownHost Host.source host
  freed unseen host := unseen.shownHost Host.freed host
  handlers unseen := unseen.within.bridge
  listeners unseen := unseen.within.sources
  note entry unseen := unseen.note entry
  rebridge unseen within :=
    ⟨congrArg (World.rebridge · _) unseen.veil, unseen.noted, unseen.within.rebridge within⟩
  resource {_ _ source} host unseen within := by
    have changed := unseen.modify host (fun state => { state with source }) (fun _ => rfl)
      (unseen.within.resource host within)
    exact ⟨changed.veil, changed.noted, changed.within⟩

/-- Runtimes come and go in both worlds. -/
theorem unseen_heeds (before later : List Entry) : Heeds .running (fun _ _ => True) (Unseen before later) where
  toCongruence := unseen_congruence before later
  calm allowed := nomatch allowed
  stocks _ := unseen_stocked before later
  hears _ := unseen_audible before later

/-- Commands after the edits give the same results, and still only the veil hides a difference. -/
theorem attempts_unseen (depth : Nat) {commands : List (Command Operation)}
    (within : ∀ command ∈ commands, Within .running command.operation) (unseen : Unseen before later world other) :
    (attempts depth commands world).1 = (attempts depth commands other).1 ∧
      Unseen before later (attempts depth commands world).2 (attempts depth commands other).2 := by
  induction commands generalizing world other with
  | nil => exact ⟨rfl, unseen⟩
  | cons command rest ih =>
      obtain ⟨same, after⟩ := Perform.perform_agrees (caller_heeding depth) (unseen_heeds before later)
        (within command List.mem_cons_self) world other unseen
      obtain ⟨results, last⟩ := ih (fun later member => within later (List.mem_cons_of_mem _ member)) after
      exact ⟨congrArg₂ _ (Effect.twin_eq.mp same) results, last⟩

/-- Edits change nothing but what is behind the veil, and they note nothing but reports. -/
theorem attempts_edits {scope : Scope} (depth : Nat) {edits : List (Command Operation)}
    (editing : ∀ command ∈ edits, command.operation.edits = true) (within : WithinWorld scope world) :
    (attempts depth edits world).2.veil = world.veil ∧
      ∃ records : List TraceRecord,
        (attempts depth edits world).2.journal = records.map .reported ++ world.journal := by
  induction edits generalizing world with
  | nil => exact ⟨rfl, [], rfl⟩
  | cons command rest ih =>
      obtain ⟨veil, kept, records, noted⟩ :=
        perform_edit (caller depth) (editing command List.mem_cons_self) within
      obtain ⟨veil', records', noted'⟩ :=
        ih (fun later member => editing later (List.mem_cons_of_mem _ member)) kept
      refine ⟨veil'.trans veil, records' ++ records, ?_⟩
      rw [List.map_append, List.append_assoc, ← noted]
      exact noted'

/-- After edits of files and reloads of the behaviours a session goes on as it would have without them. -/
theorem edits_unseen (depth : Nat) {edits commands : List (Command Operation)}
    (editing : ∀ command ∈ edits, command.operation.edits = true)
    (quiet : ∀ command ∈ commands, Within .running command.operation) (within : WithinWorld .running world) :
    let edited := (attempts depth edits world).2
    (attempts depth commands edited).1 = (attempts depth commands world).1 ∧
      Unseen world.journal edited.journal (attempts depth commands world).2 (attempts depth commands edited).2 := by
  intro edited
  obtain ⟨veil, -⟩ := attempts_edits depth editing within
  have unseen : Unseen world.journal edited.journal world edited := ⟨veil.symm, ⟨[], rfl, rfl⟩, within⟩
  obtain ⟨results, last⟩ := attempts_unseen depth quiet unseen
  exact ⟨results.symm, last⟩

end Edits

end ScriptHost.Session

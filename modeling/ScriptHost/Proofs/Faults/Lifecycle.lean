/-
This file shows that runtimes come, run and go alike whichever hooks end with a fault.
-/
import ScriptHost.Proofs.Faults.Binding
import ScriptHost.Proofs.Faults.Events

namespace ScriptHost.Session.Lifecycle

open Effect (together_pure together_throw)
open Run (Twins twins_ite twins_get twins_note twins_host twins_modifyHost twins_modify
  twins_modifyRuntime)
open Scheduler (report_twins)

/-- Factories that are like each other take the same numbers. -/
theorem addFactories_twins (place : Nat) {factories others : List (Factory Operation)}
    (like : List.Forall₂ (Factory.Like Command.Alike) factories others) :
    Twins Eq (addFactories place factories) (addFactories place others) := by
  induction like generalizing place with
  | nil => exact together_pure rfl
  | @cons factory other rest rest' same _ ih =>
      apply twins_get
      intro world world' alike
      dsimp only
      rw [alike.factories.length_eq]
      have added : Twins Eq
          (modify fun world : World => { world with factories := world.factories ++ [⟨factory, place, 0⟩] })
          (modify fun world : World => { world with factories := world.factories ++ [⟨other, place, 0⟩] }) :=
        twins_modify fun _ _ later =>
          { later with factories := List.rel_append later.factories (.cons ⟨same, rfl, rfl⟩ .nil) }
      apply added.then
      intro _ _ _
      apply (ih (place + 1)).then
      rintro ids _ rfl
      exact together_pure rfl

/-- New hosts are alike. -/
theorem create_alike (chain : List Nat) (cap : Nat) (runtime : Option Runtime) :
    (Host.create chain cap runtime).Alike (Host.create chain cap runtime) :=
  ⟨⟨.nil, rfl, rfl⟩, ⟨rfl, .nil, rfl, rfl⟩, rfl, rfl, rfl, rfl, rfl, rfl⟩

/-- A runtime is created in both worlds, or in none. -/
theorem create_twins (config : Config) {factories others : List (Factory Operation)}
    (like : List.Forall₂ (Factory.Like Command.Alike) factories others) :
    Twins Eq (create config factories) (create config others) := by
  apply twins_get
  intro world world' alike
  rw [alike.claimed]
  apply twins_ite Iff.rfl
  · exact together_pure rfl
  · apply twins_get
    intro world world' alike
    rw [alike.tree]
    apply (addFactories_twins 0 like).then
    rintro chain _ rfl
    apply twins_get
    intro world world' alike
    dsimp only
    rw [alike.hosts.length_eq]
    have settled (host : Host) (same : host.Alike host) : Twins Eq
        (modify fun world : World => { world with claimed := true, hosts := world.hosts ++ [host] })
        (modify fun world : World => { world with claimed := true, hosts := world.hosts ++ [host] }) :=
      twins_modify fun _ _ later =>
        { later with claimed := rfl, hosts := List.rel_append later.hosts (.cons same .nil) }
    exact (settled _ (create_alike _ _ _)).then fun _ _ _ => together_pure rfl

/-- A runtime changes its state in both worlds. -/
theorem setState_twins (host : Nat) (state : RuntimeState) :
    Twins Eq (setState host state) (setState host state) :=
  twins_modifyRuntime host _

variable {call : Caller}

/-- A runtime starts in both worlds. -/
theorem start_twins (fair : call.Fair) (host : Nat) : Twins Eq (start call host) (start call host) := by
  apply (loadRoots_plain host _).twins.then
  intro _ _ _
  apply (Events.hookTicks_twins host).discard.then
  intro _ _ _
  apply (Events.listen_twins host (.scheduler host none)).then
  rintro listener _ rfl
  apply (twins_modifyRuntime host _).then
  intro _ _ _
  apply (Run.plain_runtime? host).twins.then
  rintro runtime _ rfl
  cases runtime with
  | none => exact together_pure rfl
  | some runtime =>
      apply Run.twins_prefaced (Watching.begin_plain host runtime).twins
      apply (setState_twins host .running).then
      intro _ _ _
      apply (Binding.bindAll_twins fair host).then
      rintro report _ rfl
      cases report with
      | ok report => exact together_pure rfl
      | error error => exact report_twins _

/-- A runtime closes in both worlds. -/
theorem close_twins (fair : call.Fair) (host : Nat) : Twins Eq (close call host) (close call host) := by
  apply (Events.unhookTicks_twins host).discard.then
  intro _ _ _
  apply (twins_modifyRuntime host _).then
  intro _ _ _
  apply (twins_note (.same _)).then
  intro _ _ _
  apply (Scheduler.shutDown_twins fair host).discard.then
  intro _ _ _
  have unclaimed : Twins Eq (modify fun world : World => { world with claimed := false })
      (modify fun world : World => { world with claimed := false }) :=
    twins_modify fun _ _ alike => { alike with claimed := rfl }
  exact unclaimed.then fun _ _ _ => together_pure rfl

/-- A runtime shuts down in both worlds, or had done so before. -/
theorem shutDown_twins (fair : call.Fair) (host : Nat) (runtime : Runtime) :
    Twins Eq (shutDown call host runtime) (shutDown call host runtime) := by
  apply twins_ite Iff.rfl
  · exact together_pure rfl
  · apply (setState_twins host .shutDown).then
    intro _ _ _
    have emptied := (twins_modifyRuntime host fun runtime => { runtime with listener := none }).then
      fun _ _ _ => close_twins fair host
    cases runtime.listener with
    | none => exact emptied
    | some listener => exact (Events.dismiss_twins host listener).discard.then fun _ _ _ => emptied

/-- A scene is reloaded in both worlds with the same report. -/
theorem reloadScene_twins (fair : call.Fair) (host : Nat) :
    Twins Eq (reloadScene call host) (reloadScene call host) :=
  (Scheduler.purgeBehaviours_twins fair host).discard.then fun _ _ _ => Binding.bindAll_twins fair host

/-- A host is freed in both worlds, or in none. -/
theorem free_twins (fair : call.Fair) (host : Nat) : Twins Eq (free call host) (free call host) := by
  have freed : Twins Eq (Run.modifyHost host fun host => { host with freed := true })
      (Run.modifyHost host fun host => { host with freed := true }) :=
    twins_modifyHost host fun _ _ alike => { alike with freed := rfl }
  apply (twins_host host).then
  intro state other alike
  apply twins_ite (by rw [alike.named, alike.users, alike.freed])
  · rw [alike.runtime]
    cases other.runtime with
    | none => exact freed
    | some runtime => exact (shutDown_twins fair host runtime).discard.then fun _ _ _ => freed
  · exact together_pure rfl

/-- A host is used and let go in both worlds. -/
theorem whileUsing_twins {α : Type} (fair : call.Fair) (host : Nat) {body : Run α}
    (same : Twins Eq body body) : Twins Eq (whileUsing call host body) (whileUsing call host body) := by
  have used : ∀ change : Nat → Nat, Twins Eq
      (Run.modifyHost host fun host => { host with users := change host.users })
      (Run.modifyHost host fun host => { host with users := change host.users }) :=
    fun change => twins_modifyHost host fun _ _ alike => { alike with users := congrArg change alike.users }
  apply (used (· + 1)).then
  intro _ _ _
  apply same.afterwards
  exact (used (· - 1)).then fun _ _ _ => free_twins fair host

/-- A runtime is forgotten in both worlds. -/
theorem forget_twins (fair : call.Fair) (host : Nat) : Twins Eq (forget call host) (forget call host) := by
  have unnamed : Twins Eq (Run.modifyHost host fun host => { host with named := false })
      (Run.modifyHost host fun host => { host with named := false }) :=
    twins_modifyHost host fun _ _ alike => { alike with named := rfl }
  exact unnamed.then fun _ _ _ => free_twins fair host

end ScriptHost.Session.Lifecycle

/-
This file shows that a pass of a binder goes on alike whichever hooks end with a fault.
-/
import ScriptHost.Proofs.Binding.Making
import ScriptHost.Proofs.Faults.Scheduling

namespace ScriptHost.Session.Binding

open Effect (together_pure together_throw)
open Run (Twins twins_ite twins_get twins_note twins_host twins_registry twins_modifyHost)
open Scheduler (report_twins)

/-- Hooks that are like each other become behaviours that are alike. -/
theorem behaviourHooks_twins (label : String) {hooks others : BehaviourHooks Operation}
    (like : BehaviourHooks.Like Command.Alike hooks others) :
    Twins BehaviourLogic.Alike (behaviourHooks label hooks) (behaviourHooks label others) := by
  cases like with
  | intro attaches starts updates disposes =>
      apply (Run.twins_hooked _ attaches.panicking).then
      intro attach attach' attaches
      apply (Run.twins_hooked_same _ starts).then
      intro start start' starts
      apply (Run.twins_hooked _ updates).then
      intro update update' updates
      apply (Run.twins_hooked _ disposes.panicking).then
      intro dispose dispose' disposes
      exact together_pure (.hooked attaches starts updates disposes)

/-- Counting is the same in worlds that are alike. -/
theorem countMade_twins (id : Nat) : Twins Eq (countMade id) (countMade id) := by
  apply twins_get
  intro world other alike
  have found := Forall₂.getElem? alike.factories id
  dsimp only
  revert found
  cases world.factories[id]? <;> cases other.factories[id]? <;> intro found <;> cases found
  · exact together_pure rfl
  · next state state' same =>
      have counted : FactoryState.Alike { state with made := state.made + 1 }
          { state' with made := state'.made + 1 } := { same with made := congrArg (· + 1) same.made }
      have put : Twins Eq
          (modify fun last : World =>
            { last with factories := world.factories.set id { state with made := state.made + 1 } })
          (modify fun last : World =>
            { last with factories := other.factories.set id { state' with made := state'.made + 1 } }) :=
        Run.twins_modify fun _ _ later =>
          { later with factories := Forall₂.set alike.factories counted id }
      exact put.then fun _ _ _ => together_pure same.made

variable {call : Caller}

/-- A factory makes behaviours that are alike. -/
theorem askFactory_twins (fair : call.Fair) (id : Nat) (script : String) :
    Twins (Option.Rel BehaviourLogic.Alike) (askFactory call id script) (askFactory call id script) := by
  apply twins_get
  intro world other alike
  have found := Forall₂.getElem? alike.factories id
  revert found
  cases world.factories[id]? <;> cases other.factories[id]? <;> intro found <;> cases found
  · exact together_pure .none
  · next state state' same =>
      obtain ⟨⟨ask⟩, place, made⟩ := state
      obtain ⟨⟨ask'⟩, place', made'⟩ := state'
      obtain ⟨like, rfl, rfl⟩ := same
      cases like with
      | intro commands offers =>
          apply (twins_note (.same _)).then
          intro _ _ _
          apply (fair.perform (commands script)).then
          intro _ _ _
          have offer := offers script
          dsimp only
          revert offer
          generalize (ask script).offer = offer
          generalize (ask' script).offer = offer'
          intro same
          cases same with
          | declined => exact together_pure .none
          | panic message => exact together_throw rfl
          | made like =>
              apply (countMade_twins id).then
              rintro count _ rfl
              apply (behaviourHooks_twins _ like).then
              intro logic other same
              exact together_pure (.some same)

/-- A chain makes behaviours that are alike. -/
theorem askChain_twins (fair : call.Fair) (script : String) (chain : List Nat) :
    Twins (Option.Rel BehaviourLogic.Alike) (askChain call script chain) (askChain call script chain) := by
  induction chain with
  | nil => exact together_pure .none
  | cons id rest ih =>
      apply (askFactory_twins fair id script).then
      intro logic other same
      cases same with
      | none => exact ih
      | some same => exact together_pure (.some same)

/-- Whoever makes a behaviour makes one that is alike. -/
theorem create_twins (fair : call.Fair) (host : Nat) (chain : List Nat) (script : String) :
    Twins (Option.Rel BehaviourLogic.Alike) (create call host chain script)
      (create call host chain script) := by
  apply (askChain_twins fair script chain).then
  intro logic other same
  cases same with
  | some same => exact together_pure (.some same)
  | none =>
      apply (Run.plain_runtime? host).twins.then
      rintro runtime _ rfl
      cases runtime with
      | none => exact together_pure .none
      | some runtime =>
          apply together_pure
          cases runtime.behaviours.find? script with
          | none => exact .none
          | some unit => exact .some (.scripted unit _)

/-- A fault of a factory is told in both worlds. -/
theorem recover_twins (entity : Entity) (script : String) (raised : Raised) :
    Twins (Option.Rel BehaviourLogic.Alike) (recover entity script raised) (recover entity script raised) := by
  cases raised with
  | failed causes => exact (report_twins _).then fun _ _ _ => together_pure .none
  | panicked message => exact (report_twins _).then fun _ _ _ => together_pure .none
  | stuck => exact together_throw rfl
  | exhausted => exact together_throw rfl

/-- A faulty factory makes nothing in both worlds. -/
theorem createSafely_twins (fair : call.Fair) (host : Nat) (chain : List Nat) (entity : Entity)
    (script : String) :
    Twins (Option.Rel BehaviourLogic.Alike) (createSafely call host chain entity script)
      (createSafely call host chain entity script) := by
  rw [createSafely_eq]
  exact (create_twins fair host chain script).tryCatch (recover_twins entity script)

/-- A name is bound or passed over in both worlds. -/
theorem bindName_twins (fair : call.Fair) (host : Nat) (chain : List Nat) (entity : Entity) (pass : Pass)
    (script : String) :
    Twins Eq (bindName call host chain entity pass script) (bindName call host chain entity pass script) := by
  apply twins_ite Iff.rfl
  · exact together_pure rfl
  · apply (createSafely_twins fair host chain entity script).then
    intro logic other same
    cases same with
    | none => exact (report_twins _).then fun _ _ _ => together_pure rfl
    | some same =>
        apply (Scheduler.register_twins fair host (.behaviour entity script same)).then
        rintro id _ rfl
        cases id <;> exact together_pure rfl

/-- The names of an entity are bound in both worlds. -/
theorem bindNames_twins (fair : call.Fair) (host : Nat) (chain : List Nat) (entity : Entity) (pass : Pass)
    (names : List String) :
    Twins Eq (bindNames call host chain entity pass names) (bindNames call host chain entity pass names) := by
  induction names generalizing pass with
  | nil => exact together_pure rfl
  | cons name rest ih =>
      apply (bindName_twins fair host chain entity pass name).then
      rintro pass _ rfl
      exact ih pass

/-- The entities of a pass are visited in both worlds. -/
theorem bindEntities_twins (fair : call.Fair) (host : Nat) (chain : List Nat) (pass : Pass)
    (entities : List Entity) :
    Twins Eq (bindEntities call host chain pass entities) (bindEntities call host chain pass entities) := by
  induction entities generalizing pass with
  | nil => exact together_pure rfl
  | cons entity rest ih =>
      apply (declared_plain entity).twins.then
      rintro names _ rfl
      apply (bindNames_twins fair host chain entity pass names).then
      rintro pass _ rfl
      exact ih pass

/-- The same orphans are pruned in both worlds. -/
theorem prune_twins (fair : call.Fair) (host : Nat) (entities : List Entity) (pruned : Nat) :
    Twins Eq (prune call host entities pruned) (prune call host entities pruned) := by
  induction entities generalizing pruned with
  | nil => exact together_pure rfl
  | cons entity rest ih =>
      apply (Scheduler.purgeEntity_twins fair host entity).then
      rintro removed _ rfl
      exact ih _

/-- A pass reports the same. -/
theorem pass_twins (fair : call.Fair) (host : Nat) (chain : List Nat) (cap : Nat) (entities : List Entity) :
    Twins Eq (pass call host chain cap entities) (pass call host chain cap entities) := by
  apply (twins_registry host).then
  intro registry other alike
  dsimp only
  rw [alike.bindings]
  apply (bindEntities_twins fair host chain _ entities).then
  rintro bound _ rfl
  apply twins_ite Iff.rfl
  · exact (report_twins _).then fun _ _ _ => together_pure rfl
  · apply (prune_twins fair host _ 0).then
    rintro pruned _ rfl
    exact together_pure rfl

/-- The binder is marked as busy in both worlds. -/
theorem setBusy_twins (host : Nat) (busy : Bool) : Twins Eq (setBusy host busy) (setBusy host busy) :=
  twins_modifyHost host fun _ _ alike =>
    { alike with binder := congrArg (fun binder : Binder => { binder with busy }) alike.binder }

/-- Binding reports the same, or it is refused for the same reason. -/
theorem bindAll_twins (fair : call.Fair) (host : Nat) :
    Twins Eq (bindAll call host) (bindAll call host) := by
  apply (twins_host host).then
  intro state other alike
  dsimp only
  rw [alike.binder]
  apply Run.twins_refused
  apply twins_get
  intro world world' alike
  rw [alike.engine]
  split
  · exact together_pure rfl
  · apply (setBusy_twins host true).then
    intro _ _ _
    apply ((pass_twins fair host _ _ _).afterwards (setBusy_twins host false)).then
    rintro report _ rfl
    exact together_pure rfl

end ScriptHost.Session.Binding

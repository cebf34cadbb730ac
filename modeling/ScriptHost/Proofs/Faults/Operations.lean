/-
This file shows that commands which are alike are carried out alike.
-/
import ScriptHost.Proofs.Faults.Lifecycle
import ScriptHost.Proofs.Schedule.Runs

namespace ScriptHost.Session.Perform

open Effect (together_pure together_throw)
open Run (Twins twins_ite twins_get twins_note twins_host twins_registry twins_modifyHost)

/-- An entity has the same name in worlds that are alike. -/
theorem withEntity_twins (name : EntityName) {body other : Entity → Run Answer}
    (each : ∀ entity, Twins Answer.Alike (body entity) (other entity)) :
    Twins Answer.Alike (withEntity name body) (withEntity name other) := by
  unfold withEntity
  cases name with
  | number entity => exact each entity
  | name text =>
      apply twins_get
      intro world world' alike
      rw [alike.names]
      split
      · exact each _
      · exact together_pure (.same _)

/-- A handle has the same name in worlds that are alike. -/
theorem withHandle_twins {α : Type} (name : String) (part : Handle → Option α) {body : α → Run Answer}
    (each : ∀ value, Twins Answer.Alike (body value) (body value)) :
    Twins Answer.Alike (withHandle name part body) (withHandle name part body) := by
  apply twins_get
  intro world world' alike
  rw [alike.names]
  split
  · exact each _
  · exact together_pure (.same _)

/-- A runtime is found in both worlds, or in none. -/
theorem withRuntime_twins (host : String) {body : Nat → Runtime → Run Answer}
    (each : ∀ id runtime, Twins Answer.Alike (body id runtime) (body id runtime)) :
    Twins Answer.Alike (withRuntime host body) (withRuntime host body) := by
  apply twins_get
  intro world world' alike
  rw [alike.names]
  split
  · exact together_pure (.same _)
  · apply (Run.plain_runtime? _).twins.then
    rintro runtime _ rfl
    cases runtime with
    | none => exact together_pure (.same _)
    | some runtime => exact each _ _

/-- Equal values give equal answers. -/
theorem answer_twins {α : Type} {body other : Run α} (twins : Twins Eq body other) (answer : α → Answer) :
    Twins Answer.Alike (do return answer (← body)) (do return answer (← other)) := by
  apply twins.then
  rintro value _ rfl
  exact together_pure (.same _)

/-- A handle is named in both worlds. -/
theorem named_twins (name : String) {handle other : Handle} (same : handle = other) :
    Twins Answer.Alike (do Run.nameHandle name handle; return .nothing)
      (do Run.nameHandle name other; return .nothing) := by
  rw [same]
  exact (nameHandle_plain name _).twins.then fun _ _ _ => together_pure (.same _)

/-- Subscribers that are like each other are answered alike. -/
theorem subscribe_twins (kind : Event.Kind) (name : String) {hook other : Hook Operation}
    (like : Hook.Like Command.Alike hook other) :
    Twins Answer.Alike (subscribe kind name hook) (subscribe kind name other) := by
  apply (Run.twins_hooked name like).then
  intro hooked hooked' alike
  apply (Events.subscribe_twins kind (.hook alike)).then
  rintro id _ rfl
  exact named_twins name rfl

/-- So are raw subscribers. -/
theorem subscribeRaw_twins (event name : String) {hook other : Hook Operation}
    (like : Hook.Like Command.Alike hook other) :
    Twins Answer.Alike (subscribeRaw event name hook) (subscribeRaw event name other) := by
  apply (Run.twins_hooked name like).then
  intro hooked hooked' alike
  apply (Events.subscribeRaw_twins event (.hook alike)).then
  rintro id _ rfl
  exact named_twins name rfl

/-- So are listeners. -/
theorem addListener_twins (host : Nat) (name : String) {listener other : Listener}
    (alike : listener.Alike other) :
    Twins Answer.Alike (addListener host name listener) (addListener host name other) := by
  apply (Events.listen_twins host alike).then
  rintro id _ rfl
  exact named_twins name rfl

/-- Slots that are alike show the same state. -/
theorem slotState_alike {slot other : Slot} (alike : Scheduler.AlikeSlots slot other) :
    slotState slot = slotState other := by
  have same := alike.receiver
  unfold slotState
  rw [alike.started, alike.phase]
  revert same
  generalize slot.receiver = receiver
  generalize other.receiver = receiver'
  intro same
  cases same <;> rfl

/-- Slots that may be missing show the same state. -/
theorem bind_slotState {slot other : Option Slot} (alike : Option.Rel Scheduler.AlikeSlots slot other) :
    slot.bind slotState = other.bind slotState := by
  cases alike with
  | none => rfl
  | some alike => exact slotState_alike alike

/-- A receiver that was registered shows the same state. -/
theorem registeredSlot_twins (host id : Nat) :
    Twins Answer.Alike (registeredSlot host id) (registeredSlot host id) := by
  apply (twins_registry host).then
  intro registry other alike
  apply twins_ite (by rw [alike.isRegistered])
  · apply together_pure
    rw [bind_slotState (alike.slot? id)]
    exact .same _
  · exact together_pure (.same _)

/-- A receiver that was kept shows the same state. -/
theorem keptSlot_twins (host id : Nat) : Twins Answer.Alike (keptSlot host id) (keptSlot host id) := by
  apply (Scheduler.slot?_twins host id).then
  intro slot other alike
  apply together_pure
  rw [bind_slotState alike]
  exact .same _

/-- A scheduler has the same counts. -/
theorem counts_twins (host : Nat) : Twins Answer.Alike (counts host) (counts host) := by
  apply (twins_registry host).then
  intro registry other alike
  apply (Run.plain_runtime? host).twins.then
  rintro runtime _ rfl
  apply together_pure
  rw [alike.systems, alike.bindings]
  exact .same _

/-- A question about a registry is answered the same. -/
theorem asked_twins (host : Nat) {ask : Registry → Answer}
    (same : ∀ registry other, Scheduler.AlikeRegistries registry other → ask registry = ask other) :
    Twins Answer.Alike (do return ask (← Run.registry host)) (do return ask (← Run.registry host)) := by
  apply (twins_registry host).then
  intro registry other alike
  apply together_pure
  rw [same registry other alike]
  exact .same _

variable {call : Caller}

/-- Whoever was registered is named in both worlds. -/
theorem registered_twins (host : Nat) (name : String) {body other : Run (Option Nat)}
    (twins : Twins Eq body other) :
    Twins Answer.Alike
      (do match ← body with
        | some id => do
            Run.nameHandle name (.receiver host id)
            return .truth true
        | none => return .truth false)
      (do match ← other with
        | some id => do
            Run.nameHandle name (.receiver host id)
            return .truth true
        | none => return .truth false) := by
  apply twins.then
  rintro id _ rfl
  cases id with
  | none => exact together_pure (.same _)
  | some id => exact (nameHandle_plain name _).twins.then fun _ _ _ => together_pure (.same _)

/-- Systems that are like each other are registered or dropped in both worlds. -/
theorem registerSystem_twins (fair : call.Fair) (host kind : Nat) (name : String)
    {hooks others : SystemHooks Operation} (like : SystemHooks.Like Command.Alike hooks others) :
    Twins Answer.Alike (registerSystem call host kind name hooks) (registerSystem call host kind name others) := by
  cases like with
  | intro ticks ends =>
      apply (Run.twins_hooked _ ticks).then
      intro onTick onTick' ticks
      apply (Run.twins_hooked _ ends.panicking).then
      intro shutdown shutdown' ends
      exact registered_twins host name (Scheduler.register_twins fair host (.system kind ⟨ticks, ends⟩))

/-- Behaviours that are like each other are registered or disposed of in both worlds. -/
theorem registerBehaviour_twins (fair : call.Fair) (host : Nat) (script name : String)
    {hooks others : BehaviourHooks Operation} (like : BehaviourHooks.Like Command.Alike hooks others)
    (entity : Entity) :
    Twins Answer.Alike (registerBehaviour call host script name hooks entity)
      (registerBehaviour call host script name others entity) := by
  apply (Binding.behaviourHooks_twins name like).then
  intro logic other alike
  exact registered_twins host name (Scheduler.register_twins fair host (.behaviour entity script alike))

/-- Binders whose factories are like each other are put in their place. -/
theorem setBinder_twins (cap : Option Nat) {factories others : List (Factory Operation)}
    (like : List.Forall₂ (Factory.Like Command.Alike) factories others) :
    Twins Answer.Alike (setBinder factories cap) (setBinder others cap) := by
  apply (Lifecycle.addFactories_twins 0 like).then
  rintro chain _ rfl
  have put (cap : Nat) : Twins Eq
      (Run.modifyHost 0 fun host => { host with binder := ⟨chain, cap, false⟩ })
      (Run.modifyHost 0 fun host => { host with binder := ⟨chain, cap, false⟩ }) :=
    twins_modifyHost 0 fun _ _ alike => { alike with binder := rfl }
  exact (put _).then fun _ _ _ => together_pure (.same _)

/-- Factories are asked in both worlds. -/
theorem askFactories_twins (fair : call.Fair) (script : String) :
    Twins Answer.Alike (askFactories call script) (askFactories call script) := by
  apply (twins_host 0).then
  intro host other alike
  dsimp only
  rw [alike.binder]
  apply (Binding.askChain_twins fair script _).then
  intro logic logic' same
  cases same with
  | none => exact together_pure (.same _)
  | some same => exact together_pure (.same _)

/-- Binding is answered alike. -/
theorem bindAll_twins (fair : call.Fair) (host : Nat) :
    Twins Answer.Alike (bindAll call host) (bindAll call host) := by
  apply (Run.plain_runtime? host).twins.then
  rintro runtime _ rfl
  cases runtime with
  | none => exact answer_twins (Binding.bindAll_twins fair host) _
  | some runtime =>
      apply twins_ite Iff.rfl
      · exact together_pure (.same _)
      · exact answer_twins (Lifecycle.whileUsing_twins fair host (Binding.bindAll_twins fair host)) _

/-- A host is named in both worlds. -/
theorem nameHost_twins (name : String) (host : Nat) :
    Twins Eq (Run.nameHost name host) (Run.nameHost name host) :=
  Run.twins_modify fun _ _ alike => { alike with names := by rw [alike.names] }

/-- A host is forgotten in both worlds. -/
theorem forgetHost_twins (name : String) : Twins Eq (Run.forgetHost name) (Run.forgetHost name) :=
  Run.twins_modify fun _ _ alike => { alike with names := by rw [alike.names] }

/-- Runtimes whose factories are like each other come in both worlds, or in none. -/
theorem newRuntime_twins (fair : call.Fair) (name : String) (settings : Option Json.Form)
    (base : File.Pathname) {factories others : List (Factory Operation)}
    (like : List.Forall₂ (Factory.Like Command.Alike) factories others) :
    Twins Answer.Alike (newRuntime call name settings base factories)
      (newRuntime call name settings base others) := by
  unfold newRuntime
  cases configOf settings base with
  | none => exact together_pure (.same _)
  | some config =>
      apply (Lifecycle.create_twins config like).then
      rintro id _ rfl
      cases id with
      | none => exact together_pure (.same _)
      | some id =>
          apply twins_get
          intro world world' alike
          rw [alike.names]
          apply (nameHost_twins name id).then
          intro _ _ _
          dsimp only
          split
          · exact (Lifecycle.forget_twins fair _).then fun _ _ _ => together_pure (.same _)
          · exact together_pure (.same _)

/-- A runtime is dropped in both worlds. -/
theorem dropRuntime_twins (fair : call.Fair) (name : String) :
    Twins Answer.Alike (dropRuntime call name) (dropRuntime call name) := by
  apply twins_get
  intro world world' alike
  rw [alike.names]
  split
  · exact together_pure (.same _)
  · apply (forgetHost_twins name).then
    intro _ _ _
    exact (Lifecycle.forget_twins fair _).then fun _ _ _ => together_pure (.same _)

/-- Starting a runtime is answered alike. -/
theorem startRuntime_twins (fair : call.Fair) (host : Nat) (runtime : Runtime) :
    Twins Answer.Alike (startRuntime call host runtime) (startRuntime call host runtime) := by
  unfold startRuntime
  cases runtime.state with
  | shutDown => exact together_pure (.same _)
  | running => exact together_pure (.same _)
  | created =>
      exact (Lifecycle.whileUsing_twins fair host (Lifecycle.start_twins fair host)).then fun _ _ _ =>
        together_pure (.same _)

/-- Reloading a scene is answered alike. -/
theorem reloadScene_twins (fair : call.Fair) (host : Nat) (runtime : Runtime) :
    Twins Answer.Alike (reloadScene call host runtime) (reloadScene call host runtime) := by
  apply twins_ite Iff.rfl
  · exact together_pure (.same _)
  · exact answer_twins (Lifecycle.whileUsing_twins fair host (Lifecycle.reloadScene_twins fair host)) _

/-- Plain runs answer alike. -/
theorem plain_answers {body : Run Answer} (plain : Run.Plain body) : Twins Answer.Alike body body := by
  apply plain.twins.mono
  intro result other same
  rw [Effect.twin_eq.mp same]
  cases other with
  | ok answer => exact .same answer
  | error raised => exact rfl

/-- One operation does the same in worlds that are alike. -/
theorem operation_twins (fair : call.Fair) (name : String) (host : Nat) (operation : Operation) :
    Twins Answer.Alike (operate call name host operation) (operate call name host operation) := by
  cases operation with
  | subscribe kind label hook => exact subscribe_twins kind label (.refl hook)
  | subscribeRaw event label hook => exact subscribeRaw_twins event label (.refl hook)
  | unsubscribe event handle =>
      exact withHandle_twins handle subscription? fun id => answer_twins (Events.unsubscribe_twins event id) _
  | subscribers event =>
      apply twins_get
      intro world world' alike
      rw [alike.bridge.count]
      exact together_pure (.same _)
  | dropped =>
      apply twins_get
      intro world world' alike
      rw [alike.bridge.dropped]
      exact together_pure (.same _)
  | publish event => exact answer_twins (Events.dispatch_twins fair event.name event.encode) _
  | publishRaw event payload => exact answer_twins (Events.dispatch_twins fair event payload) _
  | hookTicks => exact answer_twins (Events.hookTicks_twins host) _
  | unhookTicks => exact answer_twins (Events.unhookTicks_twins host) _
  | ticksHooked =>
      apply (twins_host host).then
      intro state other alike
      rw [alike.source.subscription]
      exact together_pure (.same _)
  | addListener label hook =>
      apply (Run.twins_hooked label (.refl hook)).then
      exact fun _ _ alike => addListener_twins host label (.hook alike)
  | removeListener handle =>
      exact withHandle_twins handle listener? fun id => answer_twins (Events.dismiss_twins host id) _
  | listeners =>
      apply (twins_host host).then
      intro state other alike
      rw [alike.source.listeners.length_eq]
      exact together_pure (.same _)
  | clock =>
      apply (twins_host host).then
      intro state other alike
      rw [alike.source.clock]
      exact together_pure (.same _)
  | driveScheduler label => exact addListener_twins host label (.scheduler host _)
  | registerSystem kind label hooks => exact registerSystem_twins fair host kind label (.refl hooks)
  | registerBehaviour entity script label hooks =>
      exact withEntity_twins entity (registerBehaviour_twins fair host script label (.refl hooks))
  | unregister handle =>
      exact withHandle_twins handle receiver? fun receiver =>
        answer_twins (Scheduler.unregister_twins fair host receiver.2) _
  | isRegistered handle =>
      exact withHandle_twins handle receiver? fun receiver =>
        asked_twins host fun _ _ alike => by rw [alike.isRegistered]
  | behaviour handle =>
      exact withHandle_twins handle receiver? fun receiver => registeredSlot_twins host receiver.2
  | slot handle =>
      exact withHandle_twins handle receiver? fun receiver => keptSlot_twins receiver.1 receiver.2
  | hasBinding entity script =>
      exact withEntity_twins entity fun entity => asked_twins host fun _ _ alike => by
        rw [Schedule.Registry.hasBinding, Schedule.Registry.hasBinding, alike.bindings]
  | bindings => exact asked_twins host fun _ _ alike => by rw [alike.bindings]
  | systems => exact asked_twins host fun _ _ alike => by rw [alike.systems]
  | counts => exact counts_twins host
  | purgeBehaviours => exact answer_twins (Scheduler.purgeBehaviours_twins fair host) _
  | purgeEntity entity =>
      exact withEntity_twins entity fun entity =>
        answer_twins (Scheduler.purgeEntity_twins fair host entity) _
  | shutDownScheduler => exact answer_twins (Scheduler.shutDown_twins fair host) _
  | tick signal =>
      apply (twins_note (.same (.tickCommanded host signal))).then
      intro _ _ _
      exact (Scheduler.tick_twins fair host signal).then fun _ _ alike => together_pure (.ticked alike)
  | setBinder factories cap => exact setBinder_twins cap (Factory.like_refl factories)
  | factory script => exact askFactories_twins fair script
  | bindAll => exact bindAll_twins fair host
  | newRuntime settings base factories =>
      exact newRuntime_twins fair name settings base (Factory.like_refl factories)
  | dropRuntime => exact dropRuntime_twins fair name
  | startRuntime => exact withRuntime_twins name (startRuntime_twins fair)
  | shutDownRuntime =>
      exact withRuntime_twins name fun host runtime =>
        answer_twins (Lifecycle.whileUsing_twins fair host (Lifecycle.shutDown_twins fair host runtime)) _
  | reloadScene => exact withRuntime_twins name (reloadScene_twins fair)
  | _ => exact plain_answers (operate_plain call name host rfl)

end ScriptHost.Session.Perform

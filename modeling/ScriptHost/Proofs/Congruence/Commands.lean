/-
This file shows that all commands of a scope do the same in related worlds and leave related worlds, however
deep their hooks nest.
-/
import ScriptHost.Proofs.Congruence.Binding
import ScriptHost.Proofs.Congruence.Events

namespace ScriptHost.Session

open Run (agrees_pure agrees_throw agrees_get)

variable {scope : Scope} {fits : Nat → Receiver → Prop} {related : World → World → Prop} {call : Caller}
  {host : Nat}

namespace Lifecycle

/-- A host that has a name is not freed. -/
theorem free_named {world : World} (named : (world.hostOf host).named = true) :
    (free call host).run.run world = (.ok (), world) := by
  have kept : ¬ (¬ (world.hostOf host).named ∧ (world.hostOf host).users = 0 ∧
      ¬ (world.hostOf host).freed) := fun freeing => freeing.1 named
  change (if ¬ (world.hostOf host).named ∧ (world.hostOf host).users = 0 ∧ ¬ (world.hostOf host).freed
    then _ else return () : Run Unit).run.run world = _
  rw [if_neg kept]
  rfl

/-- Factories of the scope take the same numbers in related worlds. -/
theorem addFactories_agrees (stocked : Stocked scope related) (place : Nat) (factories : List (Factory Operation))
    (within : ∀ factory ∈ factories, factory.Within scope) : (addFactories place factories).Agrees related := by
  induction factories generalizing place with
  | nil => exact agrees_pure _
  | cons factory rest ih =>
      apply agrees_get
      · intro world other holds
        rw [stocked.factories holds]
      · intro world _ _
        have added : (modify fun world' : World =>
            { world' with factories := world'.factories ++ [⟨factory, place, 0⟩] } : Run Unit).Agrees related := by
          apply Run.agrees_modify
          intro world' other' holds
          have kept := stocked.restock (world'.factories ++ [⟨factory, place, 0⟩]) holds ?_
          · change related (world'.restock (world'.factories ++ [⟨factory, place, 0⟩]))
              (other'.restock (other'.factories ++ [⟨factory, place, 0⟩]))
            rwa [← stocked.factories holds]
          · intro state member
            obtain member | ⟨_ | ⟨_, ⟨⟩⟩⟩ := List.mem_append.mp member
            · exact stocked.within holds state member
            · exact within factory List.mem_cons_self
        apply added.bind
        intro _
        apply (ih (place + 1) fun other member => within other (List.mem_cons_of_mem _ member)).bind
        exact fun _ => agrees_pure _

end Lifecycle

namespace Perform

section Engine

variable (congruence : Congruence scope fits related)

include congruence

/-- An entity has the same name in related worlds. -/
theorem withEntity_agrees (name : EntityName) {body : Entity → Run Answer}
    (each : ∀ entity, (body entity).Agrees related) : (withEntity name body).Agrees related := by
  unfold withEntity
  cases name with
  | number entity => exact each entity
  | name text =>
      apply agrees_get
      · intro world other holds
        rw [congruence.names holds]
      · intro world _ _
        split
        · exact each _
        · exact agrees_pure _

/-- A handle has the same name in related worlds. -/
theorem withHandle_agrees {α : Type} (name : String) (part : Handle → Option α) {body : α → Run Answer}
    (each : ∀ value, (body value).Agrees related) : (withHandle name part body).Agrees related := by
  apply agrees_get
  · intro world other holds
    rw [congruence.names holds]
  · intro world _ _
    split
    · exact each _
    · exact agrees_pure _

/-- An entity is named in both worlds. -/
theorem nameEntity_agrees (name : Option String) (entity : Entity) :
    (Run.nameEntity name entity).Agrees related := by
  cases name with
  | none => exact agrees_pure _
  | some name => exact congruence.agrees_modifyNames fun _ => rfl

/-- A handle is named in both worlds. -/
theorem nameHandle_agrees (name : String) (handle : Handle) : (Run.nameHandle name handle).Agrees related :=
  congruence.agrees_modifyNames fun _ => rfl

/-- The engine changes alike, and it answers alike. -/
theorem change_agrees (act : Engine → Engine × Except NativeError Unit) : (change act).Agrees related := by
  apply agrees_get
  · intro world other holds
    rw [congruence.engine holds]
  · intro world _ _
    apply (congruence.agrees_modifyEngine _).bind
    intro _
    split <;> exact agrees_pure _

/-- The engine is looked at alike. -/
theorem look_agrees {α : Type} (shape : α → Answer) (act : Engine → Except NativeError α) :
    (look shape act).Agrees related := by
  apply agrees_get
  · intro world other holds
    rw [congruence.engine holds]
  · intro world _ _
    split <;> exact agrees_pure _

/-- A switch of the engine is set in both worlds. -/
theorem switch_agrees (change : Engine → Engine) : (switch change).Agrees related :=
  (congruence.agrees_modifyEngine change).bind fun _ => agrees_pure _

/-- Whatever is asked of the engine is answered alike. -/
theorem ask_agrees (answer : Engine → Answer) :
    (get >>= fun world : World => pure (answer world.engine) : Run Answer).Agrees related :=
  agrees_get (fun _ _ holds => by rw [congruence.engine holds]) fun _ _ _ => agrees_pure _

/-- The same entity is spawned in both worlds. -/
theorem spawn_agrees (name : Option String) (data : List (String × String)) : (spawn name data).Agrees related := by
  apply agrees_get
  · intro world other holds
    rw [congruence.engine holds]
  · intro world _ _
    apply (congruence.agrees_modifyEngine _).bind
    intro _
    exact (nameEntity_agrees congruence name _).bind fun _ => agrees_pure _

/-- The same entity is created, or both engines refuse. -/
theorem create_agrees (name : Option String) : (create name).Agrees related := by
  apply agrees_get
  · intro world other holds
    rw [congruence.engine holds]
  · intro world _ _
    apply (congruence.agrees_modifyEngine _).bind
    intro _
    split
    · exact (nameEntity_agrees congruence name _).bind fun _ => agrees_pure _
    · exact agrees_pure _

/-- The data of an entity are the same in both worlds. -/
theorem getData_agrees (key : String) (entity : Entity) : (getData key entity).Agrees related := by
  apply agrees_get
  · intro world other holds
    rw [congruence.engine holds]
  · intro world _ _
    split
    · exact agrees_throw _
    · exact look_agrees congruence _ _

/-- Operations on the engine answer alike. -/
theorem engineOperation_agrees (operation : Operation) : (engineOperation operation).Agrees related := by
  cases operation with
  | spawn name data => exact spawn_agrees congruence name data
  | create name => exact create_agrees congruence name
  | destroy entity => exact withEntity_agrees congruence _ fun _ => change_agrees congruence _
  | setData entity key value => exact withEntity_agrees congruence _ fun _ => change_agrees congruence _
  | removeData entity key => exact withEntity_agrees congruence _ fun _ => change_agrees congruence _
  | setComponent entity key value => exact withEntity_agrees congruence _ fun _ => change_agrees congruence _
  | getData entity key => exact withEntity_agrees congruence _ fun _ => getData_agrees congruence key _
  | getComponent entity key => exact withEntity_agrees congruence _ fun _ => look_agrees congruence _ _
  | alive entity =>
      exact withEntity_agrees congruence _ fun entity =>
        ask_agrees congruence fun engine => .truth (engine.isAlive entity)
  | live cap => exact look_agrees congruence _ _
  | entityCount => exact ask_agrees congruence fun engine => .count engine.store.count
  | data entity =>
      exact withEntity_agrees congruence _ fun entity =>
        ask_agrees congruence fun engine => .data (engine.entries entity)
  | declared entity =>
      exact withEntity_agrees congruence _ fun entity =>
        (Binding.declared_agrees congruence entity).bind fun _ => agrees_pure _
  | failKey key => exact switch_agrees congruence _
  | clearFailures => exact switch_agrees congruence _
  | setInterval interval => exact switch_agrees congruence _
  | interval => exact ask_agrees congruence fun engine => .interval engine.interval
  | failLive code => exact switch_agrees congruence _
  | failCreate code => exact switch_agrees congruence _
  | panicKey key => exact switch_agrees congruence _
  | _ => exact agrees_pure _

/-- A slot that was kept is found in both worlds. -/
theorem slot_agrees (handle : String) :
    (withHandle handle receiver? fun receiver => keptSlot receiver.1 receiver.2).Agrees related := by
  apply withHandle_agrees congruence
  intro receiver
  apply congruence.agrees_slot?
  · exact agrees_pure _
  · exact fun slot _ => agrees_pure _

/-- A receiver that was registered is found in both worlds. -/
theorem registeredSlot_agrees (id : Nat) : (registeredSlot host id).Agrees related := by
  apply congruence.agrees_registry
  intro registry _
  split <;> exact agrees_pure _

/-- The counts of a scheduler are the same in both worlds. -/
theorem counts_agrees : (counts host).Agrees related := by
  apply congruence.agrees_registry
  intro registry _
  apply Run.agrees_runtime?
  · intro world other holds
    have same := congrArg Option.isSome (congruence.scripts holds host)
    rw [Option.isSome_map, Option.isSome_map] at same
    rw [same]
  · exact fun runtime => agrees_pure _

/-- A cache is named in both worlds. -/
theorem nameCache_agrees (name : String) (cache : Script.UnitCache) : (Run.nameCache name cache).Agrees related :=
  congruence.agrees_modifyNames fun _ => rfl

/-- A loader is named in both worlds. -/
theorem nameLoader_agrees (name : String) (loader : Content.Loader) : (Run.nameLoader name loader).Agrees related :=
  congruence.agrees_modifyNames fun _ => rfl

/-- Only the state of a runtime is read. -/
theorem agrees_state {α : Type} {next : Option Runtime → Run α}
    (reads : ∀ runtime other : Option Runtime, runtime.map Runtime.state = other.map Runtime.state →
      next runtime = next other)
    (rest : ∀ runtime, (next runtime).Agrees related) : (Run.runtime? host >>= next).Agrees related := by
  apply Run.agrees_runtime? _ rest
  intro world other holds
  have same := congrArg (Option.map Prod.snd) (congruence.scripts holds host)
  rw [Option.map_map, Option.map_map] at same
  exact reads _ _ same

/-- A runtime is in the same state in related worlds. -/
theorem runtimeState_agrees (name : String) :
    (withRuntime name fun _ runtime => return .state runtime.state).Agrees related := by
  apply agrees_get
  · intro world other holds
    rw [congruence.names holds]
  · intro world _ _
    split
    · exact agrees_pure _
    · apply agrees_state congruence
      · rintro (_ | runtime) (_ | other) same
        · rfl
        · cases same
        · cases same
        · exact congrArg (fun state => (pure (.state state) : Run Answer)) (Option.some_inj.mp same)
      · intro runtime
        split <;> exact agrees_pure _

/-- The same lines are taken from the log in both worlds. -/
theorem takeLogs_agrees : (takeLogs host).Agrees related := by
  have taken : ∀ world : World, (takeLogs host).run.run world =
      (.ok (world.hostOf host).log, world.leave host ⟨world.engine, world.draws, [], []⟩) := fun _ => rfl
  intro world other holds
  rw [taken, taken, congruence.log holds host, ← congruence.engine holds, ← congruence.draws holds]
  exact ⟨rfl, congruence.leave host _ holds⟩

/-- A cache has the same name in related worlds. -/
theorem withCache_agrees (name : String) {body : Script.UnitCache → Run Answer}
    (each : ∀ cache, (body cache).Agrees related) : (withCache name body).Agrees related := by
  apply agrees_get
  · intro world other holds
    rw [congruence.names holds]
  · intro world _ _
    split
    · exact each _
    · exact agrees_pure _

/-- A loader has the same name in related worlds. -/
theorem withLoader_agrees (name : String) {body : Content.Loader → Run Answer}
    (each : ∀ loader, (body loader).Agrees related) : (withLoader name body).Agrees related := by
  apply agrees_get
  · intro world other holds
    rw [congruence.names holds]
  · intro world _ _
    split
    · exact each _
    · exact agrees_pure _

/-- The units of a cache run alike. -/
theorem runUnits_agrees (cache : Script.UnitCache) (signal : Tick.Signal) :
    (runUnits cache signal).Agrees related := by
  apply (congruence.agrees_outside _).bind
  intro count
  exact (takeLogs_agrees congruence).bind fun _ => agrees_pure _

/-- Operations that only look answer alike. -/
theorem looking_agrees (name : String) {operation : Operation} (looks : operation.looks = true) :
    (operate call name host operation).Agrees related := by
  cases operation with
  | takeLogs => exact (takeLogs_agrees congruence).bind fun _ => agrees_pure _
  | countLogs =>
      apply Run.agrees_host
      · intro world other holds
        rw [congruence.log holds host]
      · exact fun holds => agrees_pure _ _ _ holds
  | claimed =>
      apply agrees_get
      · intro world other holds
        rw [congruence.claimed holds]
      · exact fun _ _ _ => agrees_pure _
  | runtimeState => exact runtimeState_agrees congruence name
  | newCache label root extension => exact (nameCache_agrees congruence label _).bind fun _ => agrees_pure _
  | describeCache cache => exact withCache_agrees congruence cache fun _ => agrees_pure _
  | cacheHas cache unit => exact withCache_agrees congruence cache fun _ => agrees_pure _
  | runUnits cache signal => exact withCache_agrees congruence cache fun _ => runUnits_agrees congruence _ signal
  | newLoader label kind root extension => exact (nameLoader_agrees congruence label _).bind fun _ => agrees_pure _
  | definitions loader => exact withLoader_agrees congruence loader fun _ => agrees_pure _
  | definition loader id => exact withLoader_agrees congruence loader fun _ => agrees_pure _
  | _ => cases looks

end Engine

section Hooks

variable (heeding : call.Heeding scope fits) (heeds : Heeds scope fits related)

include heeding heeds

/-- A system within the scope is registered or dropped in both worlds. -/
theorem registerSystem_agrees (kind : Nat) (name : String) {hooks : SystemHooks Operation}
    (onTick : hooks.onTick.Within scope) (shutdown : hooks.shutdown.Within scope) :
    (registerSystem call host kind name hooks).Agrees related := by
  apply (heeds.agrees_hooked _ _).bind
  intro ticking ticks
  apply (heeds.agrees_hooked _ _).bind
  intro closing closes
  have within : WithinReceiver scope (.system kind ⟨ticking, closing⟩) := by
    constructor
    · change ticking.hook.Within scope
      rw [ticks]
      exact onTick
    · change closing.hook.Within scope
      rw [closes]
      exact shutdown.panicking
  apply (Scheduler.register_agrees heeding heeds _ within (heeds.system within)).bind
  intro id
  cases id with
  | none => exact agrees_pure _
  | some id => exact (nameHandle_agrees heeds.toCongruence name _).bind fun _ => agrees_pure _

/-- A behaviour within the scope is registered or disposed of in both worlds. -/
theorem registerBehaviour_agrees (script name : String) {hooks : BehaviourHooks Operation}
    (within : hooks.Within scope) (entity : Entity) :
    (registerBehaviour call host script name hooks entity).Agrees related := by
  apply (Binding.behaviourHooks_suited heeds.toCongruence host script name within).bind
  intro logic suited
  apply (Scheduler.register_agrees heeding heeds (.behaviour entity script logic) suited.within
    (suited.fits entity)).bind
  intro id
  cases id with
  | none => exact agrees_pure _
  | some id => exact (nameHandle_agrees heeds.toCongruence name _).bind fun _ => agrees_pure _

end Hooks

section Binders

variable (stocked : Stocked scope related)

include stocked

/-- A binder with factories of the scope is put in its place in both worlds. -/
theorem setBinder_agrees {factories : List (Factory Operation)} (cap : Option Nat)
    (within : ∀ factory ∈ factories, factory.Within scope) : (setBinder factories cap).Agrees related := by
  apply (Lifecycle.addFactories_agrees stocked 0 factories within).bind
  intro chain
  have rebound : (Run.modifyHost 0 fun host =>
      { host with binder := ⟨chain, max 1 (cap.getD standardCap), false⟩ }).Agrees related :=
    fun _ _ holds => ⟨rfl, stocked.rebind 0 _ holds⟩
  exact rebound.bind fun _ => agrees_pure _

variable (heeding : call.Heeding scope fits) (heeds : Heeds scope fits related)

include heeding heeds

/-- The factories of a chain are asked in the same order in both worlds. -/
theorem askFactories_agrees (script : String) : (askFactories call script).Agrees related := by
  apply Run.agrees_host
  · intro world other holds
    rw [stocked.binder holds 0]
  · intro world other holds
    have asked : (do
        let made ← Binding.askChain call script (world.hostOf 0).binder.factories
        return .chain (world.hostOf 0).binder.factories.length made.isSome : Run Answer).Agrees related :=
      (Binding.askChain_suited heeding heeds stocked 0 script _).bind fun _ _ => agrees_pure _
    exact asked world other holds

end Binders

section Hearers

variable (congruence : Congruence scope fits related) (audible : Audible scope related)

include congruence audible

/-- A subscriber within the scope takes the same number in both worlds. -/
theorem subscribe_agrees (kind : Event.Kind) (name : String) {hook : Hook Operation} (heard : hook.Within scope) :
    (subscribe kind name hook).Agrees related := by
  apply (congruence.agrees_hooked name hook).bind
  rintro hooked rfl
  apply (Events.subscribe_agrees audible kind (.hook hooked) heard).bind
  exact fun _ => (nameHandle_agrees congruence name _).bind fun _ => agrees_pure _

/-- So does a raw subscriber. -/
theorem subscribeRaw_agrees (event name : String) {hook : Hook Operation} (heard : hook.Within scope) :
    (subscribeRaw event name hook).Agrees related := by
  apply (congruence.agrees_hooked name hook).bind
  rintro hooked rfl
  apply (Events.subscribeRaw_agrees congruence audible event (.hook hooked) heard).bind
  exact fun _ => (nameHandle_agrees congruence name _).bind fun _ => agrees_pure _

/-- So does a listener. -/
theorem addListener_agrees (name : String) (listener : Listener) (heard : listener.Within scope) :
    (addListener host name listener).Agrees related := by
  apply (Events.listen_agrees audible heard).bind
  exact fun _ => (nameHandle_agrees congruence name _).bind fun _ => agrees_pure _

end Hearers

variable (heeding : call.Heeding scope fits) (heeds : Heeds scope fits related)

include heeding heeds

/-- Every operation of the scope answers alike. -/
theorem operate_agrees (name : String) {operation : Operation} (within : Within scope operation) :
    (operate call name host operation).Agrees related := by
  cases within with
  | engine engines =>
      have agrees := engineOperation_agrees heeds.toCongruence operation
      cases operation <;> first | (cases engines; done) | exact agrees | exact agrees_pure _
  | look looks => exact looking_agrees heeds.toCongruence name looks
  | calm allowed calm => exact heeds.calm allowed (operate_plain call name host calm)
  | registerSystem kind label hooks onTick shutdown =>
      exact registerSystem_agrees heeding heeds kind label onTick shutdown
  | registerBehaviour entity script label hooks attach start update dispose =>
      exact withEntity_agrees heeds.toCongruence entity
        (registerBehaviour_agrees heeding heeds script label ⟨attach, start, update, dispose⟩)
  | unregister handle =>
      exact withHandle_agrees heeds.toCongruence handle _ fun receiver =>
        (Scheduler.unregister_agrees heeding heeds).bind fun _ => agrees_pure _
  | isRegistered handle =>
      exact withHandle_agrees heeds.toCongruence handle _ fun receiver =>
        heeds.agrees_registry fun registry _ => agrees_pure _
  | behaviour handle =>
      exact withHandle_agrees heeds.toCongruence handle _ fun receiver =>
        registeredSlot_agrees heeds.toCongruence receiver.2
  | slot handle => exact slot_agrees heeds.toCongruence handle
  | hasBinding entity script =>
      exact withEntity_agrees heeds.toCongruence entity fun entity =>
        heeds.agrees_registry fun registry _ => agrees_pure _
  | bindings => exact heeds.agrees_registry fun registry _ => agrees_pure _
  | systems => exact heeds.agrees_registry fun registry _ => agrees_pure _
  | counts => exact counts_agrees heeds.toCongruence
  | purgeBehaviours => exact (Scheduler.removeWhere_agrees heeding heeds _).bind fun _ => agrees_pure _
  | purgeEntity entity =>
      exact withEntity_agrees heeds.toCongruence entity fun entity =>
        (Scheduler.removeWhere_agrees heeding heeds _).bind fun _ => agrees_pure _
  | shutDownScheduler => exact (Scheduler.removeWhere_agrees heeding heeds _).bind fun _ => agrees_pure _
  | setBinder allowed factories cap commands attach start update dispose =>
      apply setBinder_agrees (heeds.stocks allowed) cap
      exact fun factory member => ⟨commands factory member, fun script hooks offered =>
        ⟨attach factory member script hooks offered, start factory member script hooks offered,
          update factory member script hooks offered, dispose factory member script hooks offered⟩⟩
  | factory allowed script => exact askFactories_agrees (heeds.stocks allowed) heeding heeds script
  | subscribe allowed kind label hook heard =>
      exact subscribe_agrees heeds.toCongruence (heeds.hears allowed) kind label heard
  | subscribeRaw allowed event label hook heard =>
      exact subscribeRaw_agrees heeds.toCongruence (heeds.hears allowed) event label heard
  | unsubscribe allowed event handle =>
      exact withHandle_agrees heeds.toCongruence handle _ fun id =>
        (Events.unsubscribe_agrees (heeds.hears allowed) event id).bind fun _ => agrees_pure _
  | subscribers allowed event =>
      exact Events.agrees_bridge (heeds.hears allowed) (fun _ _ same => by rw [same]) fun _ _ => agrees_pure _
  | dropped allowed =>
      exact Events.agrees_bridge (heeds.hears allowed) (fun _ _ same => by rw [same]) fun _ _ => agrees_pure _
  | publish allowed event =>
      exact (Events.publish_agrees heeding heeds (heeds.hears allowed) event).bind fun _ => agrees_pure _
  | publishRaw allowed event payload =>
      exact (Events.dispatch_agrees heeding heeds (heeds.hears allowed) event payload).bind fun _ => agrees_pure _
  | hookTicks allowed => exact (Events.hookTicks_agrees (heeds.hears allowed)).bind fun _ => agrees_pure _
  | unhookTicks allowed => exact (Events.unhookTicks_agrees (heeds.hears allowed)).bind fun _ => agrees_pure _
  | ticksHooked allowed =>
      exact Events.agrees_source (heeds.hears allowed) (fun _ _ same => by rw [same]) fun _ _ => agrees_pure _
  | addListener allowed label hook heard =>
      apply (heeds.agrees_hooked label hook).bind
      rintro hooked rfl
      exact addListener_agrees heeds.toCongruence (heeds.hears allowed) label (.hook hooked) heard
  | removeListener allowed handle =>
      exact withHandle_agrees heeds.toCongruence handle _ fun id =>
        (Events.dismiss_agrees (heeds.hears allowed) id).bind fun _ => agrees_pure _
  | listeners allowed =>
      exact Events.agrees_source (heeds.hears allowed) (fun _ _ same => by rw [same]) fun _ _ => agrees_pure _
  | clock allowed =>
      exact Events.agrees_source (heeds.hears allowed) (fun _ _ same => by rw [same]) fun _ _ => agrees_pure _
  | driveScheduler allowed label =>
      exact addListener_agrees heeds.toCongruence (heeds.hears allowed) label
        (.scheduler host (some label)) trivial
  | tick allowed signal =>
      apply (Events.agrees_note (heeds.hears allowed) _).bind
      intro _
      exact (Events.tick_agrees heeding heeds (heeds.hears allowed) signal).bind fun _ => agrees_pure _

/-- Every command of the scope answers alike. -/
theorem perform_agrees {command : Command Operation} (within : Within scope command.operation) :
    (perform call command).Agrees related := by
  apply agrees_get
  · intro world other holds
    rw [heeds.names holds]
  · intro world other holds
    exact operate_agrees heeding heeds command.host within

/-- Commands of the scope answer alike one after the other. -/
theorem performAll_agrees {commands : List (Command Operation)}
    (within : ∀ command ∈ commands, Within scope command.operation) :
    (performAll call commands).Agrees related := by
  induction commands with
  | nil => exact agrees_pure _
  | cons command rest ih =>
      apply (perform_agrees heeding heeds (within command List.mem_cons_self)).bind
      intro answer
      apply (heeds.agrees_note rfl).bind
      exact fun _ => ih fun other member => within other (List.mem_cons_of_mem _ member)

end Perform

/-- A hook ends alike in both worlds. -/
theorem enact_agrees (ending : Ending) : (ending.enact).Agrees related := by
  cases ending with
  | normal => exact agrees_pure _
  | failure context message => exact agrees_throw _
  | panic message => exact agrees_throw _

/-- However deep hooks nest, they keep every relation that heeds their scope. -/
theorem caller_heeding (depth : Nat) : (caller depth).Heeding scope fits := by
  induction depth with
  | zero => exact ⟨fun _ _ _ _ => agrees_throw _, fun _ _ _ => agrees_throw _⟩
  | succ depth ih =>
      constructor
      · intro related heeds hooked arguments within
        apply (heeds.agrees_note rfl).bind
        intro _
        apply (heeds.agrees_use hooked).bind
        intro calls
        apply (Perform.performAll_agrees ih heeds (within calls)).bind
        intro _
        exact (heeds.agrees_note rfl).bind fun _ => enact_agrees _
      · exact fun heeds commands within => Perform.performAll_agrees ih heeds within

end ScriptHost.Session

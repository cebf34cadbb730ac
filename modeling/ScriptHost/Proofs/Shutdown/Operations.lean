/-
This file shows that every command keeps its promises, however deep its hooks nest.
-/
import ScriptHost.Proofs.Shutdown.Runtimes

namespace ScriptHost.Session.Shutdown

open Perform (subscription? listener? receiver?)

variable {host place : Nat} {call : Caller} {origin world after : World}

section Parts

variable {α : Type} {body : Run α}

/-- What a run answers does not matter. -/
theorem answer_passes (passes : Passes host [] origin world body) (answer : α → Answer) :
    Passes host [] origin world (do return answer (← body)) :=
  passes.bind fun value _ passage => passes_pure passage (answer value)

/-- What an idle run answers does not matter. -/
theorem answer_idle (idle : Idle host body) (answer : α → Answer) :
    Idle host (do return answer (← body)) :=
  idle.bind fun value => idle_pure (answer value)

/-- An operation on an entity passes if it does for the entity that is named, and else it is refused. -/
theorem withEntity_passes (name : EntityName) {body : Entity → Run Answer}
    (passage : Passage host [] True origin world)
    (each : ∀ entity, Passes host [] origin world (body entity)) :
    Passes host [] origin world (Perform.withEntity name body) := by
  cases name with
  | number entity => exact each entity
  | name text =>
      unfold Passes Perform.withEntity
      dsimp only
      rw [Run.ends_bind, Run.ends_get, Run.followed_ok]
      split
      · exact each _
      · exact passes_pure passage _

/-- An operation on a handle passes if it does for the handle that is named, and else it is refused. -/
theorem withHandle_passes (name : String) (part : Handle → Option α) {body : α → Run Answer}
    (passage : Passage host [] True origin world)
    (each : ∀ value, Passes host [] origin world (body value)) :
    Passes host [] origin world (Perform.withHandle name part body) := by
  unfold Passes Perform.withHandle
  rw [Run.ends_bind, Run.ends_get, Run.followed_ok]
  split
  · exact each _
  · exact passes_pure passage _

/-- A host that has a name is there. -/
theorem Housed.lookup (housed : Housed world) {name : String}
    (found : world.names.hosts.lookup name = some place) : place < world.hosts.length := by
  obtain ⟨before, rest, same, -⟩ := List.lookup_eq_some_iff.mp found
  exact housed.named (name, place) (by simp [same])

/-- An operation on a runtime finds its host in place, and the runtime as far as it is. -/
theorem withRuntime_passes (name : String) {body : Nat → Runtime → Run Answer}
    (passage : Passage host [] True origin world)
    (each : ∀ place runtime, place < world.hosts.length →
      engagement world place = some (runtime.state, runtime.listener) →
        Passes host [] world world (body place runtime)) :
    Passes host [] origin world (Perform.withRuntime name body) := by
  unfold Passes Perform.withRuntime
  rw [Run.ends_bind, Run.ends_get, Run.followed_ok]
  split
  · exact passes_pure passage _
  · next place named =>
      rw [Run.ends_bind, Run.ends_runtime?, Run.followed_ok]
      split
      · next runtime found =>
          have there := passage.sound.housed.lookup named
          exact (each place runtime there (engagement_found found)).start passage
      · exact passes_pure passage _

/-- Whoever only looks idles. -/
theorem idle_looking {body : World → Run α}
    (each : ∀ world, Idles host world ((body world).run.run world).2) : Idle host (get >>= body) := each

end Parts

/-- Whoever subscribes to an event drives no host. -/
theorem subscribe_idle (kind : Event.Kind) (name : String) (hook : Hook Operation) :
    Idle host (Perform.subscribe kind name hook) := by
  apply (hooked_idle name hook).bind
  intro hooked
  have subscribed : Idle host (Events.subscribe kind (.hook hooked)) :=
    fun _ => idles_aside rfl rfl rfl
  apply subscribed.bind
  intro id
  apply (idle_plain (Perform.nameHandle_plain name _)).bind
  exact fun _ => idle_pure _

/-- Whoever subscribes to raw payloads under a name drives no host. -/
theorem subscribeRaw_named (event name : String) (hook : Hook Operation) :
    Idle host (Perform.subscribeRaw event name hook) := by
  apply (hooked_idle name hook).bind
  intro hooked
  apply (subscribeRaw_idle event (.hook hooked)).bind
  intro id
  apply (idle_plain (Perform.nameHandle_plain name _)).bind
  exact fun _ => idle_pure _

/-- A listener that is added by name drives no runtime. -/
theorem addListener_passes (name : String) {listener : Listener}
    (passage : Passage host [] True origin world) (present : place < world.hosts.length)
    (named : ∀ target, listener ≠ .scheduler target none)
    (within : ∀ target name, listener = .scheduler target name → target < world.hosts.length) :
    Passes host [] origin world (Perform.addListener place name listener) := by
  apply (passes_idles (listen_idles present named within) passage).bind
  intro id after passage
  apply ((idle_plain (Perform.nameHandle_plain name _)).passes passage).bind
  exact fun _ after passage => passes_pure passage _

/-- Whoever looks at a registry waits for its lock. -/
theorem looked_passes (passage : Passage host [] True origin world) {body : Registry → Run Answer}
    (each : ∀ registry, Idle host (body registry)) :
    Passes host [] origin world (Run.registry place >>= body) :=
  passes_registry passage fun _ => (each _).passes passage

/-- A receiver that was registered gets its name. -/
theorem registered_passes (name : String) {body : Run (Option Nat)}
    (passes : Passes host [] origin world body) : Passes host [] origin world (do
      match ← body with
      | some id => do
          Run.nameHandle name (.receiver place id)
          return .truth true
      | none => return .truth false : Run Answer) := by
  apply passes.bind
  intro id after passage
  cases id with
  | none => exact passes_pure passage _
  | some id =>
      apply ((idle_plain (Perform.nameHandle_plain name _)).passes passage).bind
      exact fun _ after passage => passes_pure passage _

section Commands

variable (careful : Careful host call) (present : place < origin.hosts.length)
  (passage : Passage host [] True origin world)

include careful present passage

/-- A system is registered under its name. -/
theorem registerSystem_passes (kind : Nat) (name : String) (hooks : SystemHooks Operation) :
    Passes host [] origin world (Perform.registerSystem call place kind name hooks) := by
  apply ((hooked_idle _ _).passes passage).bind
  intro onTick ticking passage
  apply ((hooked_idle _ _).passes passage).bind
  intro shutdown hooked passage
  apply registered_passes
  exact (register_passes careful _ passage.sound (passage.present present)).start passage

/-- A behaviour is registered for its entity. -/
theorem registerBehaviour_passes (script name : String) (hooks : BehaviourHooks Operation) (entity : Entity) :
    Passes host [] origin world (Perform.registerBehaviour call place script name hooks entity) := by
  apply ((behaviourHooks_idle name hooks).passes passage).bind
  intro logic hooked passage
  apply registered_passes
  exact (register_passes careful _ passage.sound (passage.present present)).start passage

/-- The scene is bound from outside. -/
theorem bindScene_passes : Passes host [] origin world (Perform.bindAll call place) := by
  apply ((idle_plain (Run.plain_runtime? place)).passes passage).bind
  intro runtime seen passage
  cases runtime with
  | none => exact answer_passes (bindAll_passes careful present passage) _
  | some runtime =>
      dsimp only
      split
      · exact passes_pure passage _
      · apply answer_passes
        exact whileUsing_passes careful present passage fun used _ passage =>
          bindAll_passes careful present passage

/-- The scene is purged and bound again. -/
theorem reloaded_passes (runtime : Runtime) :
    Passes host [] origin world (Perform.reloadScene call place runtime) := by
  unfold Perform.reloadScene
  split
  · exact passes_pure passage _
  · apply answer_passes
    exact whileUsing_passes careful present passage fun used _ passage =>
      reloadScene_passes careful present passage

/-- A runtime that has not been started gets its listener. -/
theorem startRuntime_passes (runtime : Runtime)
    (reached : engagement world place = some (runtime.state, runtime.listener)) :
    Passes host [] origin world (Perform.startRuntime call place runtime) := by
  unfold Perform.startRuntime
  cases created : runtime.state with
  | shutDown => exact passes_pure passage _
  | running => exact passes_pure passage _
  | created =>
      rw [created] at reached
      dsimp only
      apply (whileUsing_passes careful present passage _).bind
      · exact fun _ after passage => passes_pure passage _
      · intro used rests passage
        exact initialize_passes careful present (rests.runtime.trans reached) passage

/-- A runtime is shut down while it is in use. -/
theorem stopRuntime_passes (runtime : Runtime)
    (reached : engagement world place = some (runtime.state, runtime.listener)) :
    Passes host [] origin world (Lifecycle.whileUsing call place (Lifecycle.shutDown call place runtime)) := by
  apply whileUsing_passes careful present passage
  intro used rests passage
  exact shutDown_passes careful present (rests.runtime.trans reached) passage

end Commands

/-- Hosts may be given names as long as they are there. -/
theorem idles_named {hosts : List (String × Nat)}
    (within : Housed world → ∀ entry ∈ hosts, entry.2 < world.hosts.length) :
    Idles host world { world with names := { world.names with hosts } } where
  hosts := Nat.le_refl _
  outline := rfl
  housed housed := ⟨housed.core, within housed, housed.listeners⟩
  tuned tuned := ⟨tuned.apart, tuned.once, tuned.known, tuned.shut⟩
  journal := ⟨[], rfl, by simp⟩

/-- A runtime claims a host that has none. -/
theorem newRuntime_passes (careful : Careful host call) (name : String) (settings : Option Json.Form)
    (base : File.Pathname) (factories : List (Factory Operation))
    (passage : Passage host [] True origin world) :
    Passes host [] origin world (Perform.newRuntime call name settings base factories) := by
  unfold Perform.newRuntime
  split
  · exact passes_pure passage _
  · next config _ =>
      unfold Passes
      rw [Run.ends_bind]
      apply Run.Ends.mono (create_idles config factories world)
      intro result created ends
      obtain ⟨idles, within⟩ := ends
      have passage := passage.idle idles
      rcases result with raised | _ | id
      · exact passage.weaken fun _ => trivial
      · exact passes_pure passage _
      · rw [Run.followed_ok]
        dsimp only
        rw [Run.ends_bind, Run.ends_get, Run.followed_ok]
        have naming : Idles host created ((Run.nameHost name id).run.run created).2 := by
          apply idles_named
          intro housed entry member
          rcases List.mem_cons.mp member with new | old
          · rw [new]
            exact within id rfl
          · exact housed.named entry (List.mem_filter.mp old).1
        apply Passes.start _ passage
        apply (passes_idles naming (.refl passage.sound)).bind
        intro _ named renamed
        split
        · next former found =>
            apply (forget_passes careful (passage.sound.housed.lookup found) renamed).bind
            exact fun _ after passage => passes_pure passage _
        · exact passes_pure renamed _

/-- A runtime that is dropped is shut down first. -/
theorem dropRuntime_passes (careful : Careful host call) (name : String)
    (passage : Passage host [] True origin world) :
    Passes host [] origin world (Perform.dropRuntime call name) := by
  unfold Passes Perform.dropRuntime
  rw [Run.ends_bind, Run.ends_get, Run.followed_ok]
  split
  · exact passes_pure passage _
  · next place found =>
      have there := passage.sound.housed.lookup found
      have forgetting : Idles host world ((Run.forgetHost name).run.run world).2 := by
        apply idles_named
        exact fun housed entry member => housed.named entry (List.mem_filter.mp member).1
      apply Passes.start _ passage
      apply (passes_idles forgetting (.refl passage.sound)).bind
      intro _ forgotten passage
      apply (forget_passes careful there passage).bind
      exact fun _ after passage => passes_pure passage _

/-- The settings of the binder are no matter of any host. -/
theorem setBinder_idle (factories : List (Factory Operation)) (cap : Option Nat) :
    Idle host (Perform.setBinder factories cap) := by
  apply (addFactories_idle 0 factories).bind
  intro chain
  apply Idle.bind
  · exact idle_modifyHost 0 fun _ => ⟨rfl, .refl _, rfl⟩
  · exact fun _ => idle_pure _

/-- The factories are asked without anything being bound. -/
theorem askFactories_passes (careful : Careful host call) (script : String)
    (passage : Passage host [] True origin world) :
    Passes host [] origin world (Perform.askFactories call script) := by
  apply ((idle_host 0).passes passage).bind
  intro state after passage
  apply (askChain_passes careful script _ passage).bind
  exact fun logic after passage => passes_pure passage _

/-- A command keeps what every run has to keep. -/
theorem operate_passes (careful : Careful host call) (name : String) (operation : Operation)
    (present : place < origin.hosts.length) (passage : Passage host [] True origin world) :
    Passes host [] origin world (Perform.operate call name place operation) := by
  have inside := passage.present present
  have plainly : operation.stirs = false →
      Passes host [] origin world (Perform.operate call name place operation) :=
    fun calm => (idle_plain (Perform.operate_plain call name place calm)).passes passage
  cases operation with
  | subscribe kind label hook => exact (subscribe_idle kind label hook).passes passage
  | subscribeRaw event label hook => exact (subscribeRaw_named event label hook).passes passage
  | unsubscribe event handle =>
      exact withHandle_passes handle subscription? passage fun id =>
        (answer_idle (unsubscribe_idle event id) _).passes passage
  | subscribers event => exact (idle_looking fun _ => .refl _).passes passage
  | dropped => exact (idle_looking fun _ => .refl _).passes passage
  | publish event => exact answer_passes (dispatch_passes careful event.name event.encode passage) _
  | publishRaw event payload => exact answer_passes (dispatch_passes careful event payload passage) _
  | hookTicks =>
      exact answer_passes (passes_idles (Rested.idles (hookTicks_rests world)) passage) _
  | unhookTicks =>
      exact answer_passes (passes_idles (Rested.idles (unhookTicks_rests world)) passage) _
  | ticksHooked => exact ((idle_host place).bind fun _ => idle_pure _).passes passage
  | addListener label hook =>
      apply ((hooked_idle label hook).passes passage).bind
      intro hooked after passage
      exact addListener_passes label passage (passage.present present) (by simp) (by simp)
  | removeListener handle =>
      exact withHandle_passes handle listener? passage fun id =>
        (answer_idle (dismiss_idle id) _).passes passage
  | listeners => exact ((idle_host place).bind fun _ => idle_pure _).passes passage
  | clock => exact ((idle_host place).bind fun _ => idle_pure _).passes passage
  | driveScheduler label =>
      apply addListener_passes label passage inside (by simp)
      intro target name same
      cases same
      exact inside
  | registerSystem kind label hooks => exact registerSystem_passes careful present passage kind label hooks
  | registerBehaviour entity script label hooks =>
      exact withEntity_passes entity passage fun entity =>
        registerBehaviour_passes careful present passage script label hooks entity
  | unregister handle =>
      exact withHandle_passes handle receiver? passage fun receiver =>
        answer_passes ((unregister_passes careful passage.sound inside).start passage) _
  | isRegistered handle =>
      exact withHandle_passes handle receiver? passage fun receiver =>
        looked_passes passage fun _ => idle_pure _
  | behaviour handle =>
      refine withHandle_passes handle receiver? passage fun receiver => looked_passes passage fun registry => ?_
      split <;> exact idle_pure _
  | slot handle =>
      exact withHandle_passes handle receiver? passage fun receiver =>
        ((idle_host receiver.1).bind fun _ => idle_pure _).passes passage
  | hasBinding entity script =>
      exact withEntity_passes entity passage fun entity => looked_passes passage fun _ => idle_pure _
  | bindings => exact looked_passes passage fun _ => idle_pure _
  | systems => exact looked_passes passage fun _ => idle_pure _
  | counts =>
      exact looked_passes passage fun _ => (idle_plain (Run.plain_runtime? place)).bind fun _ => idle_pure _
  | purgeBehaviours =>
      exact answer_passes ((removeWhere_passes careful _ passage.sound inside).start passage) _
  | purgeEntity entity =>
      exact withEntity_passes entity passage fun entity =>
        answer_passes ((removeWhere_passes careful _ passage.sound inside).start passage) _
  | shutDownScheduler =>
      exact answer_passes ((removeWhere_passes careful _ passage.sound inside).start passage) _
  | tick signal =>
      have ticking : Passes host [] origin world (do
          Run.note (.tickCommanded place signal)
          return .ticked (← Scheduler.tick call place signal) : Run Answer) := by
        unfold Passes
        rw [Run.ends_bind, Run.ends_note, Run.followed_ok]
        exact answer_passes (commanded_passes careful signal passage inside) _
      exact ticking
  | setBinder factories cap => exact (setBinder_idle factories cap).passes passage
  | factory script => exact askFactories_passes careful script passage
  | bindAll => exact bindScene_passes careful present passage
  | newRuntime settings base factories => exact newRuntime_passes careful name settings base factories passage
  | dropRuntime => exact dropRuntime_passes careful name passage
  | startRuntime =>
      exact withRuntime_passes name passage fun place runtime present reached =>
        startRuntime_passes careful present (.refl passage.sound) runtime reached
  | shutDownRuntime =>
      exact withRuntime_passes name passage fun place runtime present reached =>
        answer_passes (stopRuntime_passes careful present (.refl passage.sound) runtime reached) _
  | reloadScene =>
      exact withRuntime_passes name passage fun place runtime present reached =>
        reloaded_passes careful present (.refl passage.sound) runtime
  | _ => exact plainly rfl

/-- Whatever is commanded passes, if hooks and factories do. -/
theorem perform_passes (careful : Careful host call) (command : Command Operation)
    (passage : Passage host [] True origin world) :
    Passes host [] origin world (Perform.perform call command) := by
  unfold Passes Perform.perform
  rw [Run.ends_bind, Run.ends_hostNamed, Run.followed_ok]
  have there : (world.names.hosts.lookup command.host).getD 0 < world.hosts.length := by
    cases found : world.names.hosts.lookup command.host with
    | none => exact passage.sound.housed.core
    | some place => exact passage.sound.housed.lookup found
  exact (operate_passes careful command.host command.operation there (.refl passage.sound)).start passage

/-- Commands pass one after the other, up to the first that fails. -/
theorem performAll_passes (careful : Careful host call) (commands : List (Command Operation))
    (passage : Passage host [] True origin world) :
    Passes host [] origin world (Perform.performAll call commands) := by
  induction commands generalizing world with
  | nil => exact passes_pure passage ()
  | cons command rest ih =>
      apply (perform_passes careful command passage).bind
      intro answer performed passage
      have answered : Idle host (Run.note (.answered command.title answer)) := idle_note rfl
      apply (answered.passes passage).bind
      exact fun _ after passage => ih passage

/-- Counting the use of a hook does not count for any host. -/
theorem use_idle (hooked : Hooked) : Idle host (Run.use hooked) :=
  fun _ => idles_aside rfl rfl rfl

/-- A hook ends as it was told to. -/
theorem enact_passes (ending : Ending) (passage : Passage host [] True origin world) :
    Passes host [] origin world ending.enact := by
  cases ending with
  | normal => exact passes_pure passage ()
  | failure context message => exact passes_throw passage _
  | panic message => exact passes_throw passage _

/-- However deep hooks nest, they do what any run may do. -/
theorem caller_careful (host depth : Nat) : Careful host (caller depth) := by
  induction depth with
  | zero =>
      constructor
      · exact fun _ _ world sound => passes_throw (.refl sound) .exhausted
      · exact fun _ world sound => passes_throw (.refl sound) .exhausted
  | succ depth ih =>
      constructor
      · intro hooked arguments world sound
        apply ((idle_note rfl : Idle host _).passes (.refl sound)).bind
        intro _ called passage
        apply ((use_idle hooked).passes passage).bind
        intro calls used passage
        apply (performAll_passes ih _ passage).bind
        intro _ performed passage
        apply ((idle_note rfl : Idle host _).passes passage).bind
        exact fun _ after passage => enact_passes _ passage
      · exact fun commands world sound => performAll_passes ih commands (.refl sound)

end ScriptHost.Session.Shutdown

/-
This file takes runtimes from their creation to their end and surveys what becomes of the context.
-/
import ScriptHost.Proofs.Shutdown.Runtimes
import ScriptHost.Proofs.Tenure.Leading
import ScriptHost.Proofs.Tenure.Stages

namespace ScriptHost.Session.Tenure

open Shutdown (Sure sure_returns sure_pure)

variable {seen : Survey} {world : World} {stage : Stage} {place depth : Nat} {α : Type} {good : World → Prop}

section Sure

/-- Reloading units returns. -/
theorem reloadUnits_sure (cache : Script.UnitCache) (keep : Script.UnitCache → Runtime → Runtime) :
    Sure (Watching.reloadUnits place cache keep) := by
  apply (sure_returns fun _ => ⟨_, rfl⟩ : Sure (get : Run World)).bind
  intro world
  apply (sure_returns fun _ => ⟨_, rfl⟩ : Sure (Run.reportAll _)).bind
  intro _
  apply (sure_returns fun _ => ⟨_, rfl⟩ : Sure (Run.modifyRuntime place _)).bind
  intro _
  split <;> exact sure_pure _

/-- Reloading content returns. -/
theorem reloadContent_sure (runtime : Runtime) (kind : Content.Kind) :
    Sure (Watching.reloadContent place runtime kind) := by
  apply (sure_returns fun _ => ⟨_, rfl⟩ : Sure (get : Run World)).bind
  intro world
  apply (sure_returns fun _ => ⟨_, rfl⟩ : Sure (Run.outside place _)).bind
  intro loaded
  exact (sure_returns fun _ => ⟨_, rfl⟩ : Sure (Run.modifyRuntime place _)).bind fun _ => sure_pure _

/-- Reloading a root returns. -/
theorem reloadRoot_sure (runtime : Runtime) (kind : File.RootKind) :
    Sure (Watching.reloadRoot place runtime kind) := by
  unfold Watching.reloadRoot
  cases kind with
  | scripts => exact reloadUnits_sure _ _
  | behaviours => exact reloadUnits_sure _ _
  | quests => exact (reloadContent_sure runtime .quest).bind fun _ => sure_pure _
  | encounters => exact (reloadContent_sure runtime .encounter).bind fun _ => sure_pure _

/-- Loading all roots returns. -/
theorem loadRoots_sure (kinds : List File.RootKind) : Sure (Lifecycle.loadRoots place kinds) := by
  induction kinds with
  | nil => exact sure_pure ()
  | cons kind rest ih =>
      apply (sure_returns fun _ => ⟨_, rfl⟩ : Sure (Run.runtime? place)).bind
      intro runtime
      cases runtime with
      | none => exact sure_pure ()
      | some runtime =>
          apply (reloadRoot_sure runtime kind).bind
          intro failed
          cases failed with
          | none => exact ih
          | some error => exact (sure_returns fun _ => ⟨_, rfl⟩ : Sure (Run.report _)).bind fun _ => ih

/-- Hooking the ticks returns. -/
theorem hookTicks_sure : Sure (Events.hookTicks place) := by
  apply (sure_returns fun _ => ⟨_, rfl⟩ : Sure (Run.host place)).bind
  intro state
  split
  · exact sure_pure false
  · exact sure_returns fun _ => ⟨_, rfl⟩

end Sure

/-- A host that changes keeps its receivers. -/
theorem Shows.put (holds : Shows seen world) (present : place < seen.length) {state : Host}
    {change : Standing → Standing} (changed : standing state = change (standing (world.hostOf place)))
    (registry : state.registry = world.registryOf place) (source : WithinSource .quiet state.source) :
    Shows (seen.alter place change) (world.putHost place state) where
  within := holds.within.putHost place state (registry ▸ holds.within.receivers place) source
  same := by
    rw [survey_putHost (holds.length_eq ▸ present) changed, holds.same]

/-- A survey shows the subscribers of the bridge that is put in place. -/
theorem Shows.rebridge (holds : Shows seen world) {bridge : Event.Bridge Handler}
    (within : WithinBridge .quiet bridge) :
    Shows { seen with heard := bridge.typed.under .logicTick } (world.rebridge bridge) := by
  refine ⟨holds.within.rebridge within, ?_⟩
  rw [← holds.same]
  rfl

/-- Whether or not it was there, the subscription is gone. -/
theorem unsubscribe_heard (bridge : Event.Bridge Handler) (id : Nat) :
    (bridge.unsubscribe Event.Kind.logicTick.name id).1.typed.under .logicTick =
      (bridge.typed.under .logicTick).filter fun subscription => subscription.id != id := by
  have raw : (bridge.unsubscribeRaw Event.Kind.logicTick.name id).1.typed = bridge.typed := by
    unfold Event.Bridge.unsubscribeRaw
    split <;> rfl
  unfold Event.Bridge.unsubscribe
  rw [Event.Kind.ofName?_name]
  dsimp only
  split
  · exact (Event.Table.under_erase _ _ _ _).trans (if_pos rfl)
  · next absent =>
      rw [raw, List.filter_eq_self.mpr]
      intro subscription member
      rw [bne_iff_ne]
      rintro rfl
      exact absent (List.any_eq_true.mpr ⟨subscription, member, beq_self_eq_true _⟩)

/-- A source that has no subscription gets one, behind all others. -/
theorem hookTicks_leads (holds : Shows seen world) (present : place < seen.length)
    (silent : (seen.standing place).subscription = none) :
    Leads (fun after => ∃ id, Shows (seen.hooked place id) after) (Events.hookTicks place) world := by
  have unhooked : (world.hostOf place).source.subscription = none :=
    (congrArg Standing.subscription (holds.standing_eq place)).trans silent
  have allowed : Handler.Within .quiet (.source place) := trivial
  have subscribed := holds.rebridge (holds.within.bridge.subscribe .logicTick allowed)
  have heard : (world.bridge.subscribe .logicTick (Handler.source place)).1.typed.under .logicTick =
      seen.heard ++ [⟨world.bridge.next, .source place⟩] := by
    rw [← holds.heard_eq]
    exact (Event.Table.under_add _ _ _ _).trans (if_pos rfl)
  rw [heard] at subscribed
  unfold Events.hookTicks
  refine leads_host ?_
  rw [unhooked]
  refine fun _ => ⟨world.bridge.next, ?_⟩
  exact subscribed.put present rfl rfl (subscribed.within.sources place)

/-- A source that has a subscription gives it up. -/
theorem unhookTicks_leads (holds : Shows seen world) (present : place < seen.length) :
    Leads (Shows (seen.unhooked place)) (Events.unhookTicks place) world := by
  have same : (world.hostOf place).source.subscription = (seen.standing place).subscription :=
    congrArg Standing.subscription (holds.standing_eq place)
  unfold Events.unhookTicks
  refine leads_host ?_
  rw [same]
  cases hooked : (seen.standing place).subscription with
  | none =>
      rw [Survey.unhooked_silent seen place hooked]
      exact leads_pure holds
  | some id =>
      have quiet : Shows (seen.alter place .unhooked) (world.putHost place { world.hostOf place with
          source := { (world.hostOf place).source with subscription := none } }) :=
        holds.put present rfl rfl (holds.within.sources place)
      have gone := quiet.rebridge (quiet.within.bridge.unsubscribe Event.Kind.logicTick.name id)
      rw [unsubscribe_heard, quiet.heard_eq] at gone
      refine leads_modifyHost ?_
      refine fun _ => ?_
      rw [Survey.unhooked, hooked]
      exact gone

/-- A runtime that stands in the survey is found in the world. -/
theorem Shows.runtime (holds : Shows seen world) {state : RuntimeState} {listener : Option Nat}
    (engaged : (seen.standing place).engaged = some (state, listener)) :
    ∃ runtime, (world.hostOf place).runtime = some runtime ∧
      runtime.state = state ∧ runtime.listener = listener := by
  have same : Shutdown.engaged (world.hostOf place) = some (state, listener) :=
    (congrArg Standing.engaged (holds.standing_eq place)).trans engaged
  obtain ⟨runtime, found, equal⟩ := Option.map_eq_some_iff.mp same
  exact ⟨runtime, found, congrArg Prod.fst equal, congrArg Prod.snd equal⟩

/-- From now on the runtime is driven by a listener of its own. -/
theorem Shows.driven (holds : Shows seen world) (present : place < seen.length) :
    Shows (seen.alter place (.driven place ((world.hostOf place).source.count + 1)))
      (world.putHost place (Shutdown.driven place (world.hostOf place))) := by
  have allowed : Listener.Within .quiet (.scheduler place none) := trivial
  refine holds.put present ?_ rfl ((holds.within.sources place).listen allowed)
  unfold standing Shutdown.engaged Shutdown.driven
  cases (world.hostOf place).runtime <;> rfl

/-- The first pass of a runtime changes nothing more that counts. -/
theorem firstPass_leads (holds : Shows seen world) (present : place < seen.length) :
    Leads (Shows (seen.alter place (.reached .running))) (do
      Lifecycle.setState place .running
      match ← Binding.bindAll (caller depth) place with
      | .ok _ => return ()
      | .error error => Run.report (Lifecycle.bindRecord error)) world := by
  have running : Shows (seen.alter place (.reached .running)) (world.putHost place { world.hostOf place with
      runtime := (world.hostOf place).runtime.map fun runtime => { runtime with state := .running } }) := by
    refine holds.put present ?_ rfl (holds.within.sources place)
    unfold standing Shutdown.engaged
    cases (world.hostOf place).runtime <;> rfl
  refine leads_modifyHost ?_
  refine leads_keeping (Run.Agrees.bind ?_ ?_) running
  · exact Binding.bindAll_agrees (caller_heeding depth) (shows_heeds _) (shows_bindable _)
  · intro bound
    cases bound with
    | ok report => exact Run.agrees_pure _
    | error error => exact (shows_heeds _).agrees_report _

/-- A runtime that is created starts, and its host hears of ticks. -/
theorem start_leads (holds : Shows seen world) (present : place < seen.length)
    (created : (seen.standing place).engaged = some (.created, none))
    (silent : (seen.standing place).subscription = none) :
    Leads (fun after => ∃ subscription listener, Shows (seen.started place subscription listener) after)
      (Lifecycle.start (caller depth) place) world := by
  have loading : Leads (Shows seen) (Lifecycle.loadRoots place File.RootKind.all) world :=
    leads_keeping ((shows_heeds seen).calm rfl (Lifecycle.loadRoots_plain place _)) holds
  refine loading.followed (loadRoots_sure _) ?_
  intro _ loaded holds
  refine (hookTicks_leads holds present silent).discard.followed hookTicks_sure.discard ?_
  rintro _ hooked ⟨subscription, holds⟩
  have present : place < (seen.hooked place subscription).length := present
  have driving := holds.driven present
  have waiting : (((seen.hooked place subscription).alter place
      (.driven place ((hooked.hostOf place).source.count + 1))).standing place).engaged =
        some (.created, some ((hooked.hostOf place).source.count + 1)) := by
    simp [Survey.hooked, Survey.alter, Standing.hooked, Standing.driven, created]
  obtain ⟨former, found, -⟩ := driving.runtime waiting
  unfold Leads
  rw [Shutdown.ends_driven (holds.length_eq ▸ present), Run.ends_bind, Run.ends_runtime?, Run.followed_ok]
  split
  · next absent => cases absent.symm.trans found
  · next runtime _ =>
      dsimp only
      split
      · have watching : Leads _ (Watching.begin place runtime) _ :=
          leads_keeping ((shows_heeds _).calm rfl (Watching.begin_plain place runtime)) driving
        refine watching.followed (sure_returns fun _ => ⟨(), rfl⟩) ?_
        intro _ begun holds
        exact (firstPass_leads holds present).mono fun after holds => ⟨subscription, _, holds⟩
      · exact (firstPass_leads driving present).mono fun after holds => ⟨subscription, _, holds⟩

/-- A runtime that is released has quit. -/
theorem standing_released {state : Host} {reached : RuntimeState} {listener : Option Nat}
    (engaged : (standing state).engaged = some (reached, listener)) :
    standing (Shutdown.released listener state) = (standing state).quit := by
  obtain ⟨runtime, found, -⟩ := Option.map_eq_some_iff.mp (show Shutdown.engaged state = _ from engaged)
  unfold Standing.quit
  rw [engaged]
  unfold standing Shutdown.engaged Shutdown.released
  rw [found]
  cases listener <;> rfl

/-- Whoever listens to a released runtime still is quiet. -/
theorem within_released {state : Host} (listener : Option Nat) (within : WithinSource .quiet state.source) :
    WithinSource .quiet (Shutdown.released listener state).source := by
  cases listener with
  | none => exact within
  | some id => exact within.dismiss id

/-- A runtime that is shut down gives the context up. -/
theorem shutDown_leads (holds : Shows seen world) (present : place < seen.length) {runtime : Runtime}
    (engaged : (seen.standing place).engaged = some (runtime.state, runtime.listener))
    (live : runtime.state ≠ .shutDown) :
    Leads (Shows (seen.stopped place)) (Lifecycle.shutDown (caller depth) place runtime) world := by
  have reached : (standing (world.hostOf place)).engaged = some (runtime.state, runtime.listener) :=
    (congrArg Standing.engaged (holds.standing_eq place)).trans engaged
  have released : Shows (seen.alter place .quit)
      (world.putHost place (Shutdown.released runtime.listener (world.hostOf place))) :=
    holds.put present (standing_released reached) rfl (within_released _ (holds.within.sources place))
  have present : place < (seen.alter place .quit).length := present
  unfold Leads
  rw [Shutdown.ends_released (caller depth) (holds.length_eq ▸ present) live]
  refine (unhookTicks_leads released present).discard.followed Shutdown.unhookTicks_sure.discard ?_
  intro _ unhooked holds
  have closing : (discard (Scheduler.shutDown (caller depth) place)).Agrees
      (Diagonal (Shows ((seen.alter place .quit).unhooked place))) :=
    (Scheduler.removeWhere_agrees (caller_heeding depth) (shows_heeds _) _).discard
  refine leads_modifyHost (leads_note ?_)
  refine (leads_keeping closing ?_).followed (Shutdown.removeWhere_sure _).discard ?_
  · refine Shows.note ?_ rfl
    refine holds.kept ?_ (holds.within.putHost place _ (holds.within.receivers place) (holds.within.sources place))
    unfold standing Shutdown.engaged
    cases (unhooked.hostOf place).runtime <;> rfl
  · intro _ after holds
    refine leads_modify (leads_pure ?_)
    exact ⟨⟨holds.within.receivers, holds.within.bridge, holds.within.sources, holds.within.factories⟩, by
      rw [Survey.stopped, ← holds.same]; rfl⟩

/-- A host is used as if it were not, as long as it keeps its name. -/
theorem whileUsing_leads {body : Run α} (reached : Survey → Prop) (holds : Shows seen world)
    (present : place < seen.length)
    (kept : ∀ later, reached later → place < later.length ∧ (later.standing place).named = true)
    (inner : ∀ used, Shows (seen.alter place .used) used →
      Leads (fun after => ∃ later, reached later ∧ Shows (later.alter place .used) after) body used) :
    Leads (fun after => ∃ later, reached later ∧ Shows later after)
      (Lifecycle.whileUsing (caller depth) place body) world := by
  have counting : Shows (seen.alter place .used)
      (world.putHost place { world.hostOf place with users := (world.hostOf place).users + 1 }) :=
    holds.put present rfl rfl (holds.within.sources place)
  refine leads_modifyHost ((inner _ counting).afterwards ?_ ?_)
  · exact (sure_returns fun _ => ⟨_, rfl⟩ : Sure (Run.modifyHost place _)).bind fun _ => Shutdown.free_sure
  · rintro after ⟨later, reached, holds⟩
    obtain ⟨present, named⟩ := kept later reached
    have idle : Shows later
        (after.putHost place { after.hostOf place with users := (after.hostOf place).users - 1 }) := by
      have put : Shows ((later.alter place .used).alter place .unused)
          (after.putHost place { after.hostOf place with users := (after.hostOf place).users - 1 }) :=
        holds.put present rfl rfl (holds.within.sources place)
      rwa [Survey.unused_used] at put
    refine leads_modifyHost (leads_run (Lifecycle.free_named ?_) ⟨later, reached, idle⟩)
    exact (congrArg Standing.named (idle.standing_eq place)).trans named

/-- A runtime that was shut down before is not shut down again. -/
theorem shutDown_again (call : Caller) {runtime : Runtime} (shut : runtime.state = .shutDown) :
    (Lifecycle.shutDown call place runtime).run.run world = (.ok false, world) := by
  unfold Lifecycle.shutDown
  rw [if_pos shut]
  rfl

/-- A host that has lost its name is freed, and the context with it if it was the holder. -/
theorem free_leads (holds : Shows seen world) (stands : Stands stage seen) (present : place < seen.length)
    (unnamed : (seen.standing place).named = false) :
    Leads (fun after => ∃ later, Shows later after ∧ Stands (stage.without place) later ∧ later.ticks = seen.ticks)
      (Lifecycle.free (caller depth) place) world := by
  have same := holds.standing_eq place
  have clear : ∀ {later after}, Shows later after → Stands (stage.without place) later → place < later.length →
      (stage.without place).holder? ≠ some place → later.ticks = seen.ticks →
        Leads (fun after => ∃ later, Shows later after ∧ Stands (stage.without place) later ∧
          later.ticks = seen.ticks) (Run.modifyHost place fun host => { host with freed := true }) after := by
    intro later after holds stands present other ticks
    have put : Shows (later.alter place .cleared)
        (after.putHost place { after.hostOf place with freed := true }) :=
      holds.put present rfl rfl (holds.within.sources place)
    exact fun _ => ⟨_, put, stands.cleared other, ticks⟩
  unfold Lifecycle.free
  refine leads_host ?_
  by_cases held : stage.holder? = some place
  · have one := stands.holds place held
    obtain ⟨state, listener, engaged, live⟩ := Stage.engaged_live held
    have engaged := one.engaged.trans engaged
    obtain ⟨runtime, found, rfl, rfl⟩ := holds.runtime engaged
    have idle : stage.without place = .idle := if_pos held
    have named : (world.hostOf place).named = false := (congrArg Standing.named same).trans unnamed
    have users : (world.hostOf place).users = 0 := (congrArg Standing.users same).trans (stands.unused place)
    have freed : (world.hostOf place).freed = false := (congrArg Standing.freed same).trans one.kept
    rw [found, if_pos ⟨by simp [named], users, by simp [freed]⟩]
    refine (shutDown_leads holds present engaged live).discard.followed (Shutdown.shutDown_sure runtime).discard ?_
    intro _ after holds
    rw [idle] at clear ⊢
    exact clear holds (stands.stopped held) present nofun rfl
  · have stays : stage.without place = stage := if_neg held
    rw [stays] at clear ⊢
    split
    · cases found : (world.hostOf place).runtime with
      | none => exact clear holds stands present held rfl
      | some runtime =>
          have engaged : (seen.standing place).engaged = some (runtime.state, runtime.listener) := by
            rw [← same]
            exact congrArg (Option.map _) found
          have shut := stands.released place held _ _ engaged
          have again : (discard (Lifecycle.shutDown (caller depth) place runtime)).run.run world =
              (.ok (), world) := by
            rw [Stateful.run_discard, shutDown_again _ shut]
          exact Leads.step again (clear holds stands present held rfl)
    · exact leads_pure ⟨seen, holds, stands, rfl⟩

end ScriptHost.Session.Tenure

/-
This file opens a scene: its content is loaded, its scheduler is hooked to the ticks, and its entities are bound. All
this comes to its end, and so does a later pass of the binder.
-/
import ScriptHost.Proofs.Binding.Making
import ScriptHost.Proofs.Content.Loading
import ScriptHost.Proofs.Scene.Ticking
import ScriptHost.Proofs.Tenure.Commands

namespace ScriptHost.Session.Staging

variable {host : Nat} {setting : Setting} {held : Option Nat} {past : List String}
  {draws : Option Script.Draws} {world : World}
  {call : Caller} {entity : Entity} {script : String}

/-- Reading a key leaves the scene standing. -/
theorem readKey_carries (staged : Staged draws host setting held world) (key : String) :
    Carries host past draws world (Binding.readKey entity key) (Surely fun _ => Staged draws host setting held) := by
  have calm : world.engine.panicsOn key = none := by
    rw [Engine.panicsOn, staged.willing.calm, if_neg nofun]
  unfold Binding.readKey
  apply carries_get rfl
  dsimp only
  rw [calm]
  dsimp only
  split
  · exact carries_pure staged
  · exact (Reaches.report _).step (carries_pure (staged.note _))

/-- Reading names leaves the scene standing, whatever they are. -/
theorem readNames_carries (staged : Staged draws host setting held world) (key : String)
    (parse : String → Option (List String)) :
    Carries host past draws world (Binding.readNames entity key parse)
      (Surely fun _ => Staged draws host setting held) := by
  apply (readKey_carries staged key).then
  intro text after staged
  cases text with
  | none => exact carries_pure staged
  | some text =>
      dsimp only
      split
      · exact carries_pure staged
      · exact (Reaches.report _).step (carries_pure (staged.note _))

/-- Reading what an entity declares leaves the scene standing. -/
theorem declared_carries (staged : Staged draws host setting held world) :
    Carries host past draws world (Binding.declared entity) (Surely fun _ => Staged draws host setting held) := by
  apply (readNames_carries staged _ _).then
  intro record after staged
  cases record with
  | some names => exact carries_pure staged
  | none =>
      apply (readNames_carries staged _ _).then
      intro listed after staged
      cases listed <;> exact carries_pure staged

/-- Without factories, only the library makes behaviours. -/
theorem createSafely_carries (staged : Staged draws host setting held world) :
    Carries host past draws world (Binding.createSafely call host [] entity script) (Surely fun made after =>
      Staged draws host setting held after ∧ ∀ logic, made = some logic → ∃ unit subject,
        logic = .scripted unit subject ∧ Script.Spares (Script.Spared draws) unit.program.calls) := by
  rw [Binding.createSafely_eq]
  have made : Carries host past draws world (Binding.create call host [] script) (Surely fun made after =>
      Staged draws host setting held after ∧ ∀ logic, made = some logic → ∃ unit subject,
        logic = .scripted unit subject ∧ Script.Spares (Script.Spared draws) unit.program.calls) := by
    have asked : Reaches host past draws world (Binding.askChain call script []) none world := ⟨rfl, rfl⟩
    apply asked.step
    apply (Reaches.runtime? staged.present).step
    rw [staged.runtime]
    refine carries_pure ⟨staged, fun logic same => ?_⟩
    obtain ⟨unit, found, rfl⟩ := Option.map_eq_some_iff.mp same
    have listed : unit ∈ setting.runtime.behaviours.active.units := List.mem_of_find?_eq_some found
    exact ⟨unit, _, rfl, (staged.sparing .behaviours).units unit listed⟩
  exact made.unhandled

/-- A scripted behaviour that spares what it must may be registered. -/
theorem register_carries (staged : Staged draws host setting held world) {unit : Script.CompiledUnit}
    (whole : Script.Spares (Script.Spared draws) unit.program.calls) (subject : Script.Value) :
    Carries host past draws world (Scheduler.register call host (.behaviour entity script (.scripted unit subject)))
      (Surely fun _ => Staged draws host setting held) := by
  apply (Reaches.registry staged.present staged.unlocked).step
  split
  · have added : Staged draws host setting held (world.putRegistry host
        ((world.registryOf host).add (.behaviour entity script (.scripted unit subject))).1) := staged.add whole
    apply (Reaches.registry staged.present staged.unlocked).step
    apply (Reaches.setRegistry staged.present _).step
    apply (Reaches.note _).step
    exact carries_pure ((added.note _).note _)
  · exact (Reaches.note _).step (carries_pure (staged.note _))

/-- A name is bound or passed over. -/
theorem bindName_carries (staged : Staged draws host setting held world) (pass : Binding.Pass) :
    Carries host past draws world (Binding.bindName call host [] entity pass script)
      (Surely fun _ => Staged draws host setting held) := by
  unfold Binding.bindName
  split
  · exact carries_pure staged
  · apply (createSafely_carries staged).then
    rintro made after ⟨staged, scripted⟩
    cases made with
    | none => exact (Reaches.report _).step (carries_pure (staged.note _))
    | some logic =>
        obtain ⟨unit, subject, rfl, whole⟩ := scripted logic rfl
        apply (register_carries staged whole subject).then
        intro id after staged
        cases id <;> exact carries_pure staged

/-- The names of an entity are bound one after the other. -/
theorem bindNames_carries (staged : Staged draws host setting held world) (pass : Binding.Pass) (names : List String) :
    Carries host past draws world (Binding.bindNames call host [] entity pass names)
      (Surely fun _ => Staged draws host setting held) := by
  induction names generalizing pass world with
  | nil => exact carries_pure staged
  | cons name rest ih =>
      apply (bindName_carries staged pass).then
      exact fun pass _ staged => ih staged pass

/-- The entities of a pass are bound one after the other. -/
theorem bindEntities_carries (staged : Staged draws host setting held world) (pass : Binding.Pass)
    (entities : List Entity) : Carries host past draws world (Binding.bindEntities call host [] pass entities)
      (Surely fun _ => Staged draws host setting held) := by
  induction entities generalizing pass world with
  | nil => exact carries_pure staged
  | cons entity rest ih =>
      apply (declared_carries staged).then
      intro names after staged
      apply (bindNames_carries staged pass names).then
      exact fun pass _ staged => ih staged pass

/-- Receivers may be removed, and their scripts are disposed of. -/
theorem removeWhere_carries (staged : Staged draws host setting held world) (choose : Receiver → Bool) :
    Carries host past draws world (Scheduler.removeWhere call host choose)
      (Surely fun _ => Staged draws host setting held) := by
  apply (Reaches.registry staged.present staged.unlocked).step
  apply (Reaches.setRegistry staged.present _).step
  have taken : Staged draws host setting held
      (world.putRegistry host ((world.registryOf host).take choose).1) :=
    staged.putRegistry staged.unlocked staged.scripted staged.quiet
  apply (retireAll_carries (taken.note _) _).then
  intro _ after staged
  exact (Reaches.note _).step (carries_pure (staged.note _))

/-- Behaviours of entities that are gone are removed. -/
theorem prune_carries (staged : Staged draws host setting held world) (entities : List Entity) (pruned : Nat) :
    Carries host past draws world (Binding.prune call host entities pruned)
      (Surely fun _ => Staged draws host setting held) := by
  induction entities generalizing pruned world with
  | nil => exact carries_pure staged
  | cons entity rest ih =>
      apply (removeWhere_carries staged _).then
      exact fun _ _ staged => ih staged _

/-- A pass comes to its end. -/
theorem pass_carries (staged : Staged draws host setting held world) (cap : Nat) (entities : List Entity) :
    Carries host past draws world (Binding.pass call host [] cap entities)
      (Surely fun _ => Staged draws host setting held) := by
  apply (Reaches.registry staged.present staged.unlocked).step
  apply (bindEntities_carries staged _ entities).then
  intro pass after staged
  split
  · exact (Reaches.report _).step (carries_pure (staged.note _))
  · apply (prune_carries staged _ _).then
    exact fun _ _ staged => carries_pure staged

/-- Such a binder has no factories, and it is not in the middle of a pass. -/
structure Plain (binder : Binder) : Prop where
  chain : binder.factories = []
  idle : binder.busy = false

/-- Only the busy mark of the binder changes. -/
theorem setBusy_carries (staged : Staged draws host setting held world) (busy : Bool) :
    Carries host past draws world (Binding.setBusy host busy) (Surely fun _ =>
      Staged draws host { setting with binder := { setting.binder with busy } } held) := by
  apply (Reaches.modifyHost staged.present fun _ => rfl).carries
  have binder : { (world.hostOf host).binder with busy } = { setting.binder with busy } := by rw [staged.binder]
  exact staged.putHost staged.listening staged.runtime binder staged.unlocked staged.scripted staged.sparing
    staged.quiet

/-- A pass of the binder ends, and the binder is as before. -/
theorem bindAll_carries (staged : Staged draws host setting held world) (plain : Plain setting.binder) :
    Carries host past draws world (Binding.bindAll call host) (Surely fun result after =>
      (∃ report, result = .ok report) ∧ Staged draws host setting held after) := by
  have lists : world.engine.liveEntities setting.binder.cap = .ok (world.engine.store.live setting.binder.cap) := by
    rw [Engine.liveEntities, staged.willing.lists]
  unfold Binding.bindAll
  apply carries_host staged.present rfl
  dsimp only
  rw [staged.binder, plain.idle, plain.chain]
  apply carries_get rfl
  rw [lists]
  apply (setBusy_carries staged true).then
  intro _ after begun
  have passed : Carries host past draws after (Run.afterwards
      (Binding.pass call host [] setting.binder.cap (world.engine.store.live setting.binder.cap))
      (Binding.setBusy host false)) (Surely fun _ => Staged draws host setting held) := by
    apply (pass_carries begun _ _).afterwards
    intro report after staged
    have same : { setting with binder := { setting.binder with busy := false } } = setting := by
      rw [← plain.idle]
    have freed : Carries host past draws _ (Binding.setBusy host false) _ := setBusy_carries staged false
    exact same ▸ freed
  apply passed.then
  exact fun report _ staged => carries_pure ⟨⟨report, rfl⟩, staged⟩

/-- Loading may change the runtime, and nothing else that a scene depends on. -/
def Opened (draws : Option Script.Draws) (host : Nat) (binder : Binder) (world : World) : Prop :=
  ∃ runtime, Staged draws host ⟨runtime, binder⟩ none world

variable {binder : Binder}

/-- An opened host is present. -/
theorem Opened.present (opened : Opened draws host binder world) : host < world.hosts.length :=
  opened.elim fun _ staged => staged.present

/-- A note leaves the host open. -/
theorem Opened.note (opened : Opened draws host binder world) (entry : Entry) :
    Opened draws host binder (world.note entry) := by
  obtain ⟨runtime, staged⟩ := opened
  exact ⟨runtime, staged.note entry⟩

/-- A change that keeps the caches sparing leaves the host open. -/
theorem modifyRuntime_carries (opened : Opened draws host binder world) {change : Runtime → Runtime}
    (sparing : ∀ runtime, Sparing draws world.tree runtime → Sparing draws world.tree (change runtime)) :
    Carries host past draws world (Run.modifyRuntime host change) (Surely fun _ => Opened draws host binder) := by
  obtain ⟨runtime, staged⟩ := opened
  apply (Reaches.modifyHost staged.present fun _ => rfl).carries
  have changed : (world.hostOf host).runtime.map change = some (change runtime) := by
    rw [staged.runtime, Option.map_some]
  exact ⟨change runtime,
    staged.putHost staged.listening changed staged.binder staged.unlocked staged.scripted
      (sparing runtime staged.sparing) staged.quiet⟩

/-- The cache of one kind is put in the place of the old one. -/
theorem reloadUnits_carries (opened : Opened draws host binder world) {cache : Script.UnitCache}
    (spared : cache.Sparing (Script.Spared draws) world.tree) {keep : Script.UnitCache → Runtime → Runtime}
    (kind : File.RootKind)
    (kept : ∀ cache runtime other, (keep cache runtime).cache other =
      if other = kind then cache else runtime.cache other) :
    Carries host past draws world (Watching.reloadUnits host cache keep)
      (Surely fun _ => Opened draws host binder) := by
  obtain ⟨runtime, staged⟩ := opened
  apply carries_get rfl
  apply (Reaches.reportAll _).step
  apply (modifyRuntime_carries ⟨runtime, staged.journal _⟩ ?_).then
  · intro _ after opened
    split <;> exact carries_pure opened
  · intro runtime sparing other
    rw [kept]
    by_cases same : other = kind
    · rw [if_pos same]
      exact spared.reload
    · rw [if_neg same]
      exact sparing other

/-- A content script loads the same definitions from a shifted outside. -/
theorem reload_trails {tree : File.Tree} {loader : Content.Loader}
    (spared : loader.cache.Sparing (Script.Spared draws) tree) {outside other : Script.Outside}
    (linked : Script.Trails past draws outside other) :
    ((loader.reload tree outside).1, (loader.reload tree outside).2.2) =
        ((loader.reload tree other).1, (loader.reload tree other).2.2) ∧
      Script.Trails past draws (loader.reload tree outside).2.1 (loader.reload tree other).2.1 := by
  obtain ⟨loaders, results, after⟩ := (Script.trails_blind past draws).reload spared linked
  exact ⟨Prod.ext loaders results, after⟩

/-- Content is loaded in the same way whatever is drawn elsewhere. -/
theorem reloadContent_carries (opened : Opened draws host binder world) {runtime : Runtime}
    (sparing : Sparing draws world.tree runtime) (kind : Content.Kind) :
    Carries host past draws world (Watching.reloadContent host runtime kind)
      (Surely fun _ => Opened draws host binder) := by
  obtain ⟨former, staged⟩ := opened
  have spared : (runtime.loader kind).cache.Sparing (Script.Spared draws) world.tree := by
    cases kind with
    | quest => exact sparing .quests
    | encounter => exact sparing .encounters
  have tree : (world.shifted host past draws).tree = world.tree := rfl
  have seen : Script.Trails past draws ⟨world.engine, world.draws, (world.hostOf host).log, []⟩
      (Script.Outside.shifted past draws ⟨world.engine, world.draws, (world.hostOf host).log, []⟩) :=
    ⟨rfl, staged.willing⟩
  have willing := (reload_trails spared seen).2.willing
  have renewed : ((runtime.loader kind).reload world.tree
      ⟨world.engine, world.draws, (world.hostOf host).log, []⟩).1.cache.Sparing (Script.Spared draws) world.tree := by
    rw [Content.Loader.reload_cache]
    exact spared.reload
  apply carries_get
  · rw [tree]
  · apply (Reaches.outside staged.present (reload_trails spared) staged.willing).step
    apply (modifyRuntime_carries ⟨former, staged.leave willing⟩ ?_).then
    · exact fun _ _ opened => carries_pure opened
    · intro runtime sparing other
      cases kind <;> cases other <;>
        first | exact renewed | exact sparing .scripts | exact sparing .behaviours | exact sparing .quests |
          exact sparing .encounters

/-- A root of any kind may be loaded. -/
theorem reloadRoot_carries (opened : Opened draws host binder world) {runtime : Runtime}
    (sparing : Sparing draws world.tree runtime) (kind : File.RootKind) :
    Carries host past draws world (Watching.reloadRoot host runtime kind)
      (Surely fun _ => Opened draws host binder) := by
  unfold Watching.reloadRoot
  cases kind with
  | scripts =>
      exact reloadUnits_carries opened (sparing .scripts) .scripts fun _ _ other => by cases other <;> rfl
  | behaviours =>
      exact reloadUnits_carries opened (sparing .behaviours) .behaviours fun _ _ other => by cases other <;> rfl
  | quests => exact (reloadContent_carries opened sparing _).then fun _ _ opened => carries_pure opened
  | encounters => exact (reloadContent_carries opened sparing _).then fun _ _ opened => carries_pure opened

/-- All roots are loaded, and a root that fails is reported. -/
theorem loadRoots_carries (opened : Opened draws host binder world) (kinds : List File.RootKind) :
    Carries host past draws world (Lifecycle.loadRoots host kinds) (Surely fun _ => Opened draws host binder) := by
  induction kinds generalizing world with
  | nil => exact carries_pure opened
  | cons kind rest ih =>
      obtain ⟨runtime, staged⟩ := opened
      apply (Reaches.runtime? staged.present).step
      rw [staged.runtime]
      apply (reloadRoot_carries ⟨runtime, staged⟩ staged.sparing kind).then
      intro failed after opened
      cases failed with
      | none => exact ih opened
      | some error => exact (Reaches.report _).step (ih (opened.note _))

/-- The source of the host hears of ticks, and nobody else comes. -/
theorem subscribe_carries (opened : Opened draws host binder world) :
    Carries host past draws world (Events.subscribe .logicTick (.source host))
      (Surely fun _ => Opened draws host binder) := by
  obtain ⟨runtime, staged⟩ := opened
  apply carries_get rfl
  have bridged : ∀ bridge : Event.Bridge Handler,
      Reaches host past draws world (modify fun world => { world with bridge }) () { world with bridge } :=
    fun _ => ⟨rfl, rfl⟩
  apply (bridged _).step
  refine carries_pure ⟨runtime, staged.beside rfl rfl staged.willing fun subscription member => ?_⟩
  change subscription ∈ (world.bridge.typed.add .logicTick ⟨world.bridge.next, .source host⟩).under .logicTick
    at member
  rw [Event.Table.under_add, if_pos rfl] at member
  obtain old | new := List.mem_append.mp member
  · exact staged.heard subscription old
  · rw [List.mem_singleton.mp new]

/-- The source of the host is hooked to the ticks once. -/
theorem hookTicks_carries (opened : Opened draws host binder world) :
    Carries host past draws world (Events.hookTicks host) (Surely fun _ => Opened draws host binder) := by
  apply carries_host opened.present rfl
  dsimp only
  split
  · exact carries_pure opened
  · apply (subscribe_carries opened).then
    rintro id after ⟨runtime, staged⟩
    apply (Reaches.modifyHost staged.present fun _ => rfl).step
    exact carries_pure ⟨runtime, staged.putHost staged.listening staged.runtime staged.binder staged.unlocked
      staged.scripted staged.sparing staged.quiet⟩

/-- The scheduler listens to its own source. -/
theorem listen_carries (opened : Opened draws host binder world) :
    Carries host past draws world (Events.listen host (.scheduler host none))
      (Surely fun _ => Opened draws host binder) := by
  obtain ⟨runtime, staged⟩ := opened
  apply carries_host staged.present rfl
  apply (Reaches.modifyHost staged.present fun _ => rfl).step
  refine carries_pure ⟨runtime, staged.putHost ?_ staged.runtime staged.binder staged.unlocked
      staged.scripted staged.sparing staged.quiet⟩
  intro listening member
  obtain old | new := List.mem_append.mp member
  · exact staged.listening listening old
  · rw [List.mem_singleton.mp new]

/-- The watch may begin, whatever it finds. -/
theorem begin_carries (opened : Opened draws host binder world) (runtime : Runtime) :
    Carries host past draws world (Watching.begin host runtime) (Surely fun _ => Opened draws host binder) := by
  obtain ⟨former, staged⟩ := opened
  apply carries_get rfl
  exact (Reaches.reportAll _).step (modifyRuntime_carries ⟨former, staged.journal _⟩ fun _ sparing => sparing)

/-- A runtime starts, whatever becomes of its content. -/
theorem start_carries (opened : Opened draws host binder world) (plain : Plain binder) :
    Carries host past draws world (Lifecycle.start call host) (Surely fun _ => Opened draws host binder) := by
  -- The first pass does not fail, so what is done about a failed one does not matter.
  have binds : ∀ {world : World} {answer : Except NativeError BindReport → Run Unit}, Opened draws host binder world →
      (∀ report, answer (.ok report) = pure ()) → Carries host past draws world (do
        Lifecycle.setState host .running
        answer (← Binding.bindAll call host)) (Surely fun _ => Opened draws host binder) := by
    intro world answer opened succeeds
    have runs : Carries host past draws world (Lifecycle.setState host .running) _ :=
      modifyRuntime_carries opened fun _ sparing => sparing
    apply runs.then
    rintro _ after ⟨runtime, staged⟩
    apply (bindAll_carries staged plain).then
    rintro _ after ⟨⟨report, rfl⟩, staged⟩
    rw [succeeds]
    exact carries_pure ⟨runtime, staged⟩
  have hooks : ∀ {world : World}, Opened draws host binder world →
      Carries host past draws world (discard (Events.hookTicks host)) (Surely fun _ => Opened draws host binder) := by
    intro world opened
    apply (hookTicks_carries opened).then
    exact fun _ _ opened => carries_pure opened
  apply (loadRoots_carries opened _).then
  intro _ after opened
  apply (hooks opened).then
  intro _ after opened
  apply (listen_carries opened).then
  intro listener after opened
  have heeded : Carries host past draws after
      (Run.modifyRuntime host fun runtime => { runtime with listener := some listener }) _ :=
    modifyRuntime_carries opened fun _ sparing => sparing
  apply heeded.then
  rintro _ after ⟨runtime, staged⟩
  apply (Reaches.runtime? staged.present).step
  rw [staged.runtime]
  dsimp only
  split
  · apply (begin_carries ⟨runtime, staged⟩ _).then
    exact fun _ _ opened => binds opened fun _ => rfl
  · exact binds ⟨runtime, staged⟩ fun _ => rfl

end ScriptHost.Session.Staging

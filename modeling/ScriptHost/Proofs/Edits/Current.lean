/-
This file shows that after a reload of the scene every scripted behaviour runs the unit of the library.
-/
import ScriptHost.Proofs.Edits.Unseen

namespace ScriptHost.Session

/-- A scripted behaviour runs the unit that the library has under its name. -/
def Runs (library : Script.UnitCache) : Receiver → Prop
  | .behaviour _ script (.scripted unit _) => library.find? script = some unit
  | _ => True

/-- This holds of everything that is registered. -/
def UpToDate (library : Script.UnitCache) (registry : Registry) : Prop :=
  ∀ id ∈ registry.registered, ∀ slot, registry.slots[id]? = some slot → Runs library slot.receiver

variable {library : Script.UnitCache} {registry : Registry} {receiver other : Receiver}

/-- How far a behaviour has come does not change which unit it runs. -/
theorem Runs.bare (same : Binding.bare other = Binding.bare receiver) (runs : Runs library receiver) :
    Runs library other := by
  rcases receiver with ⟨kind, logic⟩ | ⟨entity, script, ⟨attach, start, update, dispose⟩ | ⟨unit, subject⟩⟩ <;>
    rcases other with ⟨kind', logic'⟩ | ⟨entity', script', ⟨attach', start', update', dispose'⟩ | ⟨unit', subject'⟩⟩ <;>
    cases same <;> exact runs

namespace UpToDate

/-- Behaviours stay up to date while no receiver comes. -/
theorem change {after : Registry} (current : UpToDate library registry) (alters : Alters registry after) :
    UpToDate library after := by
  intro id member slot found
  obtain ⟨former, held, same⟩ := alters.former found
  exact (current id (alters.registered member) former held).bare same

/-- A newcomer that runs a unit of the library is up to date. -/
theorem add (current : UpToDate library registry) (runs : Runs library receiver) :
    UpToDate library (registry.add receiver).1 := by
  intro id member slot found
  have held : (registry.slots ++ [⟨receiver, false, .live, false⟩])[id]? = some slot := found
  by_cases inside : id < registry.slots.length
  · rw [List.getElem?_append_left inside] at held
    obtain earlier | ⟨_ | ⟨_, ⟨⟩⟩⟩ := List.mem_append.mp member
    · exact current id earlier slot held
    · exact absurd inside (Nat.lt_irrefl _)
  · rw [List.getElem?_append_right (Nat.le_of_not_lt inside)] at held
    obtain rfl := List.mem_singleton.mp (List.mem_of_getElem? held)
    exact runs

/-- When all behaviours are gone, only systems are left. -/
theorem take (registry : Registry) :
    UpToDate library (registry.take fun receiver => receiver.binding?.isSome).1 := by
  intro id member slot found
  obtain ⟨-, spared⟩ := List.mem_filter.mp member
  have read : registry.receiver? id = some slot.receiver := congrArg (Option.map Schedule.Slot.receiver) found
  rcases receiver : slot.receiver with _ | _
  · trivial
  · rw [Schedule.Registry.chosen, read, receiver] at spared
    cases spared

end UpToDate

namespace Edits

open Shutdown (attempts)

variable {world : World} {host : Nat}

/-- The library stays, the host keeps its name, and what is registered there is up to date. -/
structure Fresh (host : Nat) (library : Script.UnitCache) (world : World) : Prop where
  within : WithinWorld .running world
  kept : (world.hostOf host).runtime.map Runtime.behaviours = some library
  named : (world.hostOf host).named = true
  current : UpToDate library (world.registryOf host)

/-- Whatever is registered with the host must run the unit of the library. -/
def Suits (host : Nat) (library : Script.UnitCache) (place : Nat) (receiver : Receiver) : Prop :=
  place = host → Runs library receiver

namespace Fresh

variable (fresh : Fresh host library world)

include fresh

/-- Other hosts may change, and this one as long as it stays up to date. -/
theorem putHost (place : Nat) (state : Host) (within : WithinWorld .running (world.putHost place state))
    (runtime : state.runtime = (world.hostOf place).runtime) (named : state.named = (world.hostOf place).named)
    (current : place = host → UpToDate library state.registry) :
    Fresh host library (world.putHost place state) := by
  obtain same | ⟨rfl, same⟩ := world.hostOf_putHost place state host
  · refine ⟨within, ?_, ?_, ?_⟩
    · rw [same]
      exact fresh.kept
    · rw [same]
      exact fresh.named
    · have kept : (world.putHost place state).registryOf host = world.registryOf host := congrArg Host.registry same
      rw [kept]
      exact fresh.current
  · refine ⟨within, ?_, ?_, ?_⟩
    · rw [same, runtime]
      exact fresh.kept
    · rw [same, named]
      exact fresh.named
    · have kept : (world.putHost host state).registryOf host = state.registry := congrArg Host.registry same
      rw [kept]
      exact current rfl

/-- Scripts leave the behaviours as they are. -/
theorem leave (place : Nat) (outside : Script.Outside) : Fresh host library (world.leave place outside) := by
  have put := fresh.putHost place { world.hostOf place with log := outside.log }
    (fresh.within.putHost place _ (fresh.within.receivers place) (fresh.within.sources place)) rfl rfl
    (by rintro rfl; exact fresh.current)
  exact ⟨fresh.within.leave place outside, put.kept, put.named, put.current⟩

/-- A registry whose behaviours are up to date may be set. -/
theorem putRegistry {place : Nat} {registry : Registry}
    (within : WithinWorld .running (world.putRegistry place registry))
    (current : place = host → UpToDate library registry) : Fresh host library (world.putRegistry place registry) :=
  fresh.putHost place { world.hostOf place with registry } within rfl rfl current

end Fresh

/-- Freshness is kept by everything that hooks of the scope do. -/
theorem fresh_congruence (host : Nat) (library : Script.UnitCache) :
    Congruence .running (Suits host library) (Diagonal (Fresh host library)) where
  engine := by rintro _ _ ⟨rfl, -⟩; rfl
  draws := by rintro _ _ ⟨rfl, -⟩; rfl
  names := by rintro _ _ ⟨rfl, -⟩; rfl
  uses := by rintro _ _ ⟨rfl, -⟩; rfl
  claimed := by rintro _ _ ⟨rfl, -⟩; rfl
  registry := by rintro _ _ ⟨rfl, -⟩ _; rfl
  log := by rintro _ _ ⟨rfl, -⟩ _; rfl
  scripts := by rintro _ _ ⟨rfl, -⟩ _; rfl
  within holds := holds.2.within.receivers
  system _ _ := trivial
  hooked _ _ := trivial
  note := by
    rintro _ _ _ - ⟨rfl, fresh⟩
    exact .refl ⟨fresh.within.note _, fresh.kept, fresh.named, fresh.current⟩
  leave := by
    rintro _ _ place outside ⟨rfl, fresh⟩
    exact .refl (fresh.leave place outside)
  count := by
    rintro _ _ uses ⟨rfl, fresh⟩
    exact .refl ⟨fresh.within.count uses, fresh.kept, fresh.named, fresh.current⟩
  steer := by
    rintro _ _ engine ⟨rfl, fresh⟩
    exact .refl ⟨fresh.within.steer engine, fresh.kept, fresh.named, fresh.current⟩
  rename := by
    rintro _ _ names ⟨rfl, fresh⟩ -
    exact .refl ⟨fresh.within.rename names, fresh.kept, fresh.named, fresh.current⟩
  change := by
    rintro _ _ place registry ⟨rfl, fresh⟩ alters
    apply Diagonal.refl
    apply fresh.putRegistry (fresh.within.change alters)
    rintro rfl
    exact fresh.current.change alters
  add := by
    rintro _ _ place receiver ⟨rfl, fresh⟩ suits within
    apply Diagonal.refl
    apply fresh.putRegistry (fresh.within.add within)
    rintro rfl
    exact fresh.current.add (suits rfl)

/-- Notes leave a world fresh. -/
theorem fresh_audible (host : Nat) (library : Script.UnitCache) :
    Audible .running (Diagonal (Fresh host library)) where
  bridge := by rintro _ _ ⟨rfl, -⟩; rfl
  source := by rintro _ _ ⟨rfl, -⟩ _; rfl
  freed := by rintro _ _ ⟨rfl, -⟩ _; rfl
  handlers holds := holds.2.within.bridge
  listeners holds := holds.2.within.sources
  note := by
    rintro _ _ entry ⟨rfl, fresh⟩
    exact .refl ⟨fresh.within.note entry, fresh.kept, fresh.named, fresh.current⟩
  rebridge := by
    rintro _ _ bridge ⟨rfl, fresh⟩ within
    exact .refl ⟨fresh.within.rebridge within, fresh.kept, fresh.named, fresh.current⟩
  resource := by
    rintro world _ source place ⟨rfl, fresh⟩ within
    apply Diagonal.refl
    apply fresh.putHost place { world.hostOf place with source } (fresh.within.resource place within) rfl rfl
    rintro rfl
    exact fresh.current

/-- Factories leave a world fresh. -/
theorem fresh_stocked (host : Nat) (library : Script.UnitCache) :
    Stocked .running (Diagonal (Fresh host library)) where
  factories := by rintro _ _ ⟨rfl, -⟩; rfl
  within holds := holds.2.within.factories
  binder := by rintro _ _ ⟨rfl, -⟩ _; rfl
  restock := by
    rintro _ _ factories ⟨rfl, fresh⟩ within
    exact .refl ⟨fresh.within.restock within, fresh.kept, fresh.named, fresh.current⟩
  rebind := by
    rintro world _ place binder ⟨rfl, fresh⟩
    apply Diagonal.refl
    apply fresh.putHost place { world.hostOf place with binder } _ rfl rfl
    · rintro rfl
      exact fresh.current
    · exact fresh.within.putHost place _ (fresh.within.receivers place) (fresh.within.sources place)

/-- A pass of the binder leaves a world fresh. -/
theorem fresh_bindable (host : Nat) (library : Script.UnitCache) :
    Bindable .running (Suits host library) (Diagonal (Fresh host library)) where
  toStocked := fresh_stocked host library
  library := by rintro _ _ ⟨rfl, -⟩ _; rfl
  scripted := by
    rintro world _ place runtime entity script unit ⟨rfl, fresh⟩ running found rfl
    have same := fresh.kept
    rw [running, Option.map_some] at same
    cases same
    exact found

/-- Who uses a host does not matter to its freshness. -/
theorem fresh_occupy (host : Nat) (library : Script.UnitCache) :
    (Run.modifyHost host fun state => { state with users := state.users - 1 }).Agrees
      (Diagonal (Fresh host library)) := by
  rintro world _ ⟨rfl, fresh⟩
  refine ⟨rfl, .refl ?_⟩
  apply fresh.putHost host { world.hostOf host with users := (world.hostOf host).users - 1 } _ rfl rfl
  · exact fun _ => fresh.current
  · exact fresh.within.putHost host _ (fresh.within.receivers host) (fresh.within.sources host)

/-- A world stays fresh when runtimes come and go beside it. -/
theorem fresh_heeds (host : Nat) (library : Script.UnitCache) :
    Heeds .running (Suits host library) (Diagonal (Fresh host library)) where
  toCongruence := fresh_congruence host library
  calm allowed := nomatch allowed
  stocks _ := fresh_stocked host library
  hears _ := fresh_audible host library

section Reload

variable (depth : Nat) (within : WithinWorld .running world)
  (kept : (world.hostOf host).runtime.map Runtime.behaviours = some library)
  (named : (world.hostOf host).named = true)

include within kept named

/-- As soon as the old behaviours are no longer registered, what is registered is up to date. -/
theorem fresh_take : Fresh host library (world.putRegistry host
    ((world.registryOf host).take fun receiver => receiver.binding?.isSome).1) := by
  have present : host < world.hosts.length := by
    apply World.present
    intro absent
    rw [absent] at kept
    cases kept
  have put : ∀ registry, (world.putRegistry host registry).hostOf host = { world.hostOf host with registry } := by
    intro registry
    change (world.putHost host { world.hostOf host with registry }).hostOf host = _
    rw [World.putHost_hostOf present, if_pos rfl]
  refine ⟨within.change (alters_take _ _), ?_, ?_, ?_⟩
  · rw [put]
    exact kept
  · rw [put]
    exact named
  · rw [World.putRegistry_registryOf present]
    exact .take _

/-- A reload of the scene purges and binds while the library stays. -/
theorem reloadScene_fresh (unlocked : (world.registryOf host).locked = false) :
    (Lifecycle.reloadScene (caller depth) host).AgreesAt (Diagonal (Fresh host library)) world world := by
  have heeding : (caller depth).Heeding .running (Suits host library) := caller_heeding depth
  have heeds := fresh_heeds host library
  apply Run.AgreesAt.bind
  · apply Run.AgreesAt.discard
    apply Run.AgreesAt.reading unlocked
    apply heeds.agreesAt_setRegistry (.refl (fresh_take within kept named))
    apply (Scheduler.retireAll_agrees heeding heeds _).bind
    intro _
    exact (heeds.agrees_note rfl).bind fun _ => Run.agrees_pure _
  · exact fun _ => Binding.bindAll_agrees heeding heeds (fresh_bindable host library)

end Reload

/-- Whoever reloads the scene of a locked host waits for ever. -/
theorem reloadScene_locked (call : Caller) (locked : (world.registryOf host).locked = true) :
    (Lifecycle.reloadScene call host).run.run world = (.error .stuck, world) := by
  have purged : (Scheduler.purgeBehaviours call host).run.run world = (.error .stuck, world) := by
    unfold Scheduler.purgeBehaviours Scheduler.removeWhere
    rw [Run.registry_run, locked]
    rfl
  unfold Lifecycle.reloadScene
  rw [Stateful.run_bind, Stateful.run_discard, purged]

/-- A run that was left early is not brought back by what finishes it. -/
theorem afterwards_error {α : Type} {body : Run α} {finish : Run Unit} {raised : Raised} {after : World}
    (left : body.run.run world = (.error raised, after)) (value : α) (last : World) :
    (Run.afterwards body finish).run.run world ≠ (.ok value, last) := by
  have first : (do let value ← body; finish; pure value : Run α).run.run world = (.error raised, after) := by
    rw [Stateful.run_bind, left]
  rw [Run.afterwards_eq, Stateful.run_tryCatch, first]
  dsimp only
  rw [Stateful.run_bind]
  rcases finish.run.run after with ⟨raised' | done, last'⟩ <;> rintro ⟨⟩

/-- This is the world in which the scene is reloaded: the host is in use. -/
theorem reloadScene_run (call : Caller) {command : Command Operation} {runtime : Runtime}
    (reload : command.operation = .reloadScene) (found : world.names.hosts.lookup command.host = some host)
    (running : (world.hostOf host).runtime = some runtime) (live : runtime.state ≠ .shutDown) :
    (Perform.perform call command).run.run world =
      (do let outcome ← Run.afterwards (Lifecycle.reloadScene call host) (do
            Run.modifyHost host fun host => { host with users := host.users - 1 }
            Lifecycle.free call host)
          return Perform.boundAnswer true outcome : Run Answer).run.run
        (world.putHost host { world.hostOf host with users := (world.hostOf host).users + 1 }) := by
  have performed : (Perform.perform call command).run.run world =
      (Perform.operate call command.host ((world.names.hosts.lookup command.host).getD 0)
        command.operation).run.run world := rfl
  have operated : ∀ number, Perform.operate call command.host number .reloadScene =
      Perform.withRuntime command.host (Perform.reloadScene call) := fun _ => rfl
  rw [performed, reload, operated, Perform.withRuntime_run found running, Perform.reloadScene, if_neg live]
  rfl

/-- When the reload is over, every scripted behaviour runs a unit of the library. -/
theorem reloadScene_settles (depth : Nat) {command : Command Operation} {runtime : Runtime} {answer : Answer}
    {after : World} (within : WithinWorld .running world) (reload : command.operation = .reloadScene)
    (found : world.names.hosts.lookup command.host = some host) (named : (world.hostOf host).named = true)
    (running : (world.hostOf host).runtime = some runtime) (live : runtime.state ≠ .shutDown)
    (ended : (Perform.perform (caller depth) command).run.run world = (.ok answer, after)) :
    Fresh host runtime.behaviours after := by
  rw [reloadScene_run (caller depth) reload found running live] at ended
  have present : host < world.hosts.length := World.present (by simp [running])
  generalize same : world.putHost host { world.hostOf host with users := (world.hostOf host).users + 1 } = used at ended
  have here : used.hostOf host = { world.hostOf host with users := (world.hostOf host).users + 1 } := by
    rw [← same, World.putHost_hostOf present, if_pos rfl]
  have within' : WithinWorld .running used := by
    rw [← same]
    exact within.putHost host _ (within.receivers host) (within.sources host)
  have kept : (used.hostOf host).runtime.map Runtime.behaviours = some runtime.behaviours := by
    rw [here]
    exact congrArg (Option.map Runtime.behaviours) running
  have named' : (used.hostOf host).named = true := by
    rw [here]
    exact named
  -- On a locked registry the reload gets stuck, so it would not have answered.
  cases locked : (used.registryOf host).locked with
  | true =>
      rw [Stateful.run_bind] at ended
      revert ended
      cases early : (Run.afterwards (Lifecycle.reloadScene (caller depth) host) (do
          Run.modifyHost host fun host => { host with users := host.users - 1 }
          Lifecycle.free (caller depth) host)).run.run used with
      | mk result last =>
          cases result with
          | error raised => rintro ⟨⟩
          | ok outcome => exact absurd early (afterwards_error (reloadScene_locked _ locked) outcome last)
  | false =>
      have finished : (do
          Run.modifyHost host fun host => { host with users := host.users - 1 }
          Lifecycle.free (caller depth) host : Run Unit).Agrees (Diagonal (Fresh host runtime.behaviours)) := by
        apply Run.Agrees.bind (fresh_occupy host runtime.behaviours)
        intro _
        rintro last _ ⟨rfl, fresh⟩
        rw [Lifecycle.free_named fresh.named]
        exact ⟨rfl, .refl fresh⟩
      have reloaded := (reloadScene_fresh depth within' kept named' locked).afterwards finished
      have answered : ∀ outcome, (pure (Perform.boundAnswer true outcome) : Run Answer).Agrees
          (Diagonal (Fresh host runtime.behaviours)) := fun outcome => Run.agrees_pure _
      have fresh := (reloaded.bind answered).2.2
      rw [ended] at fresh
      exact fresh

/-- Edits of behaviour scripts and reloads of their library make no difference to what is bound already:
results, engine, receivers with their units and their own values, logs and all that is noted are the same.
When the scene is reloaded, every scripted behaviour has the unit that the library has then. -/
theorem edits_await_reloadScene (depth : Nat) {edits commands : List (Command Operation)}
    (within : WithinWorld .running world)
    (editing : ∀ command ∈ edits, command.operation.edits = true)
    (quiet : ∀ command ∈ commands, Within .running command.operation) :
    (let plain := attempts depth commands world
      let edited := attempts depth commands (attempts depth edits world).2
      edited.1 = plain.1 ∧ edited.2.engine = plain.2.engine ∧
        (∀ host, edited.2.registryOf host = plain.2.registryOf host) ∧
        (∀ host, (edited.2.hostOf host).log = (plain.2.hostOf host).log) ∧
        ∃ (entries : List Entry) (records : List TraceRecord),
          plain.2.journal = entries ++ world.journal ∧
          edited.2.journal = entries ++ (records.map .reported ++ world.journal)) ∧
      ∀ (command : Command Operation) (host : Nat) (runtime : Runtime) (answer : Answer) (after : World),
        command.operation = .reloadScene → world.names.hosts.lookup command.host = some host →
          (world.hostOf host).named = true → (world.hostOf host).runtime = some runtime →
            runtime.state ≠ .shutDown →
              (Perform.perform (caller depth) command).run.run world = (.ok answer, after) →
                (after.hostOf host).runtime.map Runtime.behaviours = some runtime.behaviours ∧
                  UpToDate runtime.behaviours (after.registryOf host) := by
  refine ⟨?_, ?_⟩
  · obtain ⟨results, unseen⟩ := edits_unseen depth editing quiet within
    obtain ⟨-, records, reported⟩ := attempts_edits depth editing within
    obtain ⟨entries, noted, noted'⟩ := unseen.noted
    rw [reported] at noted'
    exact ⟨results, (unseen.shown World.engine).symm, fun host => (unseen.shownHost Host.registry host).symm,
      fun host => (unseen.shownHost Host.log host).symm, entries, records, noted, noted'⟩
  · intro command host runtime answer after reload found named running live ended
    have fresh := reloadScene_settles depth within reload found named running live ended
    exact ⟨fresh.kept, fresh.current⟩

def lampUnit (body : List Script.Statement) : Script.CompiledUnit :=
  ⟨"lamp", ⟨"/behaviours/lamp.rhai"⟩, [], ⟨[⟨"update", ["engine", "entity"], body⟩], []⟩⟩

/-- An entity declares the lamp, and the lamp was bound before its script was last compiled. -/
def lampWorld : World :=
  let tree : File.Tree := ⟨[(["behaviours"], .directory true), (["behaviours", "lamp.rhai"], .file [])], []⟩
  let config : Config := { Config.standard with behaviourRoot := ⟨"/behaviours"⟩, hotReload := false }
  let runtime := Runtime.create tree config
  let library := { runtime.behaviours with active := ⟨⟨"/behaviours"⟩, 2, [lampUnit [.leave]]⟩ }
  let (engine, entity) := (Engine.create Engine.standardInterval).spawn [("scripts", "[\"lamp\"]")]
  let host := Host.create [] 4 (some { runtime with behaviours := library, state := .running })
  let bound : Slot := ⟨.behaviour entity "lamp" (.scripted (lampUnit []) (.map [])), true, .live, false⟩
  { World.create tree .lowest with
    engine
    claimed := true
    hosts := [.core, { host with registry := ⟨[bound], [0], false⟩ }]
    names := { Names.none with hosts := [("stage", 1)] } }

def lampEdits : List (Command Operation) :=
  [⟨"delete", "stage", .remove ["behaviours", "lamp.rhai"]⟩, ⟨"reload", "stage", .reloadRoot .behaviours⟩]

def lampTurns : List (Command Operation) :=
  [⟨"tick", "stage", .tick ⟨0, 1⟩⟩, ⟨"purge", "stage", .purgeBehaviours⟩]

/-- The world of the example is within the scope. -/
theorem lampWorld_within : WithinWorld .running lampWorld := by
  apply WithinWorld.of_hosts
  · intro state member slot held
    obtain rfl | rfl := List.mem_pair.mp member
    · cases held
    · obtain rfl := List.mem_singleton.mp held
      trivial
  · exact .empty
  · intro state member
    obtain rfl | rfl := List.mem_pair.mp member <;> exact .empty
  · exact fun state absurd => nomatch absurd

/-- The library loses the lamp and the bound one still runs; with the scene the lamp is bound anew. -/
theorem edits_await_reloadScene_lamp :
    (∀ command ∈ lampEdits, command.operation.edits = true) ∧
    (∀ command ∈ lampTurns, Within .running command.operation) ∧
    (((attempts 1 lampEdits lampWorld).2.hostOf 1).runtime.map fun runtime => runtime.behaviours.active.names) =
      some [] ∧
    (attempts 1 lampTurns (attempts 1 lampEdits lampWorld).2).1 = (attempts 1 lampTurns lampWorld).1 ∧
    let after := ((Perform.perform (caller 1) ⟨"scene", "stage", .reloadScene⟩).run.run lampWorld).2
    (after.registryOf 1).registered = [1] ∧
      ∃ library, (after.hostOf 1).runtime.map Runtime.behaviours = some library ∧
        UpToDate library (after.registryOf 1) := by
  have editing : ∀ command ∈ lampEdits, command.operation.edits = true := by
    intro command member
    obtain rfl | rfl := List.mem_pair.mp member <;> rfl
  have quiet : ∀ command ∈ lampTurns, Within .running command.operation := by
    intro command member
    obtain rfl | rfl := List.mem_pair.mp member
    · exact .tick rfl _
    · exact .purgeBehaviours
  obtain ⟨unseen, reloaded⟩ := edits_await_reloadScene 1 lampWorld_within editing quiet
  refine ⟨editing, quiet, by decide +kernel, unseen.1, by decide +kernel, ?_⟩
  have returned : ((Perform.perform (caller 1) ⟨"scene", "stage", .reloadScene⟩).run.run lampWorld).1.isOk = true := by
    decide +kernel
  cases ended : (Perform.perform (caller 1) ⟨"scene", "stage", .reloadScene⟩).run.run lampWorld with
  | mk result after =>
      cases result with
      | error raised =>
          rw [ended] at returned
          cases returned
      | ok answer =>
          obtain ⟨library, current⟩ := reloaded _ 1 _ answer after rfl rfl rfl rfl (by decide) ended
          exact ⟨_, library, current⟩

end Edits

end ScriptHost.Session

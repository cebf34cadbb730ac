/-
This file compares runs of one scene that last for different numbers of ticks: a longer run extends a shorter one.
-/
import ScriptHost.Proofs.Scene.Opening
import ScriptHost.Scene.Run

namespace ScriptHost

namespace Scene

open Session (Run World)
open Session.Staging (Carries Plain Setting Staged publish_carries putHost_shifted shifted_hostOf shifted_nil
  shifted_putHost)

namespace Actor

variable {entity : Entity} {engine after : Engine}

/-- Writing texts changes nothing of an engine but its store. -/
theorem writeTexts_stores {texts : List (String × String)} (wrote : writeTexts entity texts engine = .ok after) :
    engine.Stores after := by
  induction texts generalizing engine with
  | nil =>
      obtain rfl := Except.ok.inj wrote
      exact .refl engine
  | cons entry rest ih =>
      obtain ⟨key, text⟩ := entry
      have stores : engine.Stores (engine.setScriptData entity key text).1 := engine.setScriptData_stores key text
      unfold writeTexts at wrote
      revert stores wrote
      rcases engine.setScriptData entity key text with ⟨written, error | done⟩
      · exact fun _ absurd => nomatch absurd
      · exact fun stores wrote => stores.trans (ih wrote)

/-- Writing components changes nothing of an engine but its store. -/
theorem writeComponents_stores {components : List (String × Json.Value)}
    (wrote : writeComponents entity components engine = .ok after) : engine.Stores after := by
  induction components generalizing engine with
  | nil =>
      obtain rfl := Except.ok.inj wrote
      exact .refl engine
  | cons entry rest ih =>
      obtain ⟨key, value⟩ := entry
      have stores : engine.Stores (engine.setComponent entity key value.write).1 :=
        engine.setComponent_stores key value.write
      unfold writeComponents at wrote
      revert stores wrote
      rcases engine.setComponent entity key value.write with ⟨written, error | done⟩
      · exact fun _ absurd => nomatch absurd
      · exact fun stores wrote => stores.trans (ih wrote)

/-- Spawning an actor changes nothing of an engine but its store. -/
theorem spawn_stores {actor : Actor} (spawned : actor.spawn engine = .ok (after, entity)) : engine.Stores after := by
  unfold spawn at spawned
  dsimp only at spawned
  split at spawned
  · next written wrote =>
      cases spawned
      have bare : engine.Stores (engine.spawn []).1 := ⟨_, rfl⟩
      cases texts : writeTexts (engine.spawn []).2 actor.texts (engine.spawn []).1 with
      | error error =>
          rw [texts] at wrote
          cases wrote
      | ok named =>
          rw [texts] at wrote
          exact (bare.trans (writeTexts_stores texts)).trans (writeComponents_stores wrote)
  · cases spawned

end Actor

/-- Spawning all actors changes nothing of an engine but its store. -/
theorem spawnAll_stores {actors : List Actor} {engine after : Engine} {entities : List Entity}
    (spawned : spawnAll actors engine = .ok (after, entities)) : engine.Stores after := by
  induction actors generalizing engine entities with
  | nil =>
      obtain ⟨rfl, rfl⟩ := Prod.mk.inj (Except.ok.inj spawned)
      exact .refl engine
  | cons actor rest ih =>
      unfold spawnAll at spawned
      cases first : actor.spawn engine with
      | error error =>
          rw [first] at spawned
          cases spawned
      | ok made =>
          obtain ⟨middle, entity⟩ := made
          rw [first] at spawned
          change (spawnAll rest middle >>= _) = _ at spawned
          cases others : spawnAll rest middle with
          | error error =>
              rw [others] at spawned
              cases spawned
          | ok made =>
              obtain ⟨last, entities⟩ := made
              rw [others] at spawned
              cases spawned
              exact (Actor.spawn_stores first).trans (ih others)

section Ticks

variable {draws : Option Script.Draws} {host : Nat} {setting : Setting} {world start : World}

/-- A tick has been delivered in this world. -/
def ticked (world : World) (index : Nat) : World :=
  ((Session.Events.publish caller (.logicTick (UInt64.ofNat index))).run.run world).2

/-- The lines have been taken from the log of the host. -/
def emptied (host : Nat) (world : World) : World :=
  world.putHost host { world.hostOf host with log := [] }

/-- Before each tick the lines of all earlier ones have been taken. -/
def before (host : Nat) (start : World) : Nat → World
  | 0 => emptied host start
  | index + 1 => emptied host (ticked (before host start index) index)

def linesOf (host : Nat) (start : World) (index : Nat) : List String :=
  ((ticked (before host start index) index).hostOf host).log

def tickLog (host : Nat) (start : World) (index : Nat) : TickLog :=
  ⟨UInt64.ofNat index, linesOf host start index⟩

/-- The ticks of a scene while nobody takes lines from the log. -/
def publishTicks : Nat → Nat → Run Unit
  | 0, _ => return ()
  | count + 1, next => do
      discard (Session.Events.publish caller (.logicTick (UInt64.ofNat next)))
      publishTicks count (next + 1)

/-- A scene goes on whatever is taken from its log. -/
theorem emptied_staged (staged : Staged draws host setting none world) :
    Staged draws host setting none (emptied host world) :=
  staged.relog []

/-- Lines that have been taken stand in front of those that come. -/
theorem emptied_shifted (present : host < world.hosts.length) (past : List String) (draws : Option Script.Draws) :
    (emptied host world).shifted host (past ++ (world.hostOf host).log) draws = world.shifted host past draws := by
  rw [emptied, putHost_shifted present, List.append_nil, shifted_putHost]
  rfl

/-- Taking the lines and drawing otherwise go together. -/
theorem emptied_redrawn (present : host < world.hosts.length) :
    emptied host (world.shifted host [] draws) = (emptied host world).shifted host [] draws := by
  rw [emptied, shifted_hostOf present, emptied, putHost_shifted present]
  rfl

/-- A tick is delivered, and in the same way whatever stands in the log and whatever is drawn elsewhere. -/
theorem ticked_run (staged : Staged draws host setting none world) (index : Nat) (past : List String) :
    (discard (Session.Events.publish caller (.logicTick (UInt64.ofNat index)))).run.run
        (world.shifted host past draws) = (.ok (), (ticked world index).shifted host past draws) ∧
      Staged draws host setting none (ticked world index) := by
  have carries : Carries host past draws world (Session.Events.publish caller (.logicTick (UInt64.ofNat index))) _ :=
    publish_carries staged _
  obtain ⟨route, after, ran, staged, also⟩ := carries.returns
  unfold ticked
  rw [Stateful.run_discard, also, ran]
  exact ⟨rfl, staged⟩

/-- After a tick the scene stands as before. -/
theorem ticked_staged (staged : Staged draws host setting none world) (index : Nat) :
    Staged draws host setting none (ticked world index) := (ticked_run staged index []).2

/-- A tick leaves the same world behind whatever is drawn elsewhere. -/
theorem ticked_redrawn (staged : Staged draws host setting none world) (index : Nat) :
    ticked (world.shifted host [] draws) index = (ticked world index).shifted host [] draws := by
  have carries : Carries host [] draws world (Session.Events.publish caller (.logicTick (UInt64.ofNat index))) _ :=
    publish_carries staged _
  exact congrArg Prod.snd carries.also

section Before

variable (staged : Staged draws host setting none start)
include staged

/-- The scene stands before each tick. -/
theorem before_staged (index : Nat) : Staged draws host setting none (before host start index) := by
  induction index with
  | zero => exact emptied_staged staged
  | succ index ih => exact emptied_staged (ticked_staged ih index)

/-- Before each tick the log is empty. -/
theorem before_log (index : Nat) : ((before host start index).hostOf host).log = [] := by
  have empties : ∀ {world : World}, Staged draws host setting none world →
      ((emptied host world).hostOf host).log = [] := by
    intro world staged
    rw [emptied, World.putHost_hostOf staged.present, if_pos rfl]
  cases index with
  | zero => exact empties staged
  | succ index => exact empties (ticked_staged (before_staged staged index) index)

/-- Before each tick the worlds differ in their draws alone. -/
theorem before_redrawn (index : Nat) :
    before host (start.shifted host [] draws) index = (before host start index).shifted host [] draws := by
  induction index with
  | zero => exact emptied_redrawn staged.present
  | succ index ih =>
      have here := before_staged staged index
      rw [before, ih, ticked_redrawn here, emptied_redrawn (ticked_staged here index).present]
      rfl

/-- Other draws do not change the lines of a tick. -/
theorem tickLog_redrawn (index : Nat) :
    tickLog host (start.shifted host [] draws) index = tickLog host start index := by
  have here := before_staged staged index
  rw [tickLog, linesOf, before_redrawn staged, ticked_redrawn here, shifted_hostOf (ticked_staged here index).present]
  rfl

end Before

section Lines

variable (staged : Staged none host setting none start)
include staged

/-- Each entry of the results has the lines of its own tick. -/
theorem runTicks_run (count next : Nat) : (runTicks host count next).run.run (before host start next) =
    (.ok ((List.range' next count).map (tickLog host start)), before host start (next + count)) := by
  induction count generalizing next with
  | zero => rfl
  | succ count ih =>
      have here := before_staged staged next
      have ran := (ticked_run here next []).1
      rw [shifted_nil here.present, shifted_nil (ticked_staged here next).present] at ran
      have taken : (Session.Perform.takeLogs host).run.run (ticked (before host start next) next) =
          (.ok (linesOf host start next), before host start (next + 1)) := rfl
      unfold runTicks
      rw [Stateful.run_after ran, Stateful.run_after taken, Stateful.run_after (ih (next + 1)),
        List.range'_succ, Nat.add_right_comm]
      rfl

/-- If nobody takes them, the lines of all ticks stand one behind the other. -/
theorem publishTicks_run (count next : Nat) (past : List String) :
    (publishTicks count next).run.run ((before host start next).shifted host past none) =
      (.ok (), (before host start (next + count)).shifted host
        (past ++ (List.range' next count).flatMap (linesOf host start)) none) := by
  induction count generalizing next past with
  | zero =>
      rw [List.range'_zero, List.flatMap_nil, List.append_nil]
      rfl
  | succ count ih =>
      have here := before_staged staged next
      have moved : (ticked (before host start next) next).shifted host past none =
          (before host start (next + 1)).shifted host (past ++ linesOf host start next) none :=
        (emptied_shifted (ticked_staged here next).present past none).symm
      unfold publishTicks
      rw [Stateful.run_after (ticked_run here next past).1, moved, ih, List.range'_succ, List.flatMap_cons,
        List.append_assoc, Nat.add_right_comm]
      rfl

end Lines

end Ticks

section Runs

variable {config : Config} {engine : Engine}

/-- A scene is opened in such a world: the context is free, and only the entities of the scene are there. -/
def setOut (tree : File.Tree) (draws : Script.Draws) (engine : Engine) : World :=
  { World.create tree draws with engine }

/-- No script below a root of the settings draws. -/
def Drawless (tree : File.Tree) (config : Config) : Prop :=
  ∀ root ∈ [config.scriptRoot, config.behaviourRoot, config.questRoot, config.encounterRoot],
    Script.SparingRoot (· ≠ "rand") tree root (Script.bareExtension config.scriptExtension)

instance (tree : File.Tree) (config : Config) : Decidable (Drawless tree config) :=
  inferInstanceAs (Decidable (∀ root ∈ [config.scriptRoot, config.behaviourRoot, config.questRoot,
    config.encounterRoot], Script.SparingRoot (· ≠ "rand") tree root (Script.bareExtension config.scriptExtension)))

/-- The runs have the same draws, or they do not draw. -/
theorem create_sparing {tree : File.Tree} {other : Option Script.Draws} (spares : other = none ∨ Drawless tree config) :
    Session.Staging.Sparing other tree (Session.Runtime.create tree config) := by
  have roots : ∀ root ∈ [config.scriptRoot, config.behaviourRoot, config.questRoot, config.encounterRoot],
      Script.SparingRoot (Script.Spared other) tree root (Script.bareExtension config.scriptExtension) := by
    intro root member
    obtain rfl | drawless := spares
    · exact fun _ _ _ _ _ _ _ _ => Script.Spares.of_all Script.spared_none _
    · exact (drawless root member).mono fun _ => .inr
  simp only [List.forall_mem_cons] at roots
  obtain ⟨scripts, behaviours, quests, encounters, -⟩ := roots
  intro kind
  cases kind
  · exact Script.UnitCache.create_sparing scripts
  · exact Script.UnitCache.create_sparing behaviours
  · exact Script.UnitCache.create_sparing quests
  · exact Script.UnitCache.create_sparing encounters

/-- What a run finds when its first tick comes, whatever the number of its ticks. -/
structure Starts (config : Config) (world : World) (host : Nat) (setting : Setting) (start : World) : Prop where
  staged : Staged none host setting none start
  plain : Plain setting.binder
  opens : ∃ fresh, (Session.Lifecycle.create config []).run.run world = (.ok (some host), fresh) ∧
    (Session.Lifecycle.start caller host).run.run fresh = (.ok (), start)

/-- A scene starts, and it starts in the same way whatever is drawn elsewhere. -/
theorem starts (willing : engine.Willing) {tree : File.Tree} {other : Option Script.Draws}
    (spares : other = none ∨ Drawless tree config) (draws : Script.Draws) :
    ∃ host setting start, Staged other host setting none start ∧
      Starts config (setOut tree draws engine) host setting start ∧
      Starts config (setOut tree (other.getD draws) engine) host setting (start.shifted host [] other) := by
  let fresh (draws : Script.Draws) : World :=
    { (setOut tree draws engine).restock [] with
      claimed := true
      hosts := (setOut tree draws engine).hosts ++ [.create [] (max 1 config.maxBindEntities.toNat)
        (some (Session.Runtime.create tree config))] }
  have created : ∀ draws, (Session.Lifecycle.create config []).run.run (setOut tree draws engine) =
      (.ok (some 1), fresh draws) := by
    intro draws
    have added : (Session.Lifecycle.addFactories 0 []).run.run (setOut tree draws engine) =
        (.ok [], (setOut tree draws engine).restock []) := rfl
    exact Session.Tenure.create_run config rfl added
  have opened : Session.Staging.Opened other 1 ⟨[], max 1 config.maxBindEntities.toNat, false⟩ (fresh draws) :=
    ⟨Session.Runtime.create tree config,
      { present := Nat.lt_succ_self 1
        willing := ⟨willing.lists, willing.calm⟩
        heard := nofun
        listening := nofun
        runtime := rfl
        binder := rfl
        unlocked := rfl
        scripted := nofun
        sparing := create_sparing spares
        quiet := nofun }⟩
  have carries : Carries 1 [] other (fresh draws) (Session.Lifecycle.start caller 1) _ :=
    Session.Staging.start_carries opened ⟨rfl, rfl⟩
  obtain ⟨done, start, started, ⟨runtime, staged⟩, also⟩ := carries.returns
  exact ⟨1, _, start, staged, ⟨staged.undrawn, ⟨rfl, rfl⟩, _, created draws, started⟩,
    (staged.shifted []).undrawn, ⟨rfl, rfl⟩, _, created (other.getD draws), also⟩

/-- This much of a report does not depend on what follows the ticks. -/
structure Tells (host : Nat) (setting : Setting) (start : World) (number : UInt64) (report : Report) : Prop where
  ticks : report.ticks = number
  units : report.units = setting.runtime.scripts.active.names
  behaviours : report.behaviours = setting.runtime.behaviours.active.names
  results : report.results = (List.range number.toNat).map (tickLog host start)
  quests : report.quests = setting.runtime.quests.ids
  encounters : report.encounters = setting.runtime.encounters.ids

variable {host : Nat} {setting : Setting} {world start : World}

/-- The runtime of a scene is there to be reported on. -/
theorem runtimeOf_run (staged : Staged none host setting none world) :
    (runtimeOf host).run.run world = (.ok setting.runtime, world) := by
  have read : (Run.runtime? host).run.run world = (.ok (some setting.runtime), world) := by
    rw [← staged.runtime]
    rfl
  unfold runtimeOf
  rw [Stateful.run_after read]
  rfl

/-- The pass after the last tick ends, and the content is as it was loaded. -/
theorem bindAgain_run (staged : Staged none host setting none world) (plain : Plain setting.binder) :
    ∃ report after, (bindAgain host).run.run world = (.ok report, after) ∧ Staged none host setting none after := by
  have carries : Carries host [] none world (Session.Binding.bindAll caller host) _ :=
    Session.Staging.bindAll_carries staged plain
  obtain ⟨result, after, ran, ⟨⟨report, rfl⟩, staged⟩, -⟩ := carries.returns
  refine ⟨report, after, ?_, staged⟩
  unfold bindAgain
  rw [Stateful.run_after ran]
  rfl

/-- A run of a scene returns, and its report tells what the ticks have shown. -/
theorem run_returns (begun : Starts config world host setting start) (scene : Scene) (entities : List Entity) :
    ∃ report after, (run scene config entities).run.run world = (.ok report, after) ∧
      Tells host setting start scene.ticks report := by
  obtain ⟨fresh, created, started⟩ := begun.opens
  have dropped : (discard (Session.Perform.takeLogs host)).run.run start = (.ok (), before host start 0) := by
    rw [Stateful.run_discard]
    rfl
  have final := before_staged begun.staged (0 + scene.ticks.toNat)
  obtain ⟨report, last, bound, staged⟩ := bindAgain_run final begun.plain
  have reached : Session.Staging.Reaches host [] none last (Run.registry host) (last.registryOf host) last :=
    .registry staged.present staged.unlocked
  unfold run
  rw [Stateful.run_after created]
  dsimp only
  rw [Stateful.run_after started, Stateful.run_after (runtimeOf_run begun.staged),
    Stateful.run_after dropped, Stateful.run_after (runTicks_run begun.staged ..),
    Stateful.run_after bound, Stateful.run_after reached.ran,
    Stateful.run_after (runtimeOf_run staged)]
  refine ⟨_, _, rfl, ?_⟩
  constructor
  case results => rw [List.range_eq_range']
  all_goals rfl

/-- This is the log of a scene that has been opened and has heard so many ticks while nobody took lines from it. -/
def undrained (config : Config) (count : Nat) : Run (List String) := do
  match ← Session.Lifecycle.create config [] with
  | none => throw stopped
  | some host =>
      Session.Lifecycle.start caller host
      publishTicks count 0
      return (← Run.host host).log

/-- Whoever takes no lines finds those of the start and of all ticks. -/
theorem undrained_run (begun : Starts config world host setting start) (count : Nat) :
    ((undrained config count).run.run world).1 =
      .ok ((start.hostOf host).log ++ (List.range count).flatMap (linesOf host start)) := by
  obtain ⟨fresh, created, started⟩ := begun.opens
  have opened : (before host start 0).shifted host (start.hostOf host).log none = start := by
    have emptied := emptied_shifted begun.staged.present [] none
    rw [shifted_nil begun.staged.present] at emptied
    exact emptied
  have ticks := publishTicks_run begun.staged count 0 (start.hostOf host).log
  have last := before_staged begun.staged (0 + count)
  have shown : (((before host start (0 + count)).shifted host ((start.hostOf host).log ++
      (List.range' 0 count).flatMap (linesOf host start)) none).hostOf host).log =
        (start.hostOf host).log ++ (List.range count).flatMap (linesOf host start) := by
    rw [shifted_hostOf last.present, before_log begun.staged, List.append_nil, List.range_eq_range']
  rw [opened] at ticks
  unfold undrained
  rw [Stateful.run_after created]
  dsimp only
  rw [Stateful.run_after started, Stateful.run_after ticks, ← shown]
  rfl

def outcome {α : Type} : Except Session.Raised α → Except Error α
  | .ok value => .ok value
  | .error raised => .error (.failed (raisedReason raised))

/-- The same log, where the actors of the scene have been spawned before. -/
def logged (tree : File.Tree) (draws : Script.Draws) (scene : Scene) (config : Config) (count : Nat) :
    Except Error (List String) := do
  let (engine, _) ← spawnAll scene.actors (.create scene.interval)
  outcome ((undrained config count).run.run (setOut tree draws engine)).1

/-- Such reports tell of the same units and the same content, and the longer one goes on where the shorter ends. -/
structure Extends (shorter longer : Report) : Prop where
  units : shorter.units = longer.units
  behaviours : shorter.behaviours = longer.behaviours
  quests : shorter.quests = longer.quests
  encounters : shorter.encounters = longer.encounters
  results : shorter.results = longer.results.take shorter.results.length

/-- There is one entry for each tick, and its lines are the ones that the log gains while the tick is delivered. -/
structure Chronicles (log : Nat → List String) (report : Report) : Prop where
  counted : report.results.length = report.ticks.toNat
  numbered : ∀ (index : Nat) (entry : TickLog), report.results[index]? = some entry → entry.tick.toNat = index
  gained : ∀ (index : Nat) (entry : TickLog), report.results[index]? = some entry →
    log (index + 1) = log index ++ entry.lines

/-- A report of so many ticks is a chronicle of the log. -/
theorem Tells.chronicles {number : UInt64} {report : Report} {log : Nat → List String}
    (tells : Tells host setting start number report)
    (logs : ∀ count, log count = (start.hostOf host).log ++ (List.range count).flatMap (linesOf host start)) :
    Chronicles log report := by
  have entries : ∀ (index : Nat) (entry : TickLog), report.results[index]? = some entry →
      index < number.toNat ∧ entry = tickLog host start index := by
    intro index entry found
    rw [tells.results, List.getElem?_map, Option.map_eq_some_iff] at found
    obtain ⟨place, found, rfl⟩ := found
    obtain ⟨inside, rfl⟩ := List.getElem?_eq_some_iff.mp found
    rw [List.getElem_range]
    exact ⟨by simpa using inside, rfl⟩
  constructor
  · rw [tells.results, tells.ticks, List.length_map, List.length_range]
  · intro index entry found
    obtain ⟨inside, rfl⟩ := entries index entry found
    exact UInt64.toNat_ofNat_of_lt (Nat.lt_trans inside number.toNat_lt)
  · intro index entry found
    obtain ⟨-, rfl⟩ := entries index entry found
    rw [logs, logs, List.range_succ, List.flatMap_append, List.append_assoc]
    simp [tickLog]

/-- A report of more ticks extends the report of fewer. -/
theorem Tells.extends {fewer more : UInt64} {shorter longer : Report} (tells : Tells host setting start fewer shorter)
    (others : Tells host setting start more longer) (within : fewer ≤ more) : Extends shorter longer where
  units := tells.units.trans others.units.symm
  behaviours := tells.behaviours.trans others.behaviours.symm
  quests := tells.quests.trans others.quests.symm
  encounters := tells.encounters.trans others.encounters.symm
  results := by
    rw [tells.results, others.results, List.length_map, List.length_range, ← List.map_take, List.take_range,
      Nat.min_eq_left (UInt64.le_iff_toNat_le.mp within)]

section Redrawn

variable {other : Option Script.Draws} (staged : Staged other host setting none start)
include staged

/-- What a report tells does not depend on other draws. -/
theorem Tells.redrawn {number : UInt64} {report : Report}
    (tells : Tells host setting (start.shifted host [] other) number report) :
    Tells host setting start number report where
  ticks := tells.ticks
  units := tells.units
  behaviours := tells.behaviours
  results := by
    rw [tells.results]
    exact List.map_congr_left fun index _ => tickLog_redrawn staged index
  quests := tells.quests
  encounters := tells.encounters

/-- A scene that goes on with other draws writes the same log. -/
theorem lines_redrawn (count : Nat) :
    ((start.shifted host [] other).hostOf host).log ++
        (List.range count).flatMap (linesOf host (start.shifted host [] other)) =
      (start.hostOf host).log ++ (List.range count).flatMap (linesOf host start) := by
  have lines : linesOf host (start.shifted host [] other) = linesOf host start :=
    funext fun index => congrArg TickLog.lines (tickLog_redrawn staged index)
  rw [lines, shifted_hostOf staged.present]
  rfl

end Redrawn

/-- Either the actors cannot be spawned, or both runs report. Each run has its own draws. -/
def Compares (tree : File.Tree) (scene : Scene) (config : Config) (draws others : Script.Draws)
    (fewer more : UInt64) : Except Error (Engine × List Entity) → Prop
  | .error error => runWith tree draws { scene with ticks := fewer } config = .error error ∧
      runWith tree others { scene with ticks := more } config = .error error
  | .ok _ => ∃ log shorter longer,
      (∀ count, logged tree draws scene config count = .ok (log count) ∧
        logged tree others scene config count = .ok (log count)) ∧
      runWith tree draws { scene with ticks := fewer } config = .ok shorter ∧ shorter.ticks = fewer ∧
      runWith tree others { scene with ticks := more } config = .ok longer ∧ longer.ticks = more ∧
      Extends shorter longer ∧ Chronicles log shorter ∧ Chronicles log longer

/-- A longer run of a scene extends a shorter one, and its log is cut exactly where the ticks meet. The runs may draw
differently if no script of the scene draws. -/
theorem runWith_extends (tree : File.Tree) (scene : Scene) (config : Config) {draws others : Script.Draws}
    {fewer more : UInt64} (same : draws = others ∨ Drawless tree config) (within : fewer ≤ more) :
    Compares tree scene config draws others fewer more (spawnAll scene.actors (.create scene.interval)) := by
  cases spawned : spawnAll scene.actors (.create scene.interval) with
  | error error =>
      have refused : ∀ draws ticks, runWith tree draws { scene with ticks } config = .error error := by
        intro draws ticks
        unfold runWith
        dsimp only
        rw [spawned]
        rfl
      exact ⟨refused draws fewer, refused others more⟩
  | ok made =>
      obtain ⟨engine, entities⟩ := made
      have willing : engine.Willing := Engine.Willing.stores ⟨rfl, rfl⟩ (spawnAll_stores spawned)
      -- Either the draws are the same, or nobody looks at them and they may be exchanged.
      obtain ⟨other, spares, rfl⟩ : ∃ other : Option Script.Draws,
          (other = none ∨ Drawless tree config) ∧ other.getD draws = others := by
        obtain same | drawless := same
        · exact ⟨none, .inl rfl, same⟩
        · exact ⟨some others, .inr drawless, rfl⟩
      obtain ⟨host, setting, start, staged, begun, again⟩ := starts willing spares draws
      have reports : ∀ {draws start ticks}, Starts config (setOut tree draws engine) host setting start →
          ∃ report, runWith tree draws { scene with ticks } config = .ok report ∧
            Tells host setting start ticks report := by
        intro draws start ticks begun
        obtain ⟨report, after, ran, tells⟩ := run_returns begun { scene with ticks } entities
        refine ⟨report, ?_, tells⟩
        unfold setOut at ran
        unfold runWith
        dsimp only
        rw [spawned]
        dsimp only [bind, Except.bind]
        rw [ran]
      have logs : ∀ {draws start} (count : Nat), Starts config (setOut tree draws engine) host setting start →
          logged tree draws scene config count =
            .ok ((start.hostOf host).log ++ (List.range count).flatMap (linesOf host start)) := by
        intro draws start count begun
        unfold logged
        rw [spawned]
        exact congrArg outcome (undrained_run begun count)
      obtain ⟨shorter, first, tells⟩ := reports begun
      obtain ⟨longer, second, others⟩ := reports again
      have others := Tells.redrawn staged others
      refine ⟨_, shorter, longer, fun count => ⟨logs count begun, ?_⟩, first, tells.ticks, second, others.ticks,
        tells.extends others within, tells.chronicles fun _ => rfl, others.chronicles fun _ => rfl⟩
      rw [logs count again, lines_redrawn staged]

/-- The script prints the number of each tick, and a line is printed before while the content is loaded. -/
def countTree : File.Tree :=
  ⟨[(["scripts"], .directory true),
    (["scripts", "count.rhai"], .file "print(tick)".toUTF8.toList),
    (["quests"], .directory true),
    (["quests", "door.rhai"], .file "print(7)".toUTF8.toList)], []⟩

def countScene : Scene :=
  ⟨⟨"/"⟩, 2, Engine.standardInterval, []⟩

/-- Such draws always give the upper bound. -/
def highest : Script.Draws :=
  fun _ _ high => .ok high

/-- The line of the content is in no entry, each tick has its own number, and nobody asks what would be drawn. -/
theorem runWith_extends_count : (1 : UInt64) ≤ 2 ∧ Drawless countTree countScene.config ∧ ∃ log shorter longer,
    log 0 = ["7"] ∧ log 2 = ["7", "0", "1"] ∧
      runWith countTree .lowest { countScene with ticks := 1 } countScene.config = .ok shorter ∧
      shorter.results = [⟨0, ["0"]⟩] ∧
      runWith countTree highest { countScene with ticks := 2 } countScene.config = .ok longer ∧
      longer.results = [⟨0, ["0"]⟩, ⟨1, ["1"]⟩] ∧
      Extends shorter longer ∧ Chronicles log shorter ∧ Chronicles log longer := by
  have within : (1 : UInt64) ≤ 2 := by decide
  have drawless : Drawless countTree countScene.config := by decide +kernel
  have compares : Compares countTree countScene countScene.config .lowest highest 1 2
      (.ok (.create countScene.interval, [])) :=
    runWith_extends countTree countScene countScene.config (.inr drawless) within
  obtain ⟨log, shorter, longer, logs, first, -, second, -, further, told, also⟩ := compares
  have read : ∀ {count : Nat} {lines : List String},
      (logged countTree .lowest countScene countScene.config count).toOption = some lines → log count = lines := by
    intro count lines found
    rw [(logs count).1] at found
    exact Option.some.inj found
  have results : ∀ {draws : Script.Draws} {ticks : UInt64} {report : Report} {entries : List TickLog},
      runWith countTree draws { countScene with ticks } countScene.config = .ok report →
        (runWith countTree draws { countScene with ticks } countScene.config).toOption.map Report.results =
          some entries → report.results = entries := by
    intro draws ticks report entries ran found
    rw [ran] at found
    exact Option.some.inj found
  exact ⟨within, drawless, log, shorter, longer, read (by decide +kernel), read (by decide +kernel), first,
    results first (by decide +kernel), second, results second (by decide +kernel), further, told, also⟩

end Runs

end Scene

end ScriptHost

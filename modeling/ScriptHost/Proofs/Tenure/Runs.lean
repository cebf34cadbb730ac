/-
This file states over whole sessions that at most one runtime holds the context, and that every native tick has
it tick once if it runs.
-/
import ScriptHost.Proofs.Shutdown.Runs
import ScriptHost.Proofs.Tenure.Commands

namespace ScriptHost.Session.Tenure

open Shutdown (attempts Calm)

/-- The runtime of the host is not shut down. -/
def Live (world : World) (host : Nat) : Prop :=
  ∃ runtime, (world.hostOf host).runtime = some runtime ∧ runtime.state ≠ .shutDown

def Running (world : World) (host : Nat) : Prop :=
  ∃ runtime, (world.hostOf host).runtime = some runtime ∧ runtime.state = .running

variable {seen : Survey} {world : World} {stage : Stage} {host depth : Nat} {tree : File.Tree} {draws : Script.Draws}
  {commands : List (Command Operation)}

/-- The live runtime is the one that holds the context. -/
theorem live_iff (holds : Shows seen world) (stands : Stands stage seen) :
    Live world host ↔ stage.holder? = some host := by
  constructor
  · rintro ⟨runtime, found, live⟩
    exact stands.held (holds.engaged found) live
  · intro held
    obtain ⟨state, listener, engaged, live⟩ := Stage.engaged_live held
    obtain ⟨runtime, found, rfl, -⟩ := holds.runtime ((stands.holds host held).engaged.trans engaged)
    exact ⟨runtime, found, live⟩

/-- The running runtime is the one that holds the context in its running stage. -/
theorem running_iff (holds : Shows seen world) (stands : Stands stage seen) :
    Running world host ↔ ∃ subscription listener, stage = .running host subscription listener := by
  constructor
  · rintro ⟨runtime, found, running⟩
    have engaged := holds.engaged found
    rw [running] at engaged
    have held := stands.held engaged nofun
    have same := (stands.holds host held).engaged.symm.trans engaged
    cases stage with
    | idle => cases held
    | created => cases same
    | running place subscription listener =>
        cases held
        exact ⟨subscription, listener, rfl⟩
  · rintro ⟨subscription, listener, rfl⟩
    obtain ⟨runtime, found, running, -⟩ := holds.runtime (stands.holds host rfl).engaged
    exact ⟨runtime, found, running⟩

/-- In an empty world nobody holds the context. -/
theorem create_stands : Stands .idle (survey (World.create tree draws)) := by
  have standings : ∀ host, (survey (World.create tree draws)).standing host = standing .core :=
    fun host => congrArg standing (Shutdown.create_hostOf host)
  constructor
  · rfl
  · rfl
  · exact fun host absurd => nomatch absurd
  · intro host _ state listener engaged
    rw [standings] at engaged
    cases engaged
  · exact fun entry absurd => nomatch absurd
  · exact List.nodup_nil
  · intro host
    rw [standings]
    rfl

/-- After every command from outside the session stands in some stage. -/
theorem attempts_stands (holds : Shows seen world) (stands : Stands stage seen)
    (directs : ∀ command ∈ commands, Directs command.operation)
    (calm : ∀ result ∈ (attempts depth commands world).1, Calm result) :
    ∃ later next, Shows later (attempts depth commands world).2 ∧ Stands next later := by
  induction commands generalizing world seen stage with
  | nil => exact ⟨seen, stage, holds, stands⟩
  | cons command rest ih =>
      have first : Calm ((Perform.perform (caller depth) command).run.run world).1 :=
        calm _ List.mem_cons_self
      obtain ⟨later, next, holds, stands, -⟩ :=
        perform_leads holds stands (directs command List.mem_cons_self) first
      exact ih holds stands (fun other member => directs other (List.mem_cons_of_mem _ member))
        fun result member => calm result (List.mem_cons_of_mem _ member)

section Standing

variable (holds : Shows seen world) (stands : Stands stage seen)

include holds stands

/-- There is one live runtime at most. -/
theorem live_once {other : Nat} (one : Live world host) (two : Live world other) : host = other :=
  Option.some.inj (((live_iff holds stands).mp one).symm.trans ((live_iff holds stands).mp two))

/-- The context is claimed exactly while a runtime is live. -/
theorem claimed_iff : world.claimed = true ↔ ∃ host, Live world host := by
  rw [holds.claimed_eq, stands.claimed, Option.isSome_iff_exists]
  exact exists_congr fun host => (live_iff holds stands).symm

/-- A native tick begins one tick if somebody runs. -/
theorem native_ticks (index : UInt64) :
    (∀ host, Running world host → stage.ticks world.engine.interval index =
      [(host, Tick.signalOf world.engine.interval index)]) ∧
    ((∀ host, ¬ Running world host) → stage.ticks world.engine.interval index = []) := by
  constructor
  · intro host running
    obtain ⟨subscription, listener, rfl⟩ := (running_iff holds stands).mp running
    rfl
  · intro nobody
    cases stage with
    | idle => rfl
    | created => rfl
    | running host subscription listener =>
        exact absurd ((running_iff holds stands).mpr ⟨subscription, listener, rfl⟩) (nobody host)

end Standing

/-- After any session at most one runtime is not shut down, and the context is claimed just if there is one. Of the
commands that may follow, making a runtime fails just if the context is claimed, and only the command that shuts the
holder down or drops it takes the claim from it. A native tick has the running runtime tick once with its index, or
nobody if no runtime runs, and nothing else has anybody tick. -/
theorem context_held_once (depth : Nat) {commands : List (Command Operation)}
    (directs : ∀ command ∈ commands, Directs command.operation)
    (calm : ∀ result ∈ (attempts depth commands (World.create tree draws)).1, Calm result) :
    let world := (attempts depth commands (World.create tree draws)).2
    (∀ host other, Live world host → Live world other → host = other) ∧
      (world.claimed = true ↔ ∃ host, Live world host) ∧
      ∀ command, Directs command.operation →
        let performed := (Perform.perform (caller depth) command).run.run world
        Calm performed.1 →
          (∀ settings base factories, command.operation = .newRuntime settings base factories →
            Perform.configOf settings base ≠ none →
              performed.1 = .ok (if world.claimed then .problem .alreadyClaimed else .truth true)) ∧
          (∀ host, Live world host → Live performed.2 host ∧ performed.2.claimed = true ∨
            (command.operation = .shutDownRuntime ∨ command.operation = .dropRuntime) ∧
              world.names.hosts.lookup command.host = some host) ∧
          (∀ index, command.operation.nativeTick? = some index →
            (∀ host, Running world host →
              ticks performed.2 = (host, Tick.signalOf world.engine.interval index) :: ticks world) ∧
            ((∀ host, ¬ Running world host) → ticks performed.2 = ticks world)) ∧
          (command.operation.nativeTick? = none → ticks performed.2 = ticks world) := by
  intro world
  -- Every session leads to some stage, and the stage answers for the runtimes and the context.
  obtain ⟨seen, stage, holds, stands⟩ : ∃ seen stage, Shows seen world ∧ Stands stage seen :=
    attempts_stands (.self (.create tree draws)) create_stands directs calm
  refine ⟨fun _ _ => live_once holds stands, claimed_iff holds stands, ?_⟩
  intro command directs performed calm
  obtain ⟨later, next, holds', stands', kept, ticked⟩ := perform_leads holds stands directs calm
  have began : ticks performed.2 = begins command.operation stage world ++ ticks world := by
    rw [holds.ticks_eq, ← ticked]
    exact holds'.ticks_eq
  refine ⟨?_, ?_, ?_, ?_⟩
  · rintro settings base factories making configured
    obtain ⟨config, configured⟩ := Option.ne_none_iff_exists'.mp configured
    obtain ⟨title, name, operation⟩ := command
    obtain rfl : operation = _ := making
    rw [holds.claimed_eq]
    exact newRuntime_answers holds name configured directs.factories calm
  · intro host live
    obtain held | stopped := kept host ((live_iff holds stands).mp live)
    · have alive := (live_iff holds' stands').mpr held
      exact .inl ⟨alive, (claimed_iff holds' stands').mpr ⟨host, alive⟩⟩
    · rw [← holds.named_eq] at stopped
      exact .inr stopped
  · intro index announced
    obtain ⟨one, none⟩ := native_ticks holds stands index
    rw [begins, announced, Option.elim_some] at began
    exact ⟨fun host running => by rw [began, one host running]; rfl, fun nobody => by rw [began, none nobody]; rfl⟩
  · intro silent
    rw [began, begins, silent]
    rfl

/-- With every turn the lamp counts the entities. -/
def lampFactory : Factory Operation where
  ask script :=
    if script = "lamp" then
      ⟨[], .made ⟨Shutdown.still, Shutdown.still, ⟨fun _ => ⟨[⟨"", "", .entityCount⟩], .normal⟩⟩, Shutdown.still⟩⟩
    else ⟨[], .declined⟩

/-- The lamp only counts entities, so its factory is quiet. -/
theorem lampFactory_within : lampFactory.Within .quiet := by
  constructor
  · intro script command member
    dsimp only [lampFactory] at member
    split at member <;> cases member
  · intro script hooks made
    dsimp only [lampFactory] at made
    split at made
    · cases made
      refine ⟨fun _ _ absurd => (nomatch absurd), fun _ _ absurd => (nomatch absurd), fun _ command member => ?_,
        fun _ _ absurd => (nomatch absurd)⟩
      obtain rfl := List.mem_singleton.mp member
      exact .engine rfl
    · cases made

/-- The second runtime comes when the first has been shut down, and the first is dropped after that. -/
def successionRun : List (Command Operation) :=
  [⟨"", "", .spawn none [("scripts", "[\"lamp\"]")]⟩,
    ⟨"", "first", .newRuntime none ⟨""⟩ [lampFactory]⟩, ⟨"", "first", .startRuntime⟩,
    ⟨"", "", .publishRaw "logic_tick" []⟩, ⟨"", "", .publish (.logicTick 1)⟩,
    ⟨"", "second", .newRuntime none ⟨""⟩ []⟩, ⟨"", "first", .shutDownRuntime⟩, ⟨"", "first", .shutDownRuntime⟩,
    ⟨"", "second", .newRuntime none ⟨""⟩ [lampFactory]⟩, ⟨"", "first", .dropRuntime⟩,
    ⟨"", "second", .startRuntime⟩]

def successionWorld : World :=
  (attempts 3 successionRun (World.create ⟨[], []⟩ .lowest)).2

/-- The first runtime ticked once, and now the second one does. -/
theorem context_held_once_succession :
    (∀ command ∈ successionRun, Directs command.operation) ∧
    (∀ result ∈ (attempts 3 successionRun (World.create ⟨[], []⟩ .lowest)).1, Calm result) ∧
    successionWorld.claimed = true ∧ (∀ host, Live successionWorld host → host = 2) ∧
    (ticks successionWorld).map Prod.fst = [1] ∧
    let ticked := (Perform.perform (caller 3) ⟨"", "", .publish (.logicTick 2)⟩).run.run successionWorld
    Calm ticked.1 ∧
      ticks ticked.2 = (2, Tick.signalOf successionWorld.engine.interval 2) :: ticks successionWorld := by
  have directs : ∀ command ∈ successionRun, Directs command.operation := by
    have lamps : ∀ factory ∈ [lampFactory], factory.Within .quiet := by
      intro factory member
      obtain rfl := List.mem_singleton.mp member
      exact lampFactory_within
    have nobody : ∀ factory ∈ ([] : List (Factory Operation)), factory.Within .quiet :=
      fun factory absurd => nomatch absurd
    simp only [successionRun, List.forall_mem_cons]
    exact ⟨.quiet (.engine rfl), .newRuntime _ _ _ lamps, .startRuntime, .publishRaw _ _, .publish _,
      .newRuntime _ _ _ nobody, .shutDownRuntime, .shutDownRuntime, .newRuntime _ _ _ lamps, .dropRuntime,
      .startRuntime, fun command absurd => nomatch absurd⟩
  have calm : ∀ result ∈ (attempts 3 successionRun (World.create ⟨[], []⟩ .lowest)).1, Calm result := by decide +kernel
  have reached : ((successionWorld.hostOf 2).runtime.map Runtime.state) = some .running := by decide +kernel
  obtain ⟨runtime, found, state⟩ := Option.map_eq_some_iff.mp reached
  have running : Running successionWorld 2 := ⟨runtime, found, state⟩
  have live : Live successionWorld 2 := ⟨runtime, found, by rw [state]; exact nofun⟩
  obtain ⟨once, claimed, follows⟩ := context_held_once 3 directs calm
  have still :
      Calm ((Perform.perform (caller 3) ⟨"", "", .publish (.logicTick 2)⟩).run.run successionWorld).1 := by
    decide +kernel
  have ticked := follows ⟨"", "", .publish (.logicTick 2)⟩ (.publish _) still
  exact ⟨directs, calm, claimed.mpr ⟨2, live⟩, fun host other => once host 2 other live, by decide +kernel, still,
    (ticked.2.2.1 2 rfl).1 2 running⟩

end ScriptHost.Session.Tenure

/-
This file shows of each command from outside which stage follows and which ticks begin.
-/
import ScriptHost.Proofs.Shutdown.Operations
import ScriptHost.Proofs.Tenure.Lives
import ScriptHost.Proofs.Tenure.Ticking

namespace ScriptHost.Session

/-- This is the index of the native tick that the command announces. -/
def Operation.nativeTick? : Operation → Option UInt64
  | .publish (.logicTick index) => some index
  | .publishRaw name payload => Tenure.tickIndex? name payload
  | _ => none

namespace Tenure

/-- From outside runtimes are made, started, shut down and dropped, and events are sent. All that hooks and
factories do is quiet, and so are other commands. -/
inductive Directs : Operation → Prop
  | newRuntime (settings : Option Json.Form) (base : File.Pathname) (factories : List (Factory Operation))
      (within : ∀ factory ∈ factories, factory.Within .quiet) : Directs (.newRuntime settings base factories)
  | startRuntime : Directs .startRuntime
  | shutDownRuntime : Directs .shutDownRuntime
  | dropRuntime : Directs .dropRuntime
  | publish (event : Event.Builtin) : Directs (.publish event)
  | publishRaw (event : String) (payload : Event.Payload) : Directs (.publishRaw event payload)
  | quiet {operation : Operation} (within : Within .quiet operation) : Directs operation

/-- A directed runtime brings quiet factories. -/
theorem Directs.factories {settings : Option Json.Form} {base : File.Pathname}
    {factories : List (Factory Operation)} (directs : Directs (.newRuntime settings base factories)) :
    ∀ factory ∈ factories, factory.Within .quiet := by
  cases directs with
  | newRuntime _ _ _ within => exact within
  | quiet within =>
      cases within with
      | engine engines => cases engines
      | look looks => cases looks
      | calm _ calm => cases calm

/-- Quiet commands announce no ticks. -/
theorem quiet_silent {operation : Operation} (within : Within .quiet operation) :
    operation.nativeTick? = none := by
  cases operation with
  | publish event =>
      cases within with
      | engine engines => cases engines
      | look looks => cases looks
      | calm _ calm => cases calm
      | publish allowed => cases allowed
  | publishRaw event payload =>
      cases within with
      | engine engines => cases engines
      | look looks => cases looks
      | calm _ calm => cases calm
      | publishRaw allowed => cases allowed
  | _ => rfl

/-- Whoever holds the context goes on to hold it, unless the command shuts it down or drops it by its name. -/
def Kept (command : Command Operation) (seen : Survey) (stage next : Stage) : Prop :=
  ∀ host, stage.holder? = some host → next.holder? = some host ∨
    (command.operation = .shutDownRuntime ∨ command.operation = .dropRuntime) ∧
      seen.named.lookup command.host = some host

/-- Everything stands as it should when a command is done, and these ticks have begun. -/
def Done (command : Command Operation) (seen : Survey) (stage : Stage) (recent : List (Nat × Tick.Signal))
    (after : World) : Prop :=
  ∃ later next, Shows later after ∧ Stands next later ∧ Kept command seen stage next ∧
    later.ticks = recent ++ seen.ticks

variable {seen : Survey} {world : World} {stage : Stage} {place depth : Nat} {command : Command Operation}
  {good : World → Prop}

/-- A command that keeps the stage keeps the holder. -/
theorem kept_self (command : Command Operation) (seen : Survey) (stage : Stage) : Kept command seen stage stage :=
  fun _ held => .inl held

/-- A command that changes nothing that counts. -/
theorem done_silent (holds : Shows seen world) (stands : Stands stage seen) : Done command seen stage [] world :=
  ⟨seen, stage, holds, stands, kept_self command seen stage, rfl⟩

/-- A command that keeps the stage is done when its ticks have begun. -/
theorem done_ticks {recent : List (Nat × Tick.Signal)} (holds : Shows (seen.begin recent) world)
    (stands : Stands stage seen) : Done command seen stage recent world :=
  ⟨seen.begin recent, stage, holds, stands.begin recent, kept_self command seen stage, rfl⟩

/-- An operation on a runtime leads on if it does for the runtime that is named. -/
theorem withRuntime_leads (name : String) {body : Nat → Runtime → Run Answer} (holds : good world)
    (each : ∀ place runtime, world.names.hosts.lookup name = some place →
      (world.hostOf place).runtime = some runtime → Leads good (body place runtime) world) :
    Leads good (Perform.withRuntime name body) world := by
  unfold Perform.withRuntime
  refine leads_get ?_
  split
  · exact leads_pure holds
  · next place named =>
      unfold Leads
      rw [Run.ends_bind, Run.ends_runtime?, Run.followed_ok]
      split
      · next runtime found => exact each place runtime named found
      · exact leads_pure holds

/-- A runtime that is not shut down holds the context. -/
theorem Stands.held (stands : Stands stage seen) {state : RuntimeState} {listener : Option Nat}
    (engaged : (seen.standing place).engaged = some (state, listener)) (live : state ≠ .shutDown) :
    stage.holder? = some place := by
  by_contra other
  exact live (stands.released place other state listener engaged)

/-- The survey tells how far a runtime is and which listener drives it. -/
theorem Shows.engaged (holds : Shows seen world) {runtime : Runtime}
    (found : (world.hostOf place).runtime = some runtime) :
    (seen.standing place).engaged = some (runtime.state, runtime.listener) := by
  rw [← holds.standing_eq place]
  exact congrArg (Option.map _) found

/-- A runtime is started: it runs from then on, with one subscription and one listener. -/
theorem startRuntime_leads (holds : Shows seen world) (stands : Stands stage seen)
    (named : seen.named.lookup command.host = some place) {runtime : Runtime}
    (found : (world.hostOf place).runtime = some runtime) :
    Leads (Done command seen stage []) (Perform.startRuntime (caller depth) place runtime) world := by
  have engaged := holds.engaged found
  unfold Perform.startRuntime
  cases reached : runtime.state with
  | shutDown => exact leads_pure (done_silent holds stands)
  | running => exact leads_pure (done_silent holds stands)
  | created =>
      rw [reached] at engaged
      have held := stands.held engaged nofun
      have waiting := (stands.holds place held).engaged.symm.trans engaged
      cases stage with
      | idle => cases held
      | running => cases waiting
      | created host =>
          obtain rfl : host = place := Option.some.inj held
          obtain ⟨created, silent, -, -⟩ : (Stage.created host).Holds (seen.standing host) :=
            stands.holds host held
          have starting : Leads (fun after => ∃ later, (∃ subscription listener,
              later = seen.started host subscription listener) ∧ Shows later after)
              (Lifecycle.whileUsing (caller depth) host (Lifecycle.start (caller depth) host)) world := by
            refine whileUsing_leads _ holds (stands.lookup named).1 ?_ ?_
            · rintro _ ⟨subscription, listener, rfl⟩
              exact (stands.started subscription listener).lookup named
            · intro used holds
              refine (start_leads holds (stands.lookup named).1 ?_ ?_).mono ?_
              · simpa [Survey.alter, Standing.used, Stage.engaged] using created
              · simpa [Survey.alter, Standing.used, Stage.subscription] using silent
              · rintro after ⟨subscription, listener, holds⟩
                rw [Survey.started_used] at holds
                exact ⟨_, ⟨subscription, listener, rfl⟩, holds⟩
          have done : ∀ after, (∃ later, (∃ subscription listener,
              later = seen.started host subscription listener) ∧ Shows later after) →
                Done command seen (.created host) [] after := by
            rintro after ⟨_, ⟨subscription, listener, rfl⟩, holds⟩
            exact ⟨_, _, holds, stands.started subscription listener, fun _ => .inl, rfl⟩
          exact starting.bind done fun _ after reached => leads_pure (done after reached)

/-- Whoever holds the context gives it up, and nobody else does anything. -/
theorem stopRuntime_leads (holds : Shows seen world) (stands : Stands stage seen)
    (stops : command.operation = .shutDownRuntime)
    (named : seen.named.lookup command.host = some place) {runtime : Runtime}
    (found : (world.hostOf place).runtime = some runtime) :
    Leads (Done command seen stage [])
      (Lifecycle.whileUsing (caller depth) place (Lifecycle.shutDown (caller depth) place runtime)) world := by
  have engaged := holds.engaged found
  obtain ⟨present, kept⟩ := stands.lookup named
  by_cases shut : runtime.state = .shutDown
  · refine (whileUsing_leads (fun later => later = seen) holds present ?_ ?_).mono ?_
    · rintro _ rfl
      exact ⟨present, kept⟩
    · exact fun used holds => leads_run (shutDown_again _ shut) ⟨seen, rfl, holds⟩
    · rintro after ⟨_, rfl, shown⟩
      exact done_silent shown stands
  · have held := stands.held engaged shut
    refine (whileUsing_leads (fun later => later = seen.stopped place) holds present ?_ ?_).mono ?_
    · rintro _ rfl
      exact (stands.stopped held).lookup named
    · intro used holds
      refine (shutDown_leads holds present ?_ shut).mono fun after holds => ⟨_, rfl, ?_⟩
      · simpa [Survey.alter, Standing.used] using engaged
      · rwa [Survey.stopped_used] at holds
    · rintro after ⟨_, rfl, holds⟩
      refine ⟨_, _, holds, stands.stopped held, fun host holder => .inr ⟨.inl stops, ?_⟩, rfl⟩
      rw [named, ← held, holder]

/-- A host that has lost its last name goes. -/
theorem forget_leads (holds : Shows seen world) (stands : Stands stage seen) (present : place < seen.length)
    (absent : place ∉ seen.named.map Prod.snd) :
    Leads (fun after => ∃ later, Shows later after ∧ Stands (stage.without place) later ∧ later.ticks = seen.ticks)
      (Lifecycle.forget (caller depth) place) world := by
  have unnamed : Shows (seen.alter place .unnamed)
      (world.putHost place { world.hostOf place with named := false }) :=
    holds.put present rfl rfl (holds.within.sources place)
  have nameless : ((seen.alter place .unnamed).standing place).named = false := by
    simp [Survey.alter, Standing.unnamed]
  have freed : Leads _ (Lifecycle.free (caller depth) place) _ :=
    free_leads unnamed (stands.unnamed absent) present nameless
  exact leads_modifyHost freed

/-- Names of hosts may change when the survey changes with them. -/
theorem Shows.renamed (holds : Shows seen world) (hosts : List (String × Nat)) :
    Shows { seen with named := hosts } { world with names := { world.names with hosts } } := by
  refine ⟨holds.within.rename _, ?_⟩
  rw [← holds.same]
  rfl

/-- A runtime that is dropped gives the context up, if it held it. -/
theorem dropRuntime_leads (holds : Shows seen world) (stands : Stands stage seen)
    (drops : command.operation = .dropRuntime) :
    Leads (Done command seen stage []) (Perform.dropRuntime (caller depth) command.host) world := by
  have named := holds.named_eq
  unfold Perform.dropRuntime
  refine leads_get ?_
  rw [named]
  cases found : seen.named.lookup command.host with
  | none => exact leads_pure (done_silent holds stands)
  | some place =>
      have forgotten : Shows (seen.forgotten command.host) ((Run.forgetHost command.host).run.run world).2 := by
        have renamed := holds.renamed (world.names.hosts.filter fun entry => entry.1 != command.host)
        rw [Survey.forgotten, ← named]
        exact renamed
      have gone : Leads _ (Lifecycle.forget (caller depth) place) _ :=
        forget_leads forgotten (stands.forgotten command.host) (stands.lookup found).1
          (stands.forgotten_absent found)
      have done : ∀ after, (∃ later, Shows later after ∧ Stands (stage.without place) later ∧
          later.ticks = seen.ticks) → Done command seen stage [] after := by
        rintro after ⟨later, holds, stands, ticks⟩
        refine ⟨later, _, holds, stands, fun host held => ?_, ticks⟩
        unfold Stage.without
        split
        · next last => exact .inr ⟨.inr drops, by rw [found, ← last, held]⟩
        · exact .inl held
      exact Leads.step rfl (gone.bind done fun _ after reached => leads_pure (done after reached))

/-- Factories that are added get the next numbers, and all factories are quiet. -/
theorem addFactories_run (index : Nat) {factories : List (Factory Operation)}
    (within : ∀ factory ∈ factories, factory.Within .quiet)
    (known : ∀ state ∈ world.factories, state.factory.Within .quiet) :
    ∃ ids restocked, (Lifecycle.addFactories index factories).run.run world = (.ok ids, world.restock restocked) ∧
      ∀ state ∈ restocked, state.factory.Within .quiet := by
  induction factories generalizing index world with
  | nil => exact ⟨[], world.factories, rfl, known⟩
  | cons factory rest ih =>
      obtain ⟨first, others⟩ := List.forall_mem_cons.mp within
      have added : ∀ state ∈ (world.restock (world.factories ++ [⟨factory, index, 0⟩])).factories,
          state.factory.Within .quiet := by
        intro state member
        obtain old | new := List.mem_append.mp member
        · exact known state old
        · rw [List.mem_singleton.mp new]
          exact first
      obtain ⟨ids, restocked, ran, stocked⟩ := ih (index + 1) others added
      refine ⟨world.factories.length :: ids, restocked, ?_, stocked⟩
      change (Lifecycle.addFactories (index + 1) rest >>= fun ids => pure (world.factories.length :: ids) :
        Run (List Nat)).run.run (world.restock (world.factories ++ [⟨factory, index, 0⟩])) = _
      rw [Stateful.run_bind, ran]
      rfl

/-- A new host takes the context and the name. -/
def arrive (world : World) (name : String) (factories : List FactoryState) (host : Host) : World :=
  { world with
    claimed := true
    factories
    hosts := world.hosts ++ [host]
    names := { world.names with
      hosts := (name, world.hosts.length) :: world.names.hosts.filter fun entry => entry.1 != name } }

/-- The survey of a world with a new host has its runtime created, and the context taken. -/
theorem Shows.arrive (holds : Shows seen world) (name : String) {factories : List FactoryState}
    (stocked : ∀ state ∈ factories, state.factory.Within .quiet) (chain : List Nat) (cap : Nat)
    (runtime : Runtime) (created : runtime.state = .created) (undriven : runtime.listener = none) :
    Shows (seen.joined name) (Tenure.arrive world name factories (.create chain cap (some runtime))) := by
  have hosts : ∀ id, (Tenure.arrive world name factories (.create chain cap (some runtime))).hostOf id =
      if id = world.hosts.length then .create chain cap (some runtime) else world.hostOf id :=
    World.append_hostOf rfl
  constructor
  · refine ⟨fun id => ?_, holds.within.bridge, fun id => ?_, stocked⟩
    · change ∀ slot ∈ ((Tenure.arrive world name factories
        (.create chain cap (some runtime))).hostOf id).registry.slots, _
      rw [hosts]
      split
      · exact fun slot absurd => nomatch absurd
      · exact holds.within.receivers id
    · rw [hosts]
      split
      · exact .empty
      · exact holds.within.sources id
  · have standings : (fun id => standing
        ((Tenure.arrive world name factories (.create chain cap (some runtime))).hostOf id)) =
        Function.update (survey world).standing world.hosts.length .fresh := by
      funext id
      rw [hosts]
      by_cases last : id = world.hosts.length
      · rw [if_pos last, last, Function.update_self, standing, Shutdown.engaged, Host.create, Option.map_some,
          created, undriven]
        rfl
      · rw [if_neg last, Function.update_of_ne last]
        rfl
    rw [← holds.same, survey, standings]
    simp [Tenure.arrive, Survey.joined, Survey.forgotten, survey, ticks]

/-- A runtime is created when nobody has claimed the context. -/
theorem create_run (config : Config) {factories : List (Factory Operation)} {ids : List Nat}
    {restocked : List FactoryState} (unclaimed : world.claimed = false)
    (ran : (Lifecycle.addFactories 0 factories).run.run world = (.ok ids, world.restock restocked)) :
    (Lifecycle.create config factories).run.run world = (.ok (some world.hosts.length),
      { world.restock restocked with
        claimed := true
        hosts := world.hosts ++ [.create ids (max 1 config.maxBindEntities.toNat)
          (some (Runtime.create world.tree config))] }) := by
  unfold Lifecycle.create
  rw [Stateful.run_get, unclaimed, if_neg nofun, Stateful.run_get, Stateful.run_bind, ran]
  rfl

/-- A runtime that comes takes the context and the name, and whoever had the name before is forgotten. -/
theorem newRuntime_run (call : Caller) (name : String) (holds : Shows seen world)
    (unclaimed : seen.claimed = false) {settings : Option Json.Form} {base : File.Pathname} {config : Config}
    {factories : List (Factory Operation)}
    (configured : Perform.configOf settings base = some config)
    (within : ∀ factory ∈ factories, factory.Within .quiet) :
    ∃ after, Shows (seen.joined name) after ∧
      (Perform.newRuntime call name settings base factories).run.run world =
        (match seen.named.lookup name with
          | some former => Lifecycle.forget call former >>= fun _ => pure (.truth true)
          | none => pure (.truth true) : Run Answer).run.run after := by
  obtain ⟨ids, restocked, ran, stocked⟩ := addFactories_run 0 within holds.within.factories
  have created := create_run config (holds.claimed_eq.trans unclaimed) ran
  refine ⟨_, holds.arrive name stocked ids (max 1 config.maxBindEntities.toNat)
    (Runtime.create world.tree config) rfl rfl, ?_⟩
  unfold Perform.newRuntime
  rw [configured]
  dsimp only
  rw [Stateful.run_bind, created, ← holds.named_eq]
  rfl

/-- As long as the context is held, no other runtime comes. -/
theorem newRuntime_refused (call : Caller) (name : String) (claimed : world.claimed = true)
    {settings : Option Json.Form} {base : File.Pathname} {config : Config} (factories : List (Factory Operation))
    (configured : Perform.configOf settings base = some config) :
    (Perform.newRuntime call name settings base factories).run.run world =
      (.ok (.problem .alreadyClaimed), world) := by
  have refused : (Lifecycle.create config factories).run.run world = (.ok none, world) := by
    unfold Lifecycle.create
    rw [Stateful.run_get, claimed, if_pos rfl]
    rfl
  unfold Perform.newRuntime
  rw [configured]
  dsimp only
  rw [Stateful.run_bind, refused]
  rfl

/-- Forgetting a host returns, whatever its receivers raise. -/
theorem forget_sure (call : Caller) (place : Nat) : Shutdown.Sure (Lifecycle.forget call place) :=
  (Shutdown.sure_returns fun _ => ⟨_, rfl⟩ : Shutdown.Sure (Run.modifyHost place _)).bind
    fun _ => Shutdown.free_sure

/-- The answer tells whether the context was held. -/
theorem newRuntime_answers (holds : Shows seen world) (name : String) {settings : Option Json.Form}
    {base : File.Pathname} {config : Config} {factories : List (Factory Operation)}
    (configured : Perform.configOf settings base = some config)
    (within : ∀ factory ∈ factories, factory.Within .quiet) :
    (Perform.newRuntime (caller depth) name settings base factories).Ends world fun result _ =>
      Shutdown.Calm result → result = .ok (if seen.claimed then .problem .alreadyClaimed else .truth true) := by
  cases claimed : seen.claimed with
  | true =>
      unfold Run.Ends
      rw [newRuntime_refused _ name (holds.claimed_eq.trans claimed) factories configured]
      exact fun _ => rfl
  | false =>
      obtain ⟨after, -, ran⟩ := newRuntime_run (caller depth) name holds claimed configured within
      unfold Run.Ends
      rw [ran]
      cases seen.named.lookup name with
      | none => exact fun _ => rfl
      | some former =>
          have forgotten := forget_sure (caller depth) former after
          dsimp only
          rw [Stateful.run_bind]
          revert forgotten
          rcases (Lifecycle.forget (caller depth) former).run.run after with ⟨raised | value, last⟩
          · exact fun broken mild => absurd mild (broken raised rfl)
          · exact fun _ _ => rfl

/-- A new runtime holds the context, unless somebody holds it already. -/
theorem newRuntime_leads (holds : Shows seen world) (stands : Stands stage seen) {settings : Option Json.Form}
    {base : File.Pathname} {factories : List (Factory Operation)}
    (within : ∀ factory ∈ factories, factory.Within .quiet) :
    Leads (Done command seen stage [])
      (Perform.newRuntime (caller depth) command.host settings base factories) world := by
  cases configured : Perform.configOf settings base with
  | none =>
      unfold Perform.newRuntime
      rw [configured]
      exact leads_pure (done_silent holds stands)
  | some config =>
      cases claimed : seen.claimed with
      | true =>
          have refused := newRuntime_refused (caller depth) command.host (holds.claimed_eq.trans claimed) factories
            configured
          exact leads_run refused (done_silent holds stands)
      | false =>
          have nobody := stands.claimed.symm.trans claimed
          cases stage with
          | created => cases nobody
          | running => cases nobody
          | idle =>
              obtain ⟨after, shown, ran⟩ :=
                newRuntime_run (caller depth) command.host holds claimed configured within
              have joined := stands.joined command.host
              unfold Leads Run.Ends
              rw [ran]
              cases found : seen.named.lookup command.host with
              | none => exact fun _ => ⟨_, _, shown, joined, fun _ absurd => (nomatch absurd), rfl⟩
              | some former =>
                  obtain ⟨inside, -⟩ := stands.lookup found
                  have absent : former ∉ (seen.joined command.host).named.map Prod.snd := by
                    intro mentioned
                    obtain last | other := List.mem_cons.mp mentioned
                    · exact absurd inside (by rw [last]; exact Nat.lt_irrefl _)
                    · exact stands.forgotten_absent found other
                  have gone : Leads _ (Lifecycle.forget (caller depth) former) after :=
                    forget_leads shown joined (Nat.lt_succ_of_lt inside) absent
                  have done : ∀ after, (∃ later, Shows later after ∧
                      Stands ((Stage.created seen.length).without former) later ∧
                        later.ticks = (seen.joined command.host).ticks) → Done command seen .idle [] after := by
                    rintro after ⟨later, holds, stands, ticks⟩
                    exact ⟨later, _, holds, stands, fun _ absurd => (nomatch absurd), ticks⟩
                  exact gone.bind done fun _ after reached => leads_pure (done after reached)

/-- The ticks that begin with a command from outside. -/
def begins (operation : Operation) (stage : Stage) (world : World) : List (Nat × Tick.Signal) :=
  operation.nativeTick?.elim [] (stage.ticks world.engine.interval)

/-- An event that is sent has the running runtime tick if it is a native tick. -/
theorem publish_leads (holds : Shows seen world) (stands : Stands stage seen) (name : String)
    (payload : Event.Payload) : Leads (Done command seen stage
      ((tickIndex? name payload).elim [] (stage.ticks world.engine.interval)))
      (do return .route (← Events.dispatch (caller depth) name payload) : Run Answer) world := by
  have told : Leads _ (Events.dispatch (caller depth) name payload) world := dispatch_leads holds stands name payload
  have done := told.mono fun _ holds => (done_ticks holds stands : Done command seen stage _ _)
  exact done.bind (fun _ => id) fun _ _ => leads_pure

/-- Every command from outside leads to a stage, and begins the ticks that are due in the stage before it. -/
theorem perform_leads (holds : Shows seen world) (stands : Stands stage seen)
    (directs : Directs command.operation) :
    Leads (Done command seen stage (begins command.operation stage world))
      (Perform.perform (caller depth) command) world := by
  obtain ⟨title, name, operation⟩ := command
  cases directs with
  | newRuntime settings base factories within => exact leads_get (newRuntime_leads holds stands within)
  | startRuntime =>
      refine leads_get (withRuntime_leads name (done_silent holds stands) fun place runtime named found => ?_)
      rw [holds.named_eq] at named
      exact startRuntime_leads holds stands named found
  | shutDownRuntime =>
      refine leads_get (withRuntime_leads name (done_silent holds stands) fun place runtime named found => ?_)
      rw [holds.named_eq] at named
      exact (stopRuntime_leads holds stands rfl named found).bind (fun _ => id) fun _ _ => leads_pure
  | dropRuntime => exact leads_get (dropRuntime_leads holds stands rfl)
  | publish event =>
      have announced : (Operation.publish event).nativeTick? = tickIndex? event.name event.encode := by
        rw [tickIndex?_encode]
        cases event <;> rfl
      rw [begins, announced]
      exact leads_get (publish_leads holds stands event.name event.encode)
  | publishRaw event payload => exact leads_get (publish_leads holds stands event payload)
  | quiet within =>
      have agrees : (Perform.perform (caller depth) ⟨title, name, operation⟩).Agrees (Diagonal (Shows seen)) :=
        Perform.perform_agrees (caller_heeding depth) (shows_heeds seen) within
      rw [begins, quiet_silent within]
      exact (leads_keeping agrees holds).mono fun _ holds => done_silent holds stands

end Tenure

end ScriptHost.Session

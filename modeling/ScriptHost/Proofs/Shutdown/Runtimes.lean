/-
This file follows runtimes from their creation to their end.
-/
import ScriptHost.Proofs.Session.Routine
import ScriptHost.Proofs.Shutdown.Binding
import ScriptHost.Proofs.Shutdown.Carrying

namespace ScriptHost.Session

namespace World

variable {world : World} {place : Nat}

/-- A host that is put in its place is found there again. -/
theorem putHost_self (present : place < world.hosts.length) (state : Host) :
    (world.putHost place state).hostOf place = state := by
  rw [putHost_hostOf present, if_pos rfl]

/-- A host that is put in its place gives way to the next one. -/
theorem putHost_putHost (state other : Host) :
    (world.putHost place state).putHost place other = world.putHost place other := by
  simp [putHost]

/-- A host that comes is the last one. -/
theorem append_hostOf {after : World} {state : Host} (appended : after.hosts = world.hosts ++ [state])
    (id : Nat) : after.hostOf id = if id = world.hosts.length then state else world.hostOf id := by
  unfold hostOf
  rw [appended, List.getElem?_append]
  split
  · next inside => rw [if_neg (Nat.ne_of_lt inside)]
  · next outside =>
      rw [List.getElem?_singleton, List.getElem?_eq_none (Nat.le_of_not_lt outside)]
      split
      · next last => rw [if_pos (by omega), Option.getD_some]
      · next beyond => rw [if_neg (by omega)]

end World

namespace Run

/-- A runtime is changed in its host. -/
theorem ends_modifyRuntime (place : Nat) (change : Runtime → Runtime) (world : World)
    (post : Except Raised Unit → World → Prop) :
    (modifyRuntime place change).Ends world post ↔ post (.ok ()) (world.putHost place
      { world.hostOf place with runtime := (world.hostOf place).runtime.map change }) := Iff.rfl

/-- A listener is added at the end, under the next number. -/
theorem ends_listen (place : Nat) (listener : Listener) (world : World)
    (post : Except Raised Nat → World → Prop) :
    (Events.listen place listener).Ends world post ↔ post (.ok ((world.hostOf place).source.count + 1))
      (world.putHost place
        { world.hostOf place with source := ((world.hostOf place).source.listen listener).1 }) := Iff.rfl

end Run

namespace Shutdown

open World (registryOf)

variable {host place : Nat} {call : Caller} {origin world after : World}

/-- Factories are no matter of any host. -/
theorem addFactories_idle (index : Nat) (factories : List (Factory Operation)) :
    Idle host (Lifecycle.addFactories index factories) := by
  induction factories generalizing index with
  | nil => exact idle_pure []
  | cons factory rest ih =>
      intro world
      have added : Idles host world
          { world with factories := world.factories ++ [⟨factory, index, 0⟩] } := idles_aside rfl rfl rfl
      have later : Idle host (do
          let ids ← Lifecycle.addFactories (index + 1) rest
          return world.factories.length :: ids) := (ih _).bind fun ids => idle_pure _
      exact added.trans (later _)

/-- A host that comes has neither receivers nor listeners. -/
theorem idles_append {chain : List Nat} {cap : Nat} {runtime : Option Runtime}
    (appended : after.hosts = world.hosts ++ [.create chain cap runtime])
    (names : after.names = world.names) (journal : after.journal = world.journal) : Idles host world after := by
  have length : world.hosts.length ≤ after.hosts.length := by rw [appended]; simp
  -- A host that is not there is read as the core, so the one that comes in its place changes nothing for it.
  have absent : world.hostOf world.hosts.length = .core := by
    unfold World.hostOf
    rw [List.getElem?_eq_none (Nat.le_refl _), Option.getD_none]
  have heard : ∀ id, listeners after id = listeners world id := by
    intro id
    unfold listeners
    rw [World.append_hostOf appended]
    split
    · next last => rw [last, absent]; rfl
    · rfl
  have reached : host ≠ world.hosts.length → engagement after host = engagement world host := by
    intro other
    unfold engagement
    rw [World.append_hostOf appended, if_neg other]
  refine ⟨length, ?_, fun housed => ?_, fun tuned => ?_, [], by rw [journal]; rfl, by simp⟩
  · unfold outlineOf World.registryOf
    change Outline.of (after.hostOf host).registry = Outline.of (world.hostOf host).registry
    rw [World.append_hostOf appended]
    split
    · next last => rw [last, absent]; rfl
    · rfl
  · refine ⟨Nat.lt_of_lt_of_le housed.core length, fun entry member => ?_,
      fun id listening member place name same => ?_⟩
    · rw [names] at member
      exact Nat.lt_of_lt_of_le (housed.named entry member) length
    · rw [heard] at member
      exact Nat.lt_of_lt_of_le (housed.listeners id listening member place name same) length
  · refine ⟨fun id other => by rw [heard]; exact tuned.apart id other, by rw [heard]; exact tuned.once, ?_, ?_⟩
    · intro listening member driving
      rw [heard] at member
      have before := tuned.known listening member driving
      rwa [reached]
      rintro rfl
      rw [listeners, absent] at member
      cases member
    · intro shut
      rw [journal] at shut
      have before := tuned.shut shut
      rw [heard, reached]
      · exact before
      · rintro rfl
        obtain ⟨⟨listener, engaged⟩, -⟩ := before
        rw [engagement, absent] at engaged
        cases engaged

/-- The number of a runtime that was created is the number of its host. -/
theorem create_idles (config : Config) (factories : List (Factory Operation)) (world : World) :
    (Lifecycle.create config factories).Ends world fun result after => Idles host world after ∧
      ∀ id, result = .ok (some id) → id < after.hosts.length := by
  unfold Lifecycle.create
  rw [Run.ends_bind, Run.ends_get, Run.followed_ok]
  split
  · exact ⟨.refl world, fun id same => by cases same⟩
  · have added : (Lifecycle.addFactories 0 factories).Ends world fun _ after => Idles host world after :=
      addFactories_idle 0 factories world
    rw [Run.ends_bind, Run.ends_get, Run.followed_ok, Run.ends_bind]
    apply Run.Ends.mono added
    intro result middle idles
    cases result with
    | error raised => exact ⟨idles, fun id same => by cases same⟩
    | ok chain =>
        refine ⟨idles.trans (idles_append rfl rfl rfl), fun id same => ?_⟩
        cases same
        change middle.hosts.length < (middle.hosts ++ [_]).length
        simp

/-- How far a runtime is decides what becomes of it. -/
def reached (state : RuntimeState) (runtime : Runtime) : Runtime :=
  { runtime with state }

/-- A runtime that gets further keeps its listener. -/
theorem engaged_reached (state : RuntimeState) (rest : Host) :
    engaged { rest with runtime := rest.runtime.map (reached state) } =
      (engaged rest).map fun engaged => (state, engaged.2) := by
  unfold engaged
  cases rest.runtime <;> rfl

/-- Hosts that rest go on to rest when their runtimes come to the same state. -/
theorem Rests.reached {state other : Host} (rests : Rests state other) (later : RuntimeState) :
    Rests { state with runtime := state.runtime.map (reached later) }
      { other with runtime := other.runtime.map (reached later) } where
  outline := rests.outline
  listeners := rests.listeners
  runtime := by rw [engaged_reached, engaged_reached, rests.runtime]

/-- A runtime that is driven has one listener more. -/
def driven (place : Nat) (state : Host) : Host :=
  { state with
    source := (state.source.listen (.scheduler place none)).1
    runtime := state.runtime.map fun runtime => { runtime with listener := some (state.source.count + 1) } }

/-- A runtime that is driven remembers which listener drives it. -/
theorem driven_engaged {state : Host} {listener : Option Nat}
    (created : engaged state = some (.created, listener)) :
    engaged (driven place state) = some (.created, some (state.source.count + 1)) := by
  unfold engaged driven at *
  cases runtime : state.runtime with
  | none => rw [runtime] at created; cases created
  | some runtime =>
      simp_all

/-- A runtime that is driven gets its listener before it is written down. -/
theorem ends_driven {α : Type} (present : place < world.hosts.length) (next : Run α)
    (post : Except Raised α → World → Prop) :
    (do let listener ← Events.listen place (.scheduler place none)
        Run.modifyRuntime place fun runtime => { runtime with listener := some listener }
        next).Ends world post ↔
      next.Ends (world.putHost place (driven place (world.hostOf place))) post := by
  rw [Run.ends_bind, Run.ends_listen, Run.followed_ok, Run.ends_bind, Run.ends_modifyRuntime,
    Run.followed_ok, World.putHost_putHost, World.putHost_self present]
  rfl

/-- A runtime that was only created is driven by one listener once it runs. -/
theorem idles_started (present : place < world.hosts.length) {listener : Option Nat}
    (created : engagement world place = some (.created, listener)) :
    Idles host world (world.putHost place
      { driven place (world.hostOf place) with
        runtime := (driven place (world.hostOf place)).runtime.map (reached .running) }) := by
  have listening : (driven place (world.hostOf place)).source.listeners = listeners world place ++
      [⟨(world.hostOf place).source.count + 1, .scheduler place none⟩] := rfl
  apply idles_putHost present
  · rfl
  · intro housed entry member
    rcases List.mem_append.mp member with old | new
    · exact housed.listeners place entry old
    · rw [List.mem_singleton.mp new]
      intro target name same
      cases same
      exact present
  · intro other tuned entry member
    rcases List.mem_append.mp member with old | new
    · exact tuned.apart place other entry old
    · rw [List.mem_singleton.mp new]
      simp [drives, other]
  · intro here tuned
    subst here
    have nobody : ∀ entry ∈ listeners world place, drives place entry = false := by
      intro entry member
      rw [← Bool.not_eq_true]
      intro driving
      obtain ⟨state, engaged, late⟩ := tuned.known entry member driving
      rw [created] at engaged
      cases engaged
      exact late rfl
    apply tuned.putHost present
    · dsimp only
      rw [listening, List.countP_append, undriven nobody]
      exact Nat.le_trans (Nat.le_of_eq (Nat.zero_add _)) List.countP_le_length
    · intro entry member driving
      rcases List.mem_append.mp member with old | new
      · rw [nobody entry old] at driving
        cases driving
      · rw [List.mem_singleton.mp new, engaged_reached, driven_engaged created]
        exact ⟨.running, rfl, by simp⟩
    · intro shut
      obtain ⟨⟨other, engaged⟩, -⟩ := tuned.shut shut
      rw [created] at engaged
      cases engaged

/-- A runtime comes to a state after something else has only rested. -/
theorem idles_reached {state : Host} (spares : (world.putHost place state).Spares after)
    (later : RuntimeState) (present : place < world.hosts.length) :
    Idles host (world.putHost place { state with runtime := state.runtime.map (reached later) })
      (after.putHost place
        { after.hostOf place with runtime := (after.hostOf place).runtime.map (reached later) }) := by
  obtain ⟨records, same⟩ := spares.journal
  have rests := rests_spared spares
  have here : Rests state (after.hostOf place) := by
    have rested := rests_hostOf rests place
    rwa [World.putHost_self present] at rested
  have hosts := Forall₂.set rests (here.reached later) place
  unfold World.putHost at hosts
  rw [List.set_set] at hosts
  apply idles_resting hosts
  · intro entry member
    change entry ∈ after.names.hosts at member
    rwa [spares.named] at member
  · refine ⟨_, same, fun entry member => ?_⟩
    obtain ⟨record, -, rfl⟩ := List.mem_map.mp member
    rfl

/-- A runtime that runs has its first pass. -/
theorem firstPass_passes (careful : Careful host call) (present : place < origin.hosts.length)
    (passage : Passage host [] True origin
      (world.putHost place
        { world.hostOf place with runtime := (world.hostOf place).runtime.map (reached .running) })) :
    Passes host [] origin world (do
      Lifecycle.setState place .running
      match ← Binding.bindAll call place with
      | .ok _ => return ()
      | .error error => Run.report (Lifecycle.bindRecord error)) := by
  unfold Passes Lifecycle.setState
  rw [Run.ends_bind, Run.ends_modifyRuntime, Run.followed_ok]
  apply (bindAll_passes careful present passage).bind
  intro report after passage
  cases report with
  | ok report => exact passes_pure passage ()
  | error error => exact (report_idle _).passes passage

/-- The listener is there before the runtime runs, and in between only files are looked at. -/
theorem initialize_passes (careful : Careful host call) (present : place < origin.hosts.length)
    {listener : Option Nat} (created : engagement world place = some (.created, listener))
    (passage : Passage host [] True origin world) :
    Passes host [] origin world (Lifecycle.start call place) := by
  unfold Lifecycle.start
  apply Passes.rested (rested_plain (Lifecycle.loadRoots_plain place _) world) passage
  intro _ loaded loading passage
  have hooking : (discard (Events.hookTicks place)).Ends loaded fun _ after => Rested host loaded after := by
    rw [ends_discard]
    exact hookTicks_rests loaded
  apply Passes.rested hooking passage
  intro _ hooked hooking passage
  have inside := passage.present present
  have rests := (loading.hosts place).trans (hooking.hosts place)
  have waiting : engagement hooked place = some (.created, listener) := rests.runtime.trans created
  have started : Idles host hooked _ := idles_started inside waiting
  have begun : ∀ seen, (hooked.putHost place (driven place (hooked.hostOf place))).Spares seen →
      Passage host [] True origin (seen.putHost place
        { seen.hostOf place with runtime := (seen.hostOf place).runtime.map (reached .running) }) :=
    fun seen spares => (passage.idle started).idle (idles_reached spares .running inside)
  unfold Passes
  rw [ends_driven inside, Run.ends_bind, Run.ends_runtime?, Run.followed_ok]
  split
  · next absent =>
      have listening : engaged (driven place (hooked.hostOf place)) =
          some (.created, some ((hooked.hostOf place).source.count + 1)) := driven_engaged waiting
      have self : ((hooked.putHost place (driven place (hooked.hostOf place))).hosts[place]?).getD .core =
          driven place (hooked.hostOf place) := World.putHost_self inside _
      rw [self] at absent
      rw [engaged, absent] at listening
      cases listening
  · next runtime found =>
      dsimp only
      split
      · have looked : (Watching.begin place runtime).Ends
            (hooked.putHost place (driven place (hooked.hostOf place))) fun result seen =>
              result = .ok () ∧ (hooked.putHost place (driven place (hooked.hostOf place))).Spares seen :=
          ⟨rfl, (Watching.begin_plain place runtime).spares _⟩
        rw [Run.ends_bind]
        apply Run.Ends.mono looked
        intro result seen ends
        obtain ⟨rfl, spares⟩ := ends
        exact firstPass_passes careful present (begun seen spares)
      · exact firstPass_passes careful present (begun _ (.refl _))

/-- Nobody drives a runtime that has been shut down. -/
structure Released (place : Nat) (world : World) : Prop where
  engaged : engagement world place = some (.shutDown, none)
  silent : ∀ listening ∈ listeners world place, drives place listening = false

/-- Nobody drives a runtime again while its host rests. -/
theorem Released.rested (released : Released place world) (rested : Rested host world after) :
    Released place after where
  engaged := (rested.hosts place).runtime.trans released.engaged
  silent listening member := released.silent listening ((rested.hosts place).listeners.subset member)

/-- A host that closes leaves its counts as they are. -/
theorem balance_closing (choose : Tick.Signal → Bool) (ids : List Nat) (journal : List Entry) :
    balance host choose (.listed host ids :: .shutDownBegan host :: journal) =
      balance host choose journal := by
  simp [balance, heeded, commanded, ticks]

/-- Closing a host does not run its loose units. -/
theorem spare_closing (choose : Tick.Signal → Bool) (ids : List Nat) (journal : List Entry) :
    spare host choose (.listed host ids :: .shutDownBegan host :: journal) = spare host choose journal := by
  simp [spare, ticks, units]

/-- All receivers leave a host that closes. -/
theorem closing_leaves (sound : Sound host world) (present : host < world.hosts.length)
    (released : Released host world) :
    Leaves host host (world.registryOf host).registered world (world.written host
      { world.registryOf host with registered := [] } [.listed host [], .shutDownBegan host]) := by
  have outline : outlineOf (world.written host { world.registryOf host with registered := [] }
      [.listed host [], .shutDownBegan host]) host = { outlineOf world host with registered := [] } :=
    written_outline present
  have left : Tidy host { outlineOf world host with registered := [] } world.journal :=
    sound.tidy.leave (by simp)
  refine ⟨⟨sound.housed.written present, ?_, ?_, ?_⟩, ⟨?_, ?_, ?_, ?_, ?_, ?_⟩, ?_, ?_, ?_, ?_, ?_⟩
  · exact sound.tuned.written present fun _ => ⟨⟨none, released.engaged⟩, released.silent⟩
  · rw [outline]
    exact (left.close fun _ => rfl).silent rfl
  · exact (sound.hushed.cons (by simp)).cons (by simp)
  · exact List.suffix_append _ _
  · exact Nat.le_of_eq written_length.symm
  · exact Nat.le_of_eq (by rw [outline])
  · intro id _ _
    rw [outline]
    exact List.not_mem_nil
  · intro choose
    change _ ≤ balance host choose (.listed host [] :: .shutDownBegan host :: world.journal) + _
    rw [balance_closing]
    simp
  · intro choose
    exact Int.le_of_eq (spare_closing choose [] world.journal).symm
  · rw [outline]
  · intro id
    rw [outline]
    rfl
  · intro id loose
    rw [outline] at loose
    by_cases registered : id ∈ (world.registryOf host).registered
    · exact Or.inr ⟨rfl, registered⟩
    · exact Or.inl ⟨registered, loose.2⟩
  · intro _ id member
    rw [outline] at member
    cases member
  · intro _ id member
    rw [outline]
    exact ⟨List.not_mem_nil, sound.tidy.known id member⟩

/-- A host that closes while its registry is locked waits for ever. -/
theorem closing_stuck (sound : Sound host world) (released : Released host world)
    (locked : (world.registryOf host).locked = true) :
    Passage host [] False world (world.note (.shutDownBegan host)) where
  sound := by
    refine ⟨⟨sound.housed.core, sound.housed.named, sound.housed.listeners⟩,
      ⟨sound.tuned.apart, sound.tuned.once, sound.tuned.known, fun _ => ?_⟩, ?_, sound.hushed.cons (by simp)⟩
    · exact ⟨⟨none, released.engaged⟩, released.silent⟩
    · apply sound.tidy.close
      intro unlocked
      rw [outlineOf, of_locked, locked] at unlocked
      cases unlocked
  onward := by
    refine ⟨List.suffix_cons _ _, Nat.le_refl _, Nat.le_refl _, fun _ _ out => out, fun choose => ?_,
      fun choose => ?_⟩
    · simp [balance, heeded, commanded, ticks]
    · simp [spare, ticks, units]
  settled := False.elim

/-- All registered receivers are taken. -/
theorem take_all {registry : Registry} (known : ∀ id ∈ registry.registered, id < registry.slots.length) :
    registry.take (fun _ => true) = ({ registry with registered := [] }, registry.registered) := by
  have chosen : ∀ id ∈ registry.registered, registry.chosen (fun _ => true) id = true := by
    intro id member
    simp [Schedule.Registry.chosen, Schedule.Registry.receiver?, Schedule.Registry.slot?, known id member]
  have all : registry.registered.filter (registry.chosen fun _ => true) = registry.registered :=
    List.filter_eq_self.mpr chosen
  have nobody : (registry.registered.filter fun id => !registry.chosen (fun _ => true) id) = [] := by
    rw [List.filter_eq_nil_iff]
    intro id member
    simp [chosen id member]
  rw [Schedule.Registry.take, all, nobody]

/-- The host closes, and all its receivers are finalized or left to whoever keeps them busy. -/
theorem closing_passes (careful : Careful host call) (sound : Sound host world)
    (present : place < world.hosts.length) (released : place = host → Released host world) :
    Passes host [] world (world.note (.shutDownBegan place)) (Scheduler.shutDown call place) := by
  by_cases here : place = host
  · subst here
    unfold Passes Scheduler.shutDown Scheduler.removeWhere
    rw [Run.ends_bind]
    cases locked : (world.registryOf place).locked with
    | true =>
        have stuck : ((world.note (.shutDownBegan place)).registryOf place).locked = true := locked
        rw [Run.ends_registry_locked stuck]
        exact closing_stuck sound (released rfl) locked
    | false =>
        have unlocked : ((world.note (.shutDownBegan place)).registryOf place).locked = false := locked
        have leaves : Leaves place place _ world _ := closing_leaves sound present (released rfl)
        have known : ∀ id ∈ (world.registryOf place).registered,
            id < (world.registryOf place).slots.length := by
          intro id member
          have inside := sound.tidy.known id member
          rwa [outlineOf, of_length] at inside
        rw [Run.ends_registry unlocked, Run.followed_ok, World.note_registryOf, take_all known]
        exact leaves.passes
          (retireAll_passes careful _ leaves.sound (by rw [written_length]; exact present) leaves.out)
          (retireAll_sure _) _
  · have idle : Idles host world (world.note (.shutDownBegan place)) :=
      idles_note (by simp [Entry.idle, here]) world
    have noted : Passage host [] True world (world.note (.shutDownBegan place)) := idle.passage sound
    exact (removeWhere_passes careful _ noted.sound (noted.present present)).start noted

/-- A runtime that has been shut down has given its listener up. -/
def released (listener : Option Nat) (state : Host) : Host :=
  { state with
    source := (listener.map state.source.dismiss).getD state.source
    runtime := state.runtime.map fun runtime => { runtime with state := .shutDown, listener := none } }

/-- A runtime that gives its listener up keeps the others. -/
theorem released_listeners {listener : Option Nat} {state : Host} {listening : Tick.Listening Listener}
    (member : listening ∈ (released listener state).source.listeners) :
    listening ∈ state.source.listeners ∧ some listening.id ≠ listener := by
  cases listener with
  | none => exact ⟨member, by simp⟩
  | some id =>
      have kept : listening ∈ state.source.listeners.filter fun listening => listening.id != id := member
      rw [List.mem_filter] at kept
      exact ⟨kept.1, by simpa using kept.2⟩

/-- A listener is dismissed from its source. -/
theorem ends_dismissed (id : Nat) (post : Except Raised Unit → World → Prop) :
    (discard (Events.dismiss place id)).Ends world post ↔ post (.ok ()) (world.putHost place
      { world.hostOf place with source := (world.hostOf place).source.dismiss id }) := by
  rw [ends_discard]
  rfl

section Released

variable {state : RuntimeState} {listener : Option Nat}
  (found : engagement world place = some (state, listener))

include found

/-- A released runtime is shut down and has no listener. -/
theorem released_engaged :
    engaged (released listener (world.hostOf place)) = some (.shutDown, none) := by
  revert found
  unfold engagement engaged released
  cases (world.hostOf place).runtime with
  | none => exact fun found => by cases found
  | some runtime => exact fun _ => rfl

/-- No listener that is left drives a released runtime. -/
theorem released_silent (tuned : Tuned place world) :
    ∀ listening ∈ (released listener (world.hostOf place)).source.listeners,
      drives place listening = false := by
  intro listening member
  obtain ⟨old, other⟩ := released_listeners member
  rw [← Bool.not_eq_true]
  intro driving
  obtain ⟨reached, same, -⟩ := tuned.known listening old driving
  rw [found] at same
  have number := congrArg Prod.snd (Option.some.inj same)
  exact other number.symm

/-- Releasing a runtime is idle. -/
theorem idles_released (present : place < world.hosts.length) :
    Idles host world (world.putHost place (released listener (world.hostOf place))) := by
  apply idles_putHost present
  · rfl
  · intro housed listening member
    exact housed.listeners place listening (released_listeners member).1
  · intro other tuned listening member
    exact tuned.apart place other listening (released_listeners member).1
  · intro here tuned
    subst here
    have silent : ∀ listening ∈ (released listener (world.hostOf place)).source.listeners,
      drives place listening = false := released_silent found tuned
    apply tuned.putHost present
    · exact Nat.le_trans (Nat.le_of_eq (undriven silent)) (Nat.zero_le 1)
    · intro listening member driving
      rw [silent listening member] at driving
      cases driving
    · exact fun _ => ⟨⟨none, released_engaged found⟩, silent⟩

/-- A released runtime stays released in its place. -/
theorem putHost_released (present : place < world.hosts.length) (tuned : Tuned place world) :
    Released place (world.putHost place (released listener (world.hostOf place))) where
  engaged := by
    unfold engagement
    rw [World.putHost_self present]
    exact released_engaged found
  silent := by
    unfold listeners
    rw [World.putHost_self present]
    exact released_silent found tuned

end Released

/-- A host whose runtime has been released closes. -/
theorem closed_passes (careful : Careful host call) (present : place < origin.hosts.length)
    (released : place = host → Released host world) (passage : Passage host [] True origin world) :
    Passes host [] origin world (Lifecycle.close call place) := by
  have unhooking : (discard (Events.unhookTicks place)).Ends world fun _ after => Rested host world after := by
    rw [ends_discard]
    exact unhookTicks_rests world
  apply Passes.rested unhooking passage
  intro _ unhooked unhooking passage
  have unwatched : ∀ state : Host, Rests state
      { state with runtime := state.runtime.map fun runtime => { runtime with watch := none } } := by
    intro state
    refine ⟨rfl, .refl _, ?_⟩
    unfold engaged
    cases state.runtime <;> rfl
  apply Passes.rested (rested_modifyHost place unwatched unhooked) passage
  intro _ last unwatching passage
  have still : place = host → Released host last :=
    fun here => ((released here).rested unhooking).rested unwatching
  unfold Passes
  rw [Run.ends_bind, Run.ends_note, Run.followed_ok]
  apply ((closing_passes careful passage.sound (passage.present present) still).discard.start passage).bind
  intro _ after passage
  have unclaimed : Idles host after { after with claimed := false } := idles_aside rfl rfl rfl
  exact passes_pure (passage.idle unclaimed) true

/-- A runtime that is not shut down yet is released first. -/
theorem ends_released (call : Caller) (present : place < world.hosts.length) {runtime : Runtime}
    (live : runtime.state ≠ .shutDown) (post : Except Raised Bool → World → Prop) :
    (Lifecycle.shutDown call place runtime).Ends world post ↔
      (Lifecycle.close call place).Ends (world.putHost place (released runtime.listener (world.hostOf place)))
        post := by
  unfold Lifecycle.shutDown Lifecycle.setState Lifecycle.close
  rw [if_neg live, Run.ends_bind, Run.ends_modifyRuntime, Run.followed_ok]
  cases runtime.listener with
  | none =>
      have same : released none (world.hostOf place) = { world.hostOf place with
          runtime := ((world.hostOf place).runtime.map fun runtime =>
            { runtime with state := .shutDown }).map fun runtime => { runtime with listener := none } } := by
        unfold released
        cases (world.hostOf place).runtime <;> rfl
      dsimp only
      rw [same, Run.ends_bind, Run.ends_modifyRuntime, Run.followed_ok, World.putHost_putHost,
        World.putHost_self present]
  | some id =>
      have same : released (some id) (world.hostOf place) = { world.hostOf place with
          source := (world.hostOf place).source.dismiss id
          runtime := ((world.hostOf place).runtime.map fun runtime =>
            { runtime with state := .shutDown }).map fun runtime => { runtime with listener := none } } := by
        unfold released
        cases (world.hostOf place).runtime <;> rfl
      dsimp only
      rw [same, Run.ends_bind, ends_dismissed, Run.followed_ok, World.putHost_putHost, World.putHost_self present,
        Run.ends_bind, Run.ends_modifyRuntime, Run.followed_ok, World.putHost_putHost, World.putHost_self present]

/-- A runtime is shut down, and its receivers are retired, as any run goes. -/
theorem shutDown_passes (careful : Careful host call) (present : place < origin.hosts.length)
    {runtime : Runtime} (found : engagement world place = some (runtime.state, runtime.listener))
    (passage : Passage host [] True origin world) :
    Passes host [] origin world (Lifecycle.shutDown call place runtime) := by
  have inside := passage.present present
  have freed := passage.idle (idles_released found inside)
  have still : place = host → Released host
      (world.putHost place (released runtime.listener (world.hostOf place))) := by
    intro here
    subst here
    exact putHost_released found inside passage.sound.tuned
  by_cases shut : runtime.state = .shutDown
  · unfold Lifecycle.shutDown
    rw [if_pos shut]
    exact passes_pure passage false
  · unfold Passes
    rw [ends_released call inside shut]
    exact closed_passes careful present still freed

/-- The scene is reloaded as any run goes. -/
theorem reloadScene_passes (careful : Careful host call) (present : place < origin.hosts.length)
    (passage : Passage host [] True origin world) :
    Passes host [] origin world (Lifecycle.reloadScene call place) := by
  have purging := removeWhere_passes careful (fun receiver => receiver.binding?.isSome) passage.sound
    (passage.present present)
  apply (purging.discard.start passage).bind
  exact fun _ after passage => bindAll_passes careful present passage

/-- Unhooking the ticks cannot fail. -/
theorem unhookTicks_sure : Sure (Events.unhookTicks place) := by
  apply (sure_returns fun _ => ⟨_, rfl⟩ : Sure (Run.host place)).bind
  intro state
  split
  · exact sure_pure false
  · apply (sure_returns fun _ => ⟨_, rfl⟩ : Sure (Run.modifyHost place _)).bind
    exact fun _ => sure_returns fun _ => ⟨_, rfl⟩

/-- Closing a registry returns, whatever its receivers raise. -/
theorem close_sure : Sure (Lifecycle.close call place) := by
  apply unhookTicks_sure.discard.bind
  intro _
  apply (sure_returns fun _ => ⟨_, rfl⟩ : Sure (Run.modifyRuntime place _)).bind
  intro _
  apply (sure_returns fun _ => ⟨_, rfl⟩ : Sure (Run.note _)).bind
  intro _
  apply (removeWhere_sure _).discard.bind
  exact fun _ => sure_returns fun _ => ⟨_, rfl⟩

/-- Shutting down returns, whatever the receivers raise. -/
theorem shutDown_sure (runtime : Runtime) : Sure (Lifecycle.shutDown call place runtime) := by
  unfold Lifecycle.shutDown
  apply sure_ite
  · exact sure_pure false
  · apply (sure_returns fun _ => ⟨_, rfl⟩ : Sure (Lifecycle.setState place .shutDown)).bind
    intro _
    have emptied : Sure (do
        Run.modifyRuntime place fun runtime => { runtime with listener := none }
        Lifecycle.close call place) :=
      (sure_returns fun _ => ⟨_, rfl⟩).bind fun _ => close_sure
    cases runtime.listener with
    | none => exact emptied
    | some id =>
        apply (sure_returns fun _ => ⟨_, rfl⟩ : Sure (discard (Events.dismiss place id))).bind
        exact fun _ => emptied

/-- Freeing a host cannot fail. -/
theorem free_sure : Sure (Lifecycle.free call place) := by
  have freed : Sure (Run.modifyHost place fun host => { host with freed := true }) :=
    sure_returns fun _ => ⟨_, rfl⟩
  apply (sure_returns fun _ => ⟨_, rfl⟩ : Sure (Run.host place)).bind
  intro state
  apply sure_ite
  · cases state.runtime with
    | none => exact freed
    | some runtime => exact (shutDown_sure runtime).discard.bind fun _ => freed
  · exact sure_pure ()

/-- A host is freed after its runtime has been shut down. -/
theorem free_passes (careful : Careful host call) (present : place < origin.hosts.length)
    (passage : Passage host [] True origin world) :
    Passes host [] origin world (Lifecycle.free call place) := by
  have freed : Idle host (Run.modifyHost place fun host => { host with freed := true }) :=
    idle_modifyHost place fun _ => ⟨rfl, .refl _, rfl⟩
  unfold Passes Lifecycle.free
  rw [Run.ends_bind, Run.ends_host, Run.followed_ok]
  dsimp only
  split
  · cases found : ((world.hosts[place]?).getD .core).runtime with
    | none => exact freed.passes passage
    | some runtime =>
        apply (shutDown_passes careful present (engagement_found found) passage).discard.bind
        exact fun _ after passage => freed.passes passage
  · exact passes_pure passage ()

/-- A host is used as if it were not, and freed when nobody uses it any longer. -/
theorem whileUsing_passes {α : Type} (careful : Careful host call) (present : place < origin.hosts.length)
    {body : Run α} (passage : Passage host [] True origin world)
    (inner : ∀ used, Rests (world.hostOf place) (used.hostOf place) → Passage host [] True origin used →
      Passes host [] origin used body) :
    Passes host [] origin world (Lifecycle.whileUsing call place body) := by
  have counted : ∀ (change : Nat → Nat) (state : Host),
      Rests state { state with users := change state.users } :=
    fun _ _ => ⟨rfl, .refl _, rfl⟩
  apply Passes.rested (rested_modifyHost place (counted (· + 1)) world) passage
  intro _ used counting passage
  apply (inner used (counting.hosts place) passage).afterwards
  · exact (sure_returns fun _ => ⟨_, rfl⟩ : Sure (Run.modifyHost place _)).bind fun _ => free_sure
  · intro after sound grown
    have left : Idle host (Run.modifyHost place fun host => { host with users := host.users - 1 }) :=
      idle_modifyHost place (counted (· - 1))
    apply (left.passes (.refl sound)).bind
    exact fun _ last passage => free_passes careful (Nat.lt_of_lt_of_le present grown) passage

/-- A runtime is shut down before it is forgotten. -/
theorem forget_passes (careful : Careful host call) (present : place < origin.hosts.length)
    (passage : Passage host [] True origin world) :
    Passes host [] origin world (Lifecycle.forget call place) := by
  have unnamed : Idle host (Run.modifyHost place fun host => { host with named := false }) :=
    idle_modifyHost place fun _ => ⟨rfl, .refl _, rfl⟩
  apply (unnamed.passes passage).bind
  exact fun _ after passage => free_passes careful present passage

end Shutdown

end ScriptHost.Session

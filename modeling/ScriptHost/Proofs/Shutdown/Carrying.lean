/-
This file follows events to their subscribers and ticks to their listeners.
-/
import ScriptHost.Proofs.Shutdown.Turning

namespace ScriptHost.Session.Shutdown

variable {host place id : Nat} {call : Caller} {origin world middle after : World} {signal : Tick.Signal}
  {owed : List Tick.Signal} {entry : Entry}

/-- A tick that was commanded is paid for. -/
theorem commanded_passes (careful : Careful host call) (signal : Tick.Signal)
    (passage : Passage host [] True origin world) (present : place < world.hosts.length) :
    Passes host [] origin (world.note (.tickCommanded place signal))
      (Scheduler.tick call place signal) := by
  by_cases here : place = host
  · subst here
    have first : Passage place [] True world (world.note (.tickCommanded place signal)) := by
      apply Passage.timed rfl (.refl passage.sound)
      · intro choose
        rw [balance_commanded, List.countP_nil]
        omega
      · intro choose
        exact Int.le_of_eq spare_commanded.symm
    have ticking := tick_passes careful signal first.sound (first.present present)
    apply ticking.paid (passage.trans first)
    intro choose
    have paid := passage.onward.paid choose
    rw [World.note_journal, balance_commanded, owes, if_pos rfl]
    cases chosen : choose signal <;> simp [chosen] at paid ⊢ <;> omega
  · have idle : Entry.idle host (.tickCommanded place signal) = true := by simp [Entry.idle, here]
    have first := passage.idle (idles_note idle world)
    have ticking := tick_passes careful signal first.sound present
    rw [owes, if_neg here] at ticking
    exact ticking.start first

/-- A listener without a name owes the tick of its host. -/
def owing (host : Nat) (signal : Tick.Signal) (listening : Tick.Listening Listener) : List Tick.Signal :=
  if drives host listening then [signal] else []

/-- The host that a listener drives is there. -/
def Within (count : Nat) (listening : Tick.Listening Listener) : Prop :=
  ∀ place name, listening.listener = .scheduler place name → place < count

/-- A listener that is called ticks the host only if it drives it. -/
theorem callListener_passes (careful : Careful host call) (sound : Sound host world)
    {listening : Tick.Listening Listener} (within : Within world.hosts.length listening) :
    Passes host (owing host signal listening) world world
      (Events.callListener call signal listening.listener) := by
  obtain ⟨id, listener⟩ := listening
  rcases listener with hooked | ⟨place, _ | name⟩
  · exact careful.hook hooked _ world sound
  · have ticking := (tick_passes careful signal sound (within place none rfl)).discard
    have same : owing host signal ⟨id, .scheduler place none⟩ = owes host place signal := by
      simp [owing, owes, drives]
    rw [same]
    exact ticking
  · have named : Events.callListener call signal (.scheduler place (some name)) = (do
        Run.note (.tickCommanded place signal)
        let report ← Scheduler.tick call place signal
        Run.note (.ticked name report)) := rfl
    unfold Passes
    rw [named, Run.ends_bind, Run.ends_note, Run.followed_ok]
    apply (commanded_passes careful signal (.refl sound) (within place _ rfl)).bind
    exact fun report after passage => (idle_note rfl : Idle host _).passes passage

/-- All the listeners together owe no more than each of them. -/
theorem broadcast_passes (careful : Careful host call) (signal : Tick.Signal)
    (listenings : List (Tick.Listening Listener)) {owed : List Tick.Signal}
    (within : ∀ listening ∈ listenings, Within origin.hosts.length listening)
    (passage : Passage host owed True origin world) :
    Passes host (owed ++ listenings.flatMap (owing host signal)) origin world
      (Events.broadcast call signal listenings) := by
  induction listenings generalizing world owed with
  | nil => exact (passes_pure passage.owe ())
  | cons listening rest ih =>
      obtain ⟨first, later⟩ := List.forall_mem_cons.mp within
      have calling : Passes host (owing host signal listening) world world
          (Events.callListener call signal listening.listener) :=
        callListener_passes careful passage.sound fun place name same => passage.present (first place name same)
      unfold Events.broadcast
      rw [List.flatMap_cons, ← List.append_assoc]
      apply (calling.isolate.start passage).append
      intro fault after passage
      cases fault with
      | none => exact ih later passage
      | some fault =>
          unfold Passes
          dsimp only
          rw [Run.ends_bind, Run.ends_report, Run.followed_ok]
          exact ih later (passage.idle (idles_note rfl after))

/-- The listeners of one broadcast owe as many ticks as there are among them that drive the host. -/
theorem countP_owing (choose : Tick.Signal → Bool) (listenings : List (Tick.Listening Listener)) :
    (listenings.flatMap (owing host signal)).countP choose =
      listenings.countP (drives host) * (choose signal).toNat := by
  induction listenings with
  | nil => simp
  | cons listening rest ih =>
      rw [List.flatMap_cons, List.countP_append, ih, List.countP_cons, Nat.add_mul, Nat.add_comm]
      congr 1
      cases driving : drives host listening <;> cases chosen : choose signal <;>
        simp [owing, driving, chosen]

/-- A source that hears of a tick moves its clock, and that is all. -/
theorem clocked_idle (place : Nat) (signal : Tick.Signal) : Idle host (Run.modifyHost place fun host =>
    { host with source := { host.source with clock := host.source.clock.advance signal } }) :=
  idle_modifyHost place fun _ => ⟨rfl, .refl _, rfl⟩

/-- The listeners of a source hear of a tick, and it pays for what they owe if the host is still open. -/
theorem sounded_passes (careful : Careful host call) (sound : Sound host world)
    (idles : Idles host world middle) (signal : Tick.Signal) :
    Passes host [] world (middle.note (.broadcast place signal))
      (Events.broadcast call signal (listeners world place)) := by
  obtain ⟨entries, same, idle⟩ := idles.journal
  have balanced : ∀ choose, balance host choose middle.journal = balance host choose world.journal := by
    intro choose
    rw [same, balance_idles idle]
  have closes : closed host middle.journal = closed host world.journal := by rw [same, closed_idles idle]
  have noted : Passage host [] True world (middle.note (.broadcast place signal)) := by
    have rested : Passage host [] True world middle := idles.passage sound
    by_cases here : place = host
    · subst here
      apply Passage.timed rfl rested
      · intro choose
        rw [balance_broadcast, balanced, List.countP_nil]
        split <;> omega
      · intro choose
        rw [spare_broadcast]
        exact rested.onward.spent choose
    · exact rested.idle (idles_note (by simp [Entry.idle, here]) middle)
  have within : ∀ listening ∈ listeners world place,
      Within (middle.note (.broadcast place signal)).hosts.length listening :=
    fun listening member at' name same =>
      noted.present (sound.housed.listeners place listening member at' name same)
  have heard := broadcast_passes careful signal (listeners world place) within (.refl noted.sound)
  apply Passes.paid heard noted
  intro choose
  rw [List.nil_append, countP_owing]
  by_cases here : place = host
  · subst here
    rw [World.note_journal, balance_broadcast, balanced, closes]
    have once := sound.tuned.once
    cases shut : closed place world.journal with
    | true =>
        simp [undriven (sound.tuned.shut shut).2]
    | false =>
        have bound := Nat.mul_le_mul_right (choose signal).toNat once
        simp only [Bool.false_eq_true, if_false]
        omega
  · have paid := noted.onward.paid choose
    simpa [undriven (sound.tuned.apart place here)] using paid

/-- A native tick passes its event on to those who subscribed to it. -/
theorem nativeTick_passes (careful : Careful host call) (index : UInt64)
    (passage : Passage host [] True origin world) :
    Passes host [] origin world (Events.nativeTick call place index) := by
  suffices heard : Passes host [] world world (Events.nativeTick call place index) from heard.start passage
  unfold Passes Events.nativeTick
  rw [Run.ends_bind, Run.ends_get, Run.followed_ok, Run.ends_bind, Run.ends_host, Run.followed_ok]
  dsimp only
  generalize Tick.signalOf world.engine.interval index = signal
  have told : Idles host world _ := idle_plain (Run.plain_reportAll
    (Tick.intervalRecords world.engine.interval ++
      Tick.orderRecords ((world.hosts[place]?).getD .core).source.clock index)) world
  have clocked := told.trans (clocked_idle place signal _)
  rw [Run.ends_bind, Run.ends_reportAll, Run.followed_ok, Run.ends_bind, Run.ends_modifyHost,
    Run.followed_ok, Run.ends_bind, Run.ends_note, Run.followed_ok]
  exact sounded_passes careful passage.sound clocked signal

/-- A handler of a built-in event passes, whatever it does. -/
theorem callHandler_passes (careful : Careful host call) (event : Event.Builtin) (handler : Handler)
    (passage : Passage host [] True origin world) :
    Passes host [] origin world (Events.callHandler call event handler) := by
  cases handler with
  | hook hooked => exact careful.calls _ _ passage
  | source place =>
      unfold Passes Events.callHandler
      rw [Run.ends_bind, Run.ends_host, Run.followed_ok]
      split
      · cases event with
        | logicTick index => exact nativeTick_passes careful index passage
        | _ => exact passes_pure passage ()
      · exact passes_pure passage ()

/-- A handler of raw payloads passes, whatever it does. -/
theorem callRawHandler_passes (careful : Careful host call) (payload : Event.Payload) (handler : Handler)
    (passage : Passage host [] True origin world) :
    Passes host [] origin world (Events.callRawHandler call payload handler) := by
  cases handler with
  | hook hooked => exact careful.calls _ _ passage
  | source place => exact passes_pure passage ()

/-- Every subscriber is called in its turn. -/
theorem deliver_passes {name : String} {hand : Handler → Run Unit}
    (subscriptions : List (Event.Subscription Handler))
    (each : ∀ handler world, Passage host [] True origin world →
      Passes host [] origin world (hand handler))
    (passage : Passage host [] True origin world) :
    Passes host [] origin world (Events.deliver name hand subscriptions) := by
  induction subscriptions generalizing world with
  | nil => exact passes_pure passage ()
  | cons subscription rest ih =>
      unfold Events.deliver
      apply (each subscription.handler world passage).isolate.bind
      intro fault after passage
      cases fault with
      | none => exact ih passage
      | some fault =>
          unfold Passes
          dsimp only
          rw [Run.ends_bind, Run.ends_report, Run.followed_ok]
          exact ih (passage.idle (idles_note rfl after))

/-- A payload is dispatched to one handler after the other. -/
theorem dispatch_passes (careful : Careful host call) (name : String) (payload : Event.Payload)
    (passage : Passage host [] True origin world) :
    Passes host [] origin world (Events.dispatch call name payload) := by
  unfold Passes Events.dispatch
  rw [Run.ends_bind, Run.ends_get, Run.followed_ok]
  dsimp only
  split
  · split
    · apply Passes.bind
      · exact deliver_passes _ (fun handler _ later => callHandler_passes careful _ handler later) passage
      · exact fun _ after passage => passes_pure passage _
    · rw [Run.ends_bind, Run.ends_modify, Run.followed_ok]
      have dropped : Idles host world { world with bridge := world.bridge.drop } :=
        idles_aside rfl rfl rfl
      apply ((report_idle _).passes (passage.idle dropped)).bind
      exact fun _ after passage => passes_pure passage _
  · apply Passes.bind
    · exact deliver_passes _ (fun handler _ later => callRawHandler_passes careful payload handler later) passage
    · exact fun _ after passage => passes_pure passage _

/-- Whoever subscribes to raw payloads drives no host. -/
theorem subscribeRaw_idle (event : String) (handler : Handler) :
    Idle host (Events.subscribeRaw event handler) := by
  apply (idle_plain (Run.plain_reportAll _)).bind
  exact fun _ _ => idles_aside rfl rfl rfl

/-- Whoever unsubscribes drives no host. -/
theorem unsubscribe_idle (event : String) (id : Nat) : Idle host (Events.unsubscribe event id) :=
  fun _ => idles_aside rfl rfl rfl

/-- A source that is hooked up rests all the same. -/
theorem hookTicks_rests (world : World) :
    (Events.hookTicks place).Ends world fun _ after => Rested host world after := by
  unfold Events.hookTicks
  rw [Run.ends_bind, Run.ends_host, Run.followed_ok]
  split
  · exact .refl world
  · have quiet : Rests ((world.hosts[place]?).getD .core) { (world.hosts[place]?).getD .core with
        source := { ((world.hosts[place]?).getD .core).source with subscription := some world.bridge.next } } :=
      ⟨rfl, .refl _, rfl⟩
    exact ⟨idles_resting (rests_set quiet) (fun _ member => member) ⟨[], rfl, by simp⟩,
      rests_hostOf (rests_set quiet)⟩

/-- The ticks are unhooked with everyone at rest. -/
theorem unhookTicks_rests (world : World) :
    (Events.unhookTicks place).Ends world fun _ after => Rested host world after := by
  unfold Events.unhookTicks
  rw [Run.ends_bind, Run.ends_host, Run.followed_ok]
  split
  · exact .refl world
  · rw [Run.ends_bind, Run.ends_modifyHost, Run.followed_ok]
    have quiet : Rests ((world.hosts[place]?).getD .core) { (world.hosts[place]?).getD .core with
        source := { ((world.hosts[place]?).getD .core).source with subscription := none } } :=
      ⟨rfl, .refl _, rfl⟩
    exact ⟨idles_resting (rests_set quiet) (fun _ member => member) ⟨[], rfl, by simp⟩,
      rests_hostOf (rests_set quiet)⟩

/-- A listener that is dismissed ticks nobody any more. -/
theorem dismiss_idle (id : Nat) : Idle host (Events.dismiss place id) := by
  apply (idle_host place).bind
  intro state
  dsimp only
  apply Idle.bind
  · exact idle_modifyHost place fun _ => ⟨rfl, List.filter_sublist, rfl⟩
  · exact fun _ => idle_pure _

/-- The state of a host may be exchanged with regard to the host that closes. -/
theorem idles_putHost (present : place < world.hosts.length) (state : Host)
    (outline : Outline.of state.registry = outlineOf world place)
    (within : Housed world → ∀ listening ∈ state.source.listeners, Within world.hosts.length listening)
    (apart : place ≠ host → Tuned host world → ∀ listening ∈ state.source.listeners,
      drives host listening = false)
    (tuned : place = host → Tuned host world → Tuned host (world.putHost place state)) :
    Idles host world (world.putHost place state) where
  hosts := Nat.le_of_eq World.putHost_length.symm
  outline := by
    unfold outlineOf World.registryOf
    change Outline.of ((world.putHost place state).hostOf host).registry = _
    rw [World.putHost_hostOf present]
    split
    · next same =>
        rw [outline, same]
        rfl
    · rfl
  housed housed := by
    refine ⟨?_, fun entry member => ?_, fun id listening member => ?_⟩ <;> rw [World.putHost_length]
    · exact housed.core
    · exact housed.named entry member
    · unfold listeners at member
      rw [World.putHost_hostOf present] at member
      split at member
      · exact within housed listening member
      · exact housed.listeners id listening member
  tuned old := by
    by_cases here : place = host
    · exact tuned here old
    · have elsewhere : (world.putHost place state).hostOf host = world.hostOf host := by
        rw [World.putHost_hostOf present, if_neg (Ne.symm here)]
      have same : listeners (world.putHost place state) host = listeners world host :=
        congrArg (fun state : Host => state.source.listeners) elsewhere
      have engaged : engagement (world.putHost place state) host = engagement world host :=
        congrArg engaged elsewhere
      refine ⟨fun id other listening member => ?_, ?_, ?_, ?_⟩
      · unfold listeners at member
        rw [World.putHost_hostOf present] at member
        split at member
        · exact apart here old listening member
        · exact old.apart id other listening member
      · rw [same]
        exact old.once
      · rw [same, engaged]
        exact old.known
      · rw [same, engaged]
        exact old.shut
  journal := ⟨[], rfl, by simp⟩

/-- The runtime of the host itself has to be tuned again. -/
theorem Tuned.putHost (tuned : Tuned host world) (present : host < world.hosts.length) (state : Host)
    (once : state.source.listeners.countP (drives host) ≤ 1)
    (known : ∀ listening ∈ state.source.listeners, drives host listening = true →
      ∃ reached, engaged state = some (reached, some listening.id) ∧ reached ≠ .created)
    (shut : closed host world.journal = true → (∃ listener, engaged state = some (.shutDown, listener)) ∧
      ∀ listening ∈ state.source.listeners, drives host listening = false) :
    Tuned host (world.putHost host state) := by
  have here : (world.putHost host state).hostOf host = state := by
    rw [World.putHost_hostOf present, if_pos rfl]
  have heard : listeners (world.putHost host state) host = state.source.listeners :=
    congrArg (fun state : Host => state.source.listeners) here
  have reached : engagement (world.putHost host state) host = engaged state := congrArg engaged here
  refine ⟨fun id other listening member => ?_, ?_, ?_, ?_⟩
  · unfold listeners at member
    rw [World.putHost_hostOf present, if_neg other] at member
    exact tuned.apart id other listening member
  · rw [heard]
    exact once
  · rw [heard, reached]
    exact known
  · rw [heard, reached]
    exact shut

/-- Whoever comes to listen by a name does not drive the runtime. -/
theorem listen_idles (present : place < world.hosts.length) {listener : Listener}
    (named : ∀ target, listener ≠ .scheduler target none)
    (within : ∀ target name, listener = .scheduler target name → target < world.hosts.length) :
    Idles host world ((Events.listen place listener).run.run world).2 := by
  have silent : ∀ id, drives host ⟨id, listener⟩ = false := by
    intro id
    rcases listener with hooked | ⟨target, _ | name⟩
    · rfl
    · exact absurd rfl (named target)
    · rfl
  change Idles host world (world.putHost place
    { world.hostOf place with source := ((world.hostOf place).source.listen listener).1 })
  apply idles_putHost present
  · rfl
  · intro housed listening member
    rcases List.mem_append.mp member with old | new
    · exact housed.listeners place listening old
    · rw [List.mem_singleton.mp new]
      exact within
  · intro other tuned listening member
    rcases List.mem_append.mp member with old | new
    · exact tuned.apart place other listening old
    · rw [List.mem_singleton.mp new]
      exact silent _
  · intro here tuned
    subst here
    apply tuned.putHost present
    · have once := tuned.once
      simpa [Tick.Source.listen, List.countP_append, silent, listeners] using once
    · intro listening member driving
      rcases List.mem_append.mp member with old | new
      · exact tuned.known listening old driving
      · rw [List.mem_singleton.mp new, silent] at driving
        cases driving
    · intro shut
      obtain ⟨reached, nobody⟩ := tuned.shut shut
      refine ⟨reached, fun listening member => ?_⟩
      rcases List.mem_append.mp member with old | new
      · exact nobody listening old
      · rw [List.mem_singleton.mp new]
        exact silent _

end ScriptHost.Session.Shutdown

/-
This file shows that related worlds carry events and ticks to the same subscribers and listeners and stay
related.
-/
import ScriptHost.Proofs.Congruence.Scheduling
import ScriptHost.Proofs.Event.Ledger

namespace ScriptHost.Session

open Run (agrees_pure agrees_get)

variable {scope : Scope} {fits : Nat → Receiver → Prop} {related : World → World → Prop} {call : Caller}
  {host : Nat}

namespace WithinBridge

variable {bridge : Event.Bridge Handler} {handler : Handler}

/-- An empty bridge is within every scope. -/
theorem empty : WithinBridge scope .empty where
  typed _ _ absurd := nomatch absurd
  raw _ _ absurd := nomatch absurd

/-- An event that is dropped calls nobody. -/
theorem drop (within : WithinBridge scope bridge) : WithinBridge scope bridge.drop := ⟨within.typed, within.raw⟩

/-- A subscriber within the scope keeps the bridge within it. -/
theorem subscribe (within : WithinBridge scope bridge) (kind : Event.Kind) (allowed : handler.Within scope) :
    WithinBridge scope (bridge.subscribe kind handler).1 where
  typed other subscription member := by
    change subscription ∈ (bridge.typed.add kind ⟨bridge.next, handler⟩).under other at member
    rw [Event.Table.under_add] at member
    split at member
    · obtain member | ⟨_ | ⟨_, ⟨⟩⟩⟩ := List.mem_append.mp member
      · exact within.typed other subscription member
      · exact allowed
    · exact within.typed other subscription member
  raw := within.raw

/-- So does a raw subscriber. -/
theorem subscribeRaw (within : WithinBridge scope bridge) (name : String) (allowed : handler.Within scope) :
    WithinBridge scope (bridge.subscribeRaw name handler).1 where
  typed := within.typed
  raw other subscription member := by
    change subscription ∈ (bridge.raw.add name ⟨bridge.next, handler⟩).under other at member
    rw [Event.Table.under_add] at member
    split at member
    · obtain member | ⟨_ | ⟨_, ⟨⟩⟩⟩ := List.mem_append.mp member
      · exact within.raw other subscription member
      · exact allowed
    · exact within.raw other subscription member

/-- Erasing brings no subscription. -/
theorem mem_under_erase {Key : Type} [DecidableEq Key] {table : Event.Table Key Handler} {key other : Key}
    {id : Nat} {subscription : Event.Subscription Handler}
    (member : subscription ∈ (table.erase key id).under other) : subscription ∈ table.under other := by
  rw [Event.Table.under_erase] at member
  split at member
  · exact List.mem_of_mem_filter member
  · exact member

/-- Raw subscribers may leave a bridge within the scope. -/
theorem unsubscribeRaw (within : WithinBridge scope bridge) (name : String) (id : Nat) :
    WithinBridge scope (bridge.unsubscribeRaw name id).1 := by
  unfold Event.Bridge.unsubscribeRaw
  split
  · exact ⟨within.typed, fun other subscription member => within.raw other subscription (mem_under_erase member)⟩
  · exact within

/-- All subscribers may leave a bridge within the scope. -/
theorem unsubscribe (within : WithinBridge scope bridge) (name : String) (id : Nat) :
    WithinBridge scope (bridge.unsubscribe name id).1 := by
  unfold Event.Bridge.unsubscribe
  split
  · split
    · exact ⟨fun other subscription member => within.typed other subscription (mem_under_erase member), within.raw⟩
    · exact within.unsubscribeRaw name id
  · exact within.unsubscribeRaw name id

end WithinBridge

namespace WithinSource

variable {source : Tick.Source Listener}

/-- An empty source is within every scope. -/
theorem empty : WithinSource scope .empty := fun _ absurd => nomatch absurd

/-- A listener within the scope keeps the source within it. -/
theorem listen (within : WithinSource scope source) {listener : Listener} (allowed : listener.Within scope) :
    WithinSource scope (source.listen listener).1 := by
  intro listening member
  obtain member | ⟨_ | ⟨_, ⟨⟩⟩⟩ := List.mem_append.mp member
  · exact within listening member
  · exact allowed

/-- Listeners may leave a source within the scope. -/
theorem dismiss (within : WithinSource scope source) (id : Nat) : WithinSource scope (source.dismiss id) :=
  fun listening member => within listening (List.mem_of_mem_filter member)

end WithinSource

namespace Events

section Tables

variable (audible : Audible scope related)

include audible

/-- Whoever reads the bridge finds subscribers of the scope in it. -/
theorem agrees_bridge {α : Type} {next : World → Run α}
    (reads : ∀ world other, world.bridge = other.bridge → next world = next other)
    (rest : ∀ world, WithinBridge scope world.bridge → (next world).Agrees related) :
    (get >>= next).Agrees related :=
  agrees_get (fun world other holds => reads world other (audible.bridge holds))
    fun world _ holds => rest world (audible.handlers holds)

/-- A bridge within the scope may be set in both worlds. -/
theorem agrees_setBridge {bridge : Event.Bridge Handler} (within : WithinBridge scope bridge) :
    (modify fun world : World => { world with bridge } : Run Unit).Agrees related :=
  Run.agrees_modify fun _ _ holds => audible.rebridge holds within

/-- Whoever reads a source finds listeners of the scope in it. -/
theorem agrees_source {α : Type} {next : Host → Run α}
    (reads : ∀ state other, state.source = other.source → next state = next other)
    (rest : ∀ state, WithinSource scope state.source → (next state).Agrees related) :
    (Run.host host >>= next).Agrees related :=
  Run.agrees_host (fun _ _ holds => reads _ _ (audible.source holds host))
    fun holds => rest _ (audible.listeners holds host) _ _ holds

/-- A source may be changed in both worlds if it stays within the scope. -/
theorem agrees_resource (change : Tick.Source Listener → Tick.Source Listener)
    (kept : ∀ source, WithinSource scope source → WithinSource scope (change source)) :
    (Run.modifyHost host fun state => { state with source := change state.source }).Agrees related := by
  refine fun world other holds => ⟨rfl, ?_⟩
  have changed := audible.resource host holds (kept _ (audible.listeners holds host))
  change related (world.putHost host { world.hostOf host with source := change (world.hostOf host).source })
    (other.putHost host { other.hostOf host with source := change (other.hostOf host).source })
  rwa [← audible.source holds host]

/-- A subscription is numbered alike in both worlds. -/
theorem subscribe_agrees (kind : Event.Kind) (handler : Handler) (allowed : handler.Within scope) :
    (subscribe kind handler).Agrees related := by
  apply agrees_bridge audible fun _ _ same => by rw [same]
  intro world within
  exact (agrees_setBridge audible (within.subscribe kind allowed)).bind fun _ => agrees_pure _

/-- A subscription ends in both worlds. -/
theorem unsubscribe_agrees (event : String) (id : Nat) : (unsubscribe event id).Agrees related := by
  apply agrees_bridge audible fun _ _ same => by rw [same]
  intro world within
  exact (agrees_setBridge audible (within.unsubscribe event id)).bind fun _ => agrees_pure _

/-- A source is hooked to the ticks in both worlds. -/
theorem hookTicks_agrees : (hookTicks host).Agrees related := by
  apply agrees_source audible fun _ _ same => by rw [same]
  intro state _
  split
  · exact agrees_pure _
  · apply (subscribe_agrees audible .logicTick (.source host) trivial).bind
    intro id
    apply (agrees_resource audible (fun source => { source with subscription := some id }) ?_).bind
    · exact fun _ => agrees_pure _
    · exact fun _ within => within

/-- A source is unhooked in both worlds. -/
theorem unhookTicks_agrees : (unhookTicks host).Agrees related := by
  apply agrees_source audible fun _ _ same => by rw [same]
  intro state _
  split
  · exact agrees_pure _
  · next id _ =>
      apply (agrees_resource audible (fun source => { source with subscription := none }) ?_).bind
      · exact fun _ => unsubscribe_agrees audible _ id
      · exact fun _ within => within

/-- A listener is numbered alike in both worlds. -/
theorem listen_agrees {listener : Listener} (allowed : listener.Within scope) :
    (listen host listener).Agrees related := by
  apply agrees_source audible fun _ _ same => by rw [same]
  intro state within
  apply (agrees_resource audible (fun _ => (state.source.listen listener).1) ?_).bind
  · exact fun _ => agrees_pure _
  · exact fun _ _ => within.listen allowed

/-- A listener leaves in both worlds. -/
theorem dismiss_agrees (id : Nat) : (dismiss host id).Agrees related := by
  apply agrees_source audible fun _ _ same => by rw [same]
  intro state _
  apply (agrees_resource audible (fun source => source.dismiss id) ?_).bind
  · exact fun _ => agrees_pure _
  · exact fun _ within => within.dismiss id

end Tables

/-- A raw subscription is numbered alike, or it is turned into a warning in both worlds. -/
theorem subscribeRaw_agrees (congruence : Congruence scope fits related) (audible : Audible scope related)
    (event : String) (handler : Handler) (allowed : handler.Within scope) :
    (subscribeRaw event handler).Agrees related := by
  apply (congruence.agrees_reportAll _).bind
  intro _
  apply agrees_bridge audible fun _ _ same => by rw [same]
  intro world within
  exact (agrees_setBridge audible (within.subscribeRaw event allowed)).bind fun _ => agrees_pure _

/-- Worlds that are audible may write the same note. -/
theorem agrees_note (audible : Audible scope related) (entry : Entry) : (Run.note entry).Agrees related :=
  fun _ _ holds => ⟨rfl, audible.note entry holds⟩

variable (heeding : call.Heeding scope fits) (heeds : Heeds scope fits related) (audible : Audible scope related)

include heeding heeds audible

/-- A scheduler ticks alike in related worlds. -/
theorem tick_agrees (signal : Tick.Signal) : (Scheduler.tick call host signal).Agrees related :=
  Scheduler.tick_agrees heeding heeds (agrees_note audible _)

/-- A listener within the scope is called alike. -/
theorem callListener_agrees (signal : Tick.Signal) {listener : Listener} (within : listener.Within scope) :
    (callListener call signal listener).Agrees related := by
  rcases listener with hooked | ⟨host, _ | name⟩
  · exact heeding.hook heeds _ within
  · exact (tick_agrees heeding heeds audible signal).discard
  · apply (agrees_note audible _).bind
    intro _
    exact (tick_agrees heeding heeds audible signal).bind fun _ => agrees_note audible _

/-- A signal goes to the same listeners in both worlds. -/
theorem broadcast_agrees (signal : Tick.Signal) (listeners : List (Tick.Listening Listener))
    (within : ∀ listening ∈ listeners, listening.listener.Within scope) :
    (broadcast call signal listeners).Agrees related := by
  induction listeners with
  | nil => exact agrees_pure _
  | cons listening rest ih =>
      have later := ih fun other member => within other (List.mem_cons_of_mem _ member)
      apply (callListener_agrees heeding heeds audible signal (within _ List.mem_cons_self)).isolate.bind
      intro fault
      cases fault with
      | none => exact later
      | some fault => exact (heeds.agrees_report _).bind fun _ => later

/-- The native tick is turned into the same signal. -/
theorem nativeTick_agrees (index : UInt64) : (nativeTick call host index).Agrees related := by
  apply agrees_get
  · intro world other holds
    rw [heeds.engine holds]
  · intro world _ _
    apply agrees_source audible fun _ _ same => by rw [same]
    intro state within
    apply (heeds.agrees_reportAll _).bind
    intro _
    apply (agrees_resource audible (fun source =>
      { source with clock := source.clock.advance (Tick.signalOf world.engine.interval index) }) ?_).bind
    · intro _
      apply (agrees_note audible _).bind
      exact fun _ => broadcast_agrees heeding heeds audible _ _ within
    · exact fun _ within => within

/-- A subscriber within the scope is called alike. -/
theorem callHandler_agrees (event : Event.Builtin) {handler : Handler} (within : handler.Within scope) :
    (callHandler call event handler).Agrees related := by
  cases handler with
  | hook hooked => exact heeding.hook heeds _ within
  | source host =>
      apply Run.agrees_host
      · intro world other holds
        rw [audible.freed holds host]
      · intro world other holds
        split
        · split
          · exact nativeTick_agrees heeding heeds audible _ _ _ holds
          · exact agrees_pure _ _ _ holds
        · exact agrees_pure _ _ _ holds

omit audible in
/-- So is a raw subscriber. -/
theorem callRawHandler_agrees (payload : Event.Payload) {handler : Handler} (within : handler.Within scope) :
    (callRawHandler call payload handler).Agrees related := by
  cases handler with
  | hook hooked => exact heeding.hook heeds _ within
  | source host => exact agrees_pure _

omit heeding audible in
/-- The faults of subscribers are told alike, and all of them are called. -/
theorem deliver_agrees (name : String) {hand : Handler → Run Unit}
    (subscriptions : List (Event.Subscription Handler))
    (each : ∀ subscription ∈ subscriptions, (hand subscription.handler).Agrees related) :
    (deliver name hand subscriptions).Agrees related := by
  induction subscriptions with
  | nil => exact agrees_pure _
  | cons subscription rest ih =>
      have later := ih fun other member => each other (List.mem_cons_of_mem _ member)
      apply (each _ List.mem_cons_self).isolate.bind
      intro fault
      cases fault with
      | none => exact later
      | some fault => exact (heeds.agrees_report _).bind fun _ => later

/-- An event is decoded alike and goes to the same subscribers. -/
theorem dispatch_agrees (name : String) (payload : Event.Payload) : (dispatch call name payload).Agrees related := by
  apply agrees_bridge audible fun _ _ same => by rw [same]
  intro world within
  cases Event.Kind.ofName? name with
  | none =>
      apply (deliver_agrees heeds name _ ?_).bind
      · exact fun _ => agrees_pure _
      · exact fun subscription member => callRawHandler_agrees heeding heeds payload (within.raw _ _ member)
  | some kind =>
      dsimp only
      split
      · apply (deliver_agrees heeds name _ ?_).bind
        · exact fun _ => agrees_pure _
        · exact fun subscription member => callHandler_agrees heeding heeds audible _ (within.typed _ _ member)
      · have dropped : (modify fun world : World => { world with bridge := world.bridge.drop } :
            Run Unit).Agrees related := by
          apply Run.agrees_modify
          intro world other holds
          have kept := audible.rebridge holds (audible.handlers holds).drop
          change related { world with bridge := world.bridge.drop } { other with bridge := other.bridge.drop }
          rwa [← audible.bridge holds]
        apply dropped.bind
        intro _
        exact (heeds.agrees_report _).bind fun _ => agrees_pure _

/-- An event that is published takes the same way in both worlds. -/
theorem publish_agrees (event : Event.Builtin) : (publish call event).Agrees related :=
  dispatch_agrees heeding heeds audible _ _

end Events

end ScriptHost.Session

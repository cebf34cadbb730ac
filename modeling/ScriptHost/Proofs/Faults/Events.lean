/-
This file shows that events and ticks are carried alike whichever of their hearers end with a fault.
-/
import ScriptHost.Proofs.Faults.Scheduling

namespace ScriptHost.Session.Events

open Effect (together_pure together_throw)
open Run (Twins Cousins twins_ite twins_get twins_note twins_host twins_modifyHost twins_modify)
open Scheduler (report_twins)

section Tables

variable {Key : Type} [DecidableEq Key] {table other : Event.Table Key Handler}

/-- Tables that are alike have subscriptions that are alike under each key. -/
theorem under_alike (alike : List.Forall₂ AlikeRows table other) (key : Key) :
    List.Forall₂ AlikeSubscriptions (table.under key) (other.under key) := by
  induction alike with
  | nil => exact .nil
  | @cons row row' rest rest' same _ ih =>
      obtain ⟨name, held⟩ := row
      obtain ⟨name', held'⟩ := row'
      obtain ⟨rfl, same⟩ := same
      simp only [Event.Table.under]
      split
      · exact same
      · exact ih

/-- Subscriptions that are alike may be added. -/
theorem add_alike (alike : List.Forall₂ AlikeRows table other) (key : Key)
    {subscription subscription' : Event.Subscription Handler}
    (new : AlikeSubscriptions subscription subscription') :
    List.Forall₂ AlikeRows (table.add key subscription) (other.add key subscription') := by
  induction alike with
  | nil => exact .cons ⟨rfl, .cons new .nil⟩ .nil
  | @cons row row' rest rest' same tail ih =>
      obtain ⟨name, held⟩ := row
      obtain ⟨name', held'⟩ := row'
      obtain ⟨rfl, same⟩ := same
      simp only [Event.Table.add]
      split
      · exact .cons ⟨rfl, List.rel_append same (.cons new .nil)⟩ tail
      · exact .cons ⟨rfl, same⟩ ih

/-- Tables that are alike hold the same ids. -/
theorem holds_alike (alike : List.Forall₂ AlikeRows table other) (key : Key) (id : Nat) :
    table.holds key id = other.holds key id := by
  have held := under_alike alike key
  rw [Event.Table.holds, Event.Table.holds]
  revert held
  generalize table.under key = held
  generalize other.under key = held'
  intro alike
  induction alike with
  | nil => rfl
  | cons same rest ih => rw [List.any_cons, List.any_cons, same.id, ih]

/-- The same id may be erased from both tables. -/
theorem erase_alike (alike : List.Forall₂ AlikeRows table other) (key : Key) (id : Nat) :
    List.Forall₂ AlikeRows (table.erase key id) (other.erase key id) := by
  induction alike with
  | nil => exact .nil
  | @cons row row' rest rest' same tail ih =>
      obtain ⟨name, held⟩ := row
      obtain ⟨name', held'⟩ := row'
      obtain ⟨rfl, same⟩ := same
      simp only [Event.Table.erase]
      split
      · exact .cons ⟨rfl, List.rel_filter (fun _ _ same => by simp only [same.id]) same⟩ tail
      · exact .cons ⟨rfl, same⟩ ih

end Tables

namespace AlikeBridges

variable {bridge other : Event.Bridge Handler}

/-- Subscribers that are alike may come to bridges that are alike. -/
theorem subscribe (alike : AlikeBridges bridge other) (kind : Event.Kind) {handler handler' : Handler}
    (same : handler.Alike handler') :
    AlikeBridges (bridge.subscribe kind handler).1 (other.subscribe kind handler').1 :=
  { alike with
    next := congrArg (· + 1) alike.next
    typed := add_alike alike.typed kind ⟨alike.next, same⟩ }

/-- So may raw subscribers. -/
theorem subscribeRaw (alike : AlikeBridges bridge other) (name : String) {handler handler' : Handler}
    (same : handler.Alike handler') :
    AlikeBridges (bridge.subscribeRaw name handler).1 (other.subscribeRaw name handler').1 :=
  { alike with
    next := congrArg (· + 1) alike.next
    raw := add_alike alike.raw name ⟨alike.next, same⟩ }

/-- A raw subscriber leaves both bridges, or none. -/
theorem unsubscribeRaw (alike : AlikeBridges bridge other) (name : String) (id : Nat) :
    AlikeBridges (bridge.unsubscribeRaw name id).1 (other.unsubscribeRaw name id).1 ∧
      (bridge.unsubscribeRaw name id).2 = (other.unsubscribeRaw name id).2 := by
  unfold Event.Bridge.unsubscribeRaw
  rw [holds_alike alike.raw]
  split
  · exact ⟨{ alike with raw := erase_alike alike.raw name id }, rfl⟩
  · exact ⟨alike, rfl⟩

/-- A subscriber leaves both bridges, or none. -/
theorem unsubscribe (alike : AlikeBridges bridge other) (name : String) (id : Nat) :
    AlikeBridges (bridge.unsubscribe name id).1 (other.unsubscribe name id).1 ∧
      (bridge.unsubscribe name id).2 = (other.unsubscribe name id).2 := by
  unfold Event.Bridge.unsubscribe
  cases Event.Kind.ofName? name with
  | none => exact alike.unsubscribeRaw name id
  | some kind =>
      dsimp only
      rw [holds_alike alike.typed]
      split
      · exact ⟨{ alike with typed := erase_alike alike.typed kind id }, rfl⟩
      · exact alike.unsubscribeRaw name id

/-- Bridges that are alike count the same subscribers. -/
theorem count (alike : AlikeBridges bridge other) (name : String) : bridge.count name = other.count name := by
  unfold Event.Bridge.count
  cases Event.Kind.ofName? name with
  | none => exact (under_alike alike.raw name).length_eq
  | some kind => exact (under_alike alike.typed kind).length_eq

end AlikeBridges

/-- Bridges that are alike may be set. -/
theorem setBridge_twins {bridge other : Event.Bridge Handler} (alike : AlikeBridges bridge other) :
    Twins Eq (modify fun world : World => { world with bridge })
      (modify fun world : World => { world with bridge := other }) :=
  twins_modify fun _ _ same => { same with bridge := alike }

/-- Subscribers that are alike take the same number. -/
theorem subscribe_twins (kind : Event.Kind) {handler other : Handler} (alike : handler.Alike other) :
    Twins Eq (subscribe kind handler) (subscribe kind other) := by
  apply twins_get
  intro world world' same
  exact (setBridge_twins (same.bridge.subscribe kind alike)).then fun _ _ _ => together_pure same.bridge.next

/-- So do raw subscribers. -/
theorem subscribeRaw_twins (event : String) {handler other : Handler} (alike : handler.Alike other) :
    Twins Eq (subscribeRaw event handler) (subscribeRaw event other) := by
  apply (Run.plain_reportAll _).twins.then
  intro _ _ _
  apply twins_get
  intro world world' same
  exact (setBridge_twins (same.bridge.subscribeRaw event alike)).then fun _ _ _ =>
    together_pure same.bridge.next

/-- A subscription ends in both worlds, or in none. -/
theorem unsubscribe_twins (event : String) (id : Nat) :
    Twins Eq (unsubscribe event id) (unsubscribe event id) := by
  apply twins_get
  intro world world' same
  obtain ⟨bridge, answer⟩ := same.bridge.unsubscribe event id
  exact (setBridge_twins bridge).then fun _ _ _ => together_pure answer

/-- A source is hooked to the ticks in both worlds. -/
theorem hookTicks_twins (host : Nat) : Twins Eq (hookTicks host) (hookTicks host) := by
  apply (twins_host host).then
  intro state other alike
  rw [alike.source.subscription]
  split
  · exact together_pure rfl
  · apply (subscribe_twins .logicTick (.source host)).then
    rintro id _ rfl
    have hooked : Twins Eq
        (Run.modifyHost host fun host => { host with source := { host.source with subscription := some id } })
        (Run.modifyHost host fun host => { host with source := { host.source with subscription := some id } }) :=
      twins_modifyHost host fun _ _ alike => { alike with source := { alike.source with subscription := rfl } }
    exact hooked.then fun _ _ _ => together_pure rfl

/-- A source is unhooked in both worlds. -/
theorem unhookTicks_twins (host : Nat) : Twins Eq (unhookTicks host) (unhookTicks host) := by
  apply (twins_host host).then
  intro state other alike
  rw [alike.source.subscription]
  split
  · exact together_pure rfl
  · have unhooked : Twins Eq
        (Run.modifyHost host fun host => { host with source := { host.source with subscription := none } })
        (Run.modifyHost host fun host => { host with source := { host.source with subscription := none } }) :=
      twins_modifyHost host fun _ _ alike => { alike with source := { alike.source with subscription := rfl } }
    exact unhooked.then fun _ _ _ => unsubscribe_twins _ _

/-- Listeners that are alike may come to sources that are alike. -/
theorem listen_alike {source other : Tick.Source Listener} (alike : AlikeSources source other)
    {listener listener' : Listener} (same : listener.Alike listener') :
    AlikeSources (source.listen listener).1 (other.listen listener').1 :=
  { alike with
    count := congrArg (· + 1) alike.count
    listeners := List.rel_append alike.listeners (.cons ⟨congrArg (· + 1) alike.count, same⟩ .nil) }

/-- Listeners that are alike take the same number. -/
theorem listen_twins (host : Nat) {listener other : Listener} (alike : listener.Alike other) :
    Twins Eq (listen host listener) (listen host other) := by
  apply (twins_host host).then
  intro state state' same
  have put : Twins Eq
      (Run.modifyHost host fun host => { host with source := (state.source.listen listener).1 })
      (Run.modifyHost host fun host => { host with source := (state'.source.listen other).1 }) :=
    twins_modifyHost host fun _ _ later => { later with source := listen_alike same.source alike }
  exact put.then fun _ _ _ => together_pure (congrArg (· + 1) same.source.count)

/-- A listener may leave both sources. -/
theorem dismiss_alike {source other : Tick.Source Listener} (alike : AlikeSources source other) (id : Nat) :
    AlikeSources (source.dismiss id) (other.dismiss id) :=
  { alike with listeners := List.rel_filter (fun _ _ same => by simp only [same.id]) alike.listeners }

/-- Sources that are alike have the same listeners. -/
theorem hasListener_alike {source other : Tick.Source Listener} (alike : AlikeSources source other)
    (id : Nat) : source.hasListener id = other.hasListener id := by
  have listeners := alike.listeners
  rw [Tick.Source.hasListener, Tick.Source.hasListener]
  revert listeners
  generalize source.listeners = listeners
  generalize other.listeners = others
  intro alike
  induction alike with
  | nil => rfl
  | cons same rest ih => rw [List.any_cons, List.any_cons, same.id, ih]

/-- A listener leaves both sources, or none. -/
theorem dismiss_twins (host id : Nat) : Twins Eq (dismiss host id) (dismiss host id) := by
  apply (twins_host host).then
  intro state other alike
  have put : Twins Eq
      (Run.modifyHost host fun host => { host with source := host.source.dismiss id })
      (Run.modifyHost host fun host => { host with source := host.source.dismiss id }) :=
    twins_modifyHost host fun _ _ later => { later with source := dismiss_alike later.source id }
  exact put.then fun _ _ _ => together_pure (hasListener_alike alike.source id)

variable {call : Caller}

/-- A listener does the same in both worlds, but it may end differently. -/
theorem callListener_cousins (fair : call.Fair) (signal : Tick.Signal) {listener other : Listener}
    (alike : listener.Alike other) :
    Cousins (callListener call signal listener) (callListener call signal other) := by
  cases alike with
  | hook alike => exact fair.hook _ alike
  | scheduler host journalName =>
      apply Run.Twins.cousins
      have ticked := Scheduler.tick_twins fair host signal
      cases journalName with
      | none => exact ticked.discard
      | some name =>
          apply (twins_note (.same (.tickCommanded host signal))).then
          intro _ _ _
          exact ticked.then fun _ _ alike => twins_note (.ticked name alike)

/-- All listeners are called in both worlds, whoever fails. -/
theorem broadcast_twins (fair : call.Fair) (signal : Tick.Signal)
    {listeners others : List (Tick.Listening Listener)}
    (alike : List.Forall₂ AlikeListenings listeners others) :
    Twins Eq (broadcast call signal listeners) (broadcast call signal others) := by
  induction alike with
  | nil => exact together_pure rfl
  | @cons listening other rest rest' same _ ih =>
      have called := callListener_cousins fair signal same.listener
      exact called.reporting ih rfl (fun _ => rfl) rfl fun _ => rfl

/-- The native tick is turned into the same signal. -/
theorem nativeTick_twins (fair : call.Fair) (host : Nat) (index : UInt64) :
    Twins Eq (nativeTick call host index) (nativeTick call host index) := by
  apply twins_get
  intro world world' alike
  rw [alike.engine]
  apply (twins_host host).then
  intro state other same
  dsimp only
  rw [same.source.clock]
  apply (Run.plain_reportAll _).twins.then
  intro _ _ _
  have advanced : Twins Eq
      (Run.modifyHost host fun host => { host with
        source := { host.source with
          clock := host.source.clock.advance (Tick.signalOf world'.engine.interval index) } })
      (Run.modifyHost host fun host => { host with
        source := { host.source with
          clock := host.source.clock.advance (Tick.signalOf world'.engine.interval index) } }) :=
    twins_modifyHost host fun _ _ later =>
      { later with source := { later.source with clock := by rw [later.source.clock] } }
  apply advanced.then
  intro _ _ _
  exact (twins_note (.same _)).then fun _ _ _ => broadcast_twins fair _ same.source.listeners

/-- A subscriber does the same in both worlds, but it may end differently. -/
theorem callHandler_cousins (fair : call.Fair) (event : Event.Builtin) {handler other : Handler}
    (alike : handler.Alike other) :
    Cousins (callHandler call event handler) (callHandler call event other) := by
  cases alike with
  | hook alike => exact fair.hook _ alike
  | source host =>
      apply Run.Twins.cousins
      apply (twins_host host).then
      intro state other same
      apply twins_ite (by rw [same.freed])
      · cases event with
        | logicTick index => exact nativeTick_twins fair host index
        | _ => exact together_pure rfl
      · exact together_pure rfl

/-- So does a raw subscriber. -/
theorem callRawHandler_cousins (fair : call.Fair) (payload : Event.Payload) {handler other : Handler}
    (alike : handler.Alike other) :
    Cousins (callRawHandler call payload handler) (callRawHandler call payload other) := by
  cases alike with
  | hook alike => exact fair.hook _ alike
  | source host => exact Run.Twins.cousins (together_pure rfl)

/-- All subscribers are called in both worlds, whoever fails. -/
theorem deliver_twins (name : String) {hand : Handler → Run Unit}
    (heard : ∀ {handler other}, Handler.Alike handler other → Cousins (hand handler) (hand other))
    {subscriptions others : List (Event.Subscription Handler)}
    (alike : List.Forall₂ AlikeSubscriptions subscriptions others) :
    Twins Eq (deliver name hand subscriptions) (deliver name hand others) := by
  induction alike with
  | nil => exact together_pure rfl
  | @cons subscription other rest rest' same _ ih =>
      exact Run.Cousins.reporting (heard same.handler) ih rfl (fun _ => rfl) rfl fun _ => rfl

/-- An event takes the same route in both worlds. -/
theorem dispatch_twins (fair : call.Fair) (name : String) (payload : Event.Payload) :
    Twins Eq (dispatch call name payload) (dispatch call name payload) := by
  apply twins_get
  intro world world' alike
  cases Event.Kind.ofName? name with
  | none =>
      have subscribers := under_alike alike.bridge.raw name
      apply (deliver_twins name (callRawHandler_cousins fair payload) subscribers).then
      exact fun _ _ _ => together_pure (congrArg Event.Route.raw subscribers.length_eq)
  | some kind =>
      dsimp only
      split
      · next event _ =>
          have subscribers := under_alike alike.bridge.typed kind
          apply (deliver_twins name (callHandler_cousins fair event) subscribers).then
          exact fun _ _ _ => together_pure (congrArg Event.Route.typed subscribers.length_eq)
      · have dropped : Twins Eq
            (modify fun world : World => { world with bridge := world.bridge.drop })
            (modify fun world : World => { world with bridge := world.bridge.drop }) :=
          twins_modify fun _ _ same =>
            { same with bridge := { same.bridge with dropped := congrArg (· + 1) same.bridge.dropped } }
        apply dropped.then
        intro _ _ _
        exact (report_twins _).then fun _ _ _ => together_pure rfl

end ScriptHost.Session.Events

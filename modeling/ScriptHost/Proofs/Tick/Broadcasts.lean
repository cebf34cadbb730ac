/-
This file shows that every native tick makes each hooked source broadcast once, and that nothing else does.
-/
import ScriptHost.Proofs.Tick.Delivery

namespace ScriptHost.Session

open Event (Bridge Subscription)
open Run (Returns Enacts)

/-- A tick reaches the subscribers before a source, the source itself, and the subscribers after it. The source
broadcasts one signal to the listeners that it has by then, and none of the others makes it broadcast. -/
structure Struck (call : Caller) (host id : Nat) (index : UInt64) (world after : World)
    (before later : List (Subscription Handler)) (middle last : World) (begun ended : List Entry) : Prop where
  snapshot : world.bridge.typed.under .logicTick = before ++ ⟨id, .source host⟩ :: later
  early : (Events.deliver Event.Kind.logicTick.name (Events.callHandler call (.logicTick index)) before).run.run world =
    (.ok (), middle)
  own : (Events.nativeTick call host index).run.run middle = (.ok (), last)
  late : (Events.deliver Event.Kind.logicTick.name (Events.callHandler call (.logicTick index)) later).run.run last =
    (.ok (), after)
  begins : Kept begun world middle
  broadcasts : Kept (.broadcast host (Tick.signalOf middle.engine.interval index) ::
    Events.calls (Tick.signalOf middle.engine.interval index) (middle.sourceOf host).listeners) middle last
  ends : Kept ended last after
  unheralded : Silent host begun
  unrepeated : Silent host ended

/-- The dispatch is of a tick of the right size, and the source is among its subscribers. -/
def Hears (world : World) (host : Nat) (name : String) (payload : Event.Payload) : Prop :=
  name = Event.Kind.logicTick.name ∧ payload.length = Event.Kind.logicTick.size ∧
    ∃ subscription ∈ world.bridge.typed.under .logicTick, subscription.handler = .source host

variable {world after : World} {host id : Nat}

/-- A run that ends well has run to the world that it ends in. -/
theorem Run.Ends.traced {α : Type} {body : Run α} {good : α → World → Prop} {bad : World → Prop}
    (ends : body.Ends world (Returns good bad)) :
    body.Ends world (Returns (fun value after => body.run.run world = (.ok value, after) ∧ good value after) bad) := by
  unfold Run.Ends at ends ⊢
  revert ends
  rcases body.run.run world with ⟨result, after⟩
  intro ends
  obtain ⟨value, rfl, holds⟩ | ⟨rfl, fails⟩ := ends.cases
  · exact ⟨rfl, holds⟩
  · exact fails

/-- A payload that decodes has the size of its kind and the event at its start. -/
theorem decode_eq {kind : Event.Kind} {payload : Event.Payload} {event : Event.Builtin}
    (decoded : kind.decode payload = .ok event) : payload.length = kind.size ∧ event = .ofPayload payload kind := by
  unfold Event.Kind.decode at decoded
  split at decoded
  · next sized => exact ⟨sized, (Except.ok.inj decoded).symm⟩
  · cases decoded

/-- Only the native kind holds a native tick. -/
theorem kind_of_tick {kind : Event.Kind} {payload : Event.Payload} {index : UInt64}
    (tick : Event.Builtin.ofPayload payload kind = .logicTick index) : kind = .logicTick := by
  cases kind <;> first
    | rfl
    | cases tick

namespace Events

variable {call : Caller} (attentive : Attentive call)

include attentive

/-- The subscribers of an event take it in turn, and the sources among them take ticks only. -/
theorem deliver_typed_shows {kind : Event.Kind} {payload : Event.Payload} {name : String} {event : Event.Builtin}
    (decoded : kind.decode payload = .ok event) (ready : Ready world) :
    (deliver name (callHandler call event) (world.bridge.typed.under kind)).Shows world fun _ shown =>
      ∀ host, ¬ Silent host shown → kind = .logicTick ∧
        ∃ subscription ∈ world.bridge.typed.under kind, subscription.handler = .source host := by
  obtain ⟨-, rfl⟩ := decode_eq decoded
  refine (deliver_shows (Handler.Heeds (.ofPayload payload kind)) _ (fun subscription among middle still same =>
    callHandler_acts attentive (ready.typed kind subscription among) ?_ still) ready).imp ?_
  · intro host index ours tick
    obtain rfl := kind_of_tick tick
    rw [same]
    exact present_of_subscription (ready.wired.keeps among ours)
  · rintro _ shown due host loud
    obtain ⟨subscription, among, ours, index, tick⟩ := due host loud
    exact ⟨kind_of_tick tick, subscription, among, ours⟩

/-- The payloads of a name mean nothing to a source. -/
theorem deliver_raw_shows (name : String) (payload : Event.Payload) (ready : Ready world) :
    (deliver name (callRawHandler call payload) (world.bridge.raw.under name)).Shows world fun _ shown =>
      ∀ host, Silent host shown := by
  refine (deliver_shows (fun _ _ => False) _ (fun subscription among middle still _ =>
    callRawHandler_acts attentive (ready.raw name subscription among) still) ready).imp fun _ shown due host => ?_
  by_contra loud
  obtain ⟨_, _, absent⟩ := due host loud
  exact absent

/-- A source that does not hear of a dispatch does not broadcast. -/
theorem dispatch_shows (name : String) (payload : Event.Payload) (ready : Ready world) :
    (dispatch call name payload).Shows world fun _ shown =>
      ∀ host, ¬ Silent host shown → Hears world host name payload := by
  refine .step rfl (.refl ready) ?_
  split
  · next kind named =>
      split
      · next event decoded =>
          refine (deliver_typed_shows attentive decoded ready).bind fun _ shown after kept due => ?_
          refine .of_run rfl (.refl kept.ready) fun host loud => ?_
          rw [List.append_nil] at loud
          obtain ⟨rfl, hooked⟩ := due host loud
          exact ⟨(Event.Kind.name_ofName? named).symm, (decode_eq decoded).1, hooked⟩
      · next mismatch _ =>
          have dropped : Kept [] world { world with bridge := world.bridge.drop } := .still ready.dropped rfl rfl
          exact .of_run rfl (dropped.report _) fun host loud => absurd nofun loud
  · refine (deliver_raw_shows attentive name payload ready).bind fun _ shown after kept silent => ?_
    refine .of_run rfl (.refl kept.ready) fun host loud => ?_
    rw [List.append_nil] at loud
    exact absurd (silent host) loud

/-- A broadcast ends well, whatever its listeners do. -/
theorem isolate_source (present : host < world.hosts.length) (index : UInt64) (ready : Ready world) :
    (Run.isolate (callHandler call (.logicTick index) (.source host))).Ends world (Returns (fun fault last =>
      fault = none ∧ (nativeTick call host index).run.run world = (.ok (), last) ∧
        Kept (.broadcast host (Tick.signalOf world.engine.interval index) ::
          calls (Tick.signalOf world.engine.interval index) (world.sourceOf host).listeners) world last)
      (Wrecked world)) := by
  have native := Run.Ends.traced (nativeTick_shows attentive present index ready)
  unfold Run.Ends at native ⊢
  rw [Run.isolate_run, callHandler_source (ready.freed host)]
  obtain ⟨value, same, ran, shown, kept, rfl⟩ | ⟨same, wrecked⟩ := native.cases
  · dsimp only
    rw [same]
    exact ⟨rfl, ran, kept⟩
  · dsimp only
    rw [same]
    exact wrecked

/-- Whoever stands beside a source does not make it broadcast. -/
theorem bystanders_shows {others : List (Subscription Handler)} (index : UInt64)
    (among : ∀ other ∈ others,
      other.handler.Ticking ∧ ∀ place, other.handler = .source place → place < world.hosts.length)
    (apart : ∀ other ∈ others, other.handler ≠ .source host) (ready : Ready world) :
    (deliver Event.Kind.logicTick.name (callHandler call (.logicTick index)) others).Shows world fun _ shown =>
      Silent host shown := by
  refine (deliver_shows (Handler.Heeds (.logicTick index)) others (fun other held middle still same =>
    callHandler_acts attentive (among other held).1 (fun place _ ours _ => ?_) still) ready).imp fun _ shown due => ?_
  · rw [same]
    exact (among other held).2 place ours
  · by_contra loud
    obtain ⟨other, held, ours, -⟩ := due host loud
    exact apart other held ours

/-- A source that hears of a tick broadcasts once. -/
theorem dispatch_strikes {payload : Event.Payload} (sized : payload.length = Event.Kind.logicTick.size)
    (keeps : (world.sourceOf host).subscription = some id) (ready : Ready world) :
    (dispatch call Event.Kind.logicTick.name payload).Ends world (Returns (fun _ after =>
      ∃ before later middle last begun ended,
        Struck call host id (Event.readWord payload 0) world after before later middle last begun ended)
      (Wrecked world)) := by
  obtain ⟨before, later, snapshot, unlikely, unlike⟩ := ready.wired.divides keeps
  have present := present_of_subscription keeps
  have decoded : Event.Kind.logicTick.decode payload = .ok (.logicTick (Event.readWord payload 0)) := if_pos sized
  generalize Event.readWord payload 0 = index at decoded ⊢
  have among (other : Subscription Handler) (held : other ∈ world.bridge.typed.under .logicTick) :
      other.handler.Ticking ∧ ∀ place, other.handler = .source place → place < world.hosts.length :=
    ⟨ready.typed .logicTick other held, fun _ ours => present_of_subscription (ready.wired.keeps held ours)⟩
  unfold dispatch
  rw [Run.ends_bind, Run.ends_get, Run.followed_ok]
  simp only [Event.Kind.ofName?_name, decoded, snapshot, deliver_append, bind_assoc]
  have first := bystanders_shows attentive index
    (fun other held => among other (snapshot ▸ List.mem_append_left _ held)) unlikely ready
  refine (Run.Ends.traced first).returns fun _ middle holds => ?_
  obtain ⟨early, begun, begins, unheralded⟩ := holds
  have source := isolate_source attentive (begins.length ▸ present) index begins.ready
  rw [deliver, bind_assoc]
  refine (source.excuse fun _ wrecked => wrecked.since begins.length).returns fun _ last holds => ?_
  obtain ⟨rfl, own, broadcasts⟩ := holds
  have length := broadcasts.length.trans begins.length
  have rest := bystanders_shows attentive index
    (fun other held => length ▸ among other (snapshot ▸ List.mem_append_right _ (.tail _ held))) unlike broadcasts.ready
  refine ((Run.Ends.traced rest).excuse fun _ wrecked => wrecked.since length).returns fun _ after holds => ?_
  obtain ⟨late, ended, ends, unrepeated⟩ := holds
  exact ⟨before, later, middle, last, begun, ended, snapshot, early, own, late, begins, broadcasts, ends, unheralded,
    unrepeated⟩

end Events

end ScriptHost.Session

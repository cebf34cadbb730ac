/-
This file shows that a native tick has the running runtime tick once, and that no other event has anybody tick.
-/
import ScriptHost.Proofs.Event.Encoding
import ScriptHost.Proofs.Event.Listing
import ScriptHost.Proofs.Tenure.Leading
import ScriptHost.Proofs.Tenure.Stages

namespace ScriptHost.Session.Tenure

open Shutdown (sure_returns)

variable {seen : Survey} {world : World} {stage : Stage} {host depth : Nat} {α : Type}

/-- A host that ticks begins one tick, and nothing else that counts changes. -/
theorem tick_leads (holds : Shows seen world) (signal : Tick.Signal) :
    Leads (Shows (seen.begin [(host, signal)])) (Scheduler.tick (caller depth) host signal) world := by
  apply leads_registry
  apply leads_note
  refine leads_keeping ?_ (holds.began host signal)
  exact Scheduler.turns_agrees (caller_heeding depth) (shows_heeds _) signal _

section Delivery

variable {hand : Handler → Run Unit} {subscription : Event.Subscription Handler} {later : Survey}

/-- A single subscriber hears of the event, and its fault is reported. -/
theorem deliver_single (name : String) (leads : Leads (Shows later) (hand subscription.handler) world) :
    Leads (Shows later) (Events.deliver name hand [subscription]) world := by
  apply leads.isolate.bind fun _ => id
  intro fault after holds
  cases fault with
  | none => exact leads_pure holds
  | some fault => exact leads_keeping ((shows_heeds later).agrees_report _) holds

/-- A broadcast to a single listener does what that listener does. -/
theorem broadcast_single {signal : Tick.Signal} {listening : Tick.Listening Listener}
    (leads : Leads (Shows later) (Events.callListener (caller depth) signal listening.listener) world) :
    Leads (Shows later) (Events.broadcast (caller depth) signal [listening]) world := by
  apply leads.isolate.bind fun _ => id
  intro fault after holds
  cases fault with
  | none => exact leads_pure holds
  | some fault => exact leads_keeping ((shows_heeds later).agrees_report _) holds

end Delivery

/-- A native tick drives the scheduler of the runtime that listens. -/
theorem nativeTick_leads {listener : Nat} (holds : Shows seen world)
    (listens : (seen.standing host).listeners = [⟨listener, .scheduler host none⟩]) (index : UInt64) :
    Leads (Shows (seen.begin [(host, Tick.signalOf world.engine.interval index)]))
      (Events.nativeTick (caller depth) host index) world := by
  have listening : (world.hostOf host).source.listeners = [⟨listener, .scheduler host none⟩] :=
    (congrArg Standing.listeners (holds.standing_eq host)).trans listens
  apply leads_get
  apply leads_host
  dsimp only
  have reporting : ∀ records, Leads (Shows seen) (Run.reportAll records) world :=
    fun records => leads_keeping ((shows_heeds seen).agrees_reportAll records) holds
  refine (reporting _).followed (sure_returns fun _ => ⟨(), rfl⟩) ?_
  intro _ after reported
  apply leads_modifyHost
  apply leads_note
  rw [listening]
  apply broadcast_single
  apply (tick_leads _ _).discard
  apply Shows.note _ rfl
  exact reported.kept rfl
    (reported.within.putHost host _ (reported.within.receivers host) (reported.within.sources host))

/-- This is the index of the native tick that such an event announces. -/
def tickIndex? (name : String) (payload : Event.Payload) : Option UInt64 :=
  match Event.decode name payload with
  | some (.ok (.logicTick index)) => some index
  | _ => none

/-- What is published under its own name announces a native tick just if it is one. -/
theorem tickIndex?_encode (event : Event.Builtin) : tickIndex? event.name event.encode =
    match event with
    | .logicTick index => some index
    | _ => none := by
  have known : Event.decode event.name event.encode = some (event.kind.decode event.encode) := by
    rw [Event.decode, Event.Builtin.name, Event.Kind.ofName?_name, Option.map_some]
  unfold tickIndex?
  rw [known]
  cases event with
  | logicTick index =>
      have decoded : (Event.Builtin.logicTick index).kind.decode (Event.Builtin.logicTick index).encode =
          .ok (.logicTick index) := Event.decode_logicTick index
      rw [decoded]
  | _ =>
      unfold Event.Kind.decode
      split
      · next other =>
          split at other <;> cases other
      · rfl

/-- These ticks begin in a stage when a native tick is announced. -/
def Stage.ticks (stage : Stage) (interval : Float32) (index : UInt64) : List (Nat × Tick.Signal) :=
  match stage with
  | .running host .. => [(host, Tick.signalOf interval index)]
  | _ => []

/-- Sources make nothing of other events than native ticks. -/
theorem callHandler_agrees (depth : Nat) {event : Event.Builtin} (other : event.kind ≠ .logicTick)
    {handler : Handler} (within : handler.Within .quiet) :
    (Events.callHandler (caller depth) event handler).Agrees (Diagonal (Shows seen)) := by
  cases handler with
  | hook hooked => exact (caller_heeding depth).hook (shows_heeds seen) _ within
  | source host =>
      apply Run.agrees_host
      · rintro world _ ⟨rfl, -⟩
        rfl
      · intro world _ holds
        split
        · cases event <;> first | exact Run.agrees_pure _ _ _ holds | exact absurd rfl other
        · exact Run.agrees_pure _ _ _ holds

/-- A native tick that is announced reaches the running runtime, if there is one, and it ticks once. -/
theorem logicTick_leads (holds : Shows seen world) (stands : Stands stage seen) (index : UInt64) :
    Leads (Shows (seen.begin (stage.ticks world.engine.interval index)))
      (Events.deliver "logic_tick" (Events.callHandler (caller depth) (.logicTick index)) stage.heard) world := by
  cases stage with
  | idle => exact leads_pure holds
  | created host => exact leads_pure holds
  | running host subscription listener =>
      have one := stands.holds host rfl
      have kept : (world.hostOf host).freed = false :=
        (congrArg Standing.freed (holds.standing_eq host)).trans one.kept
      apply deliver_single
      apply leads_host
      rw [kept]
      exact nativeTick_leads holds one.listeners index

/-- Only an event that decodes to a native tick has anybody tick. -/
theorem dispatch_leads (holds : Shows seen world) (stands : Stands stage seen) (name : String)
    (payload : Event.Payload) :
    Leads (Shows (seen.begin ((tickIndex? name payload).elim [] (stage.ticks world.engine.interval))))
      (Events.dispatch (caller depth) name payload) world := by
  unfold tickIndex? Event.decode
  apply leads_get
  cases known : Event.Kind.ofName? name with
  | none =>
      have delivered := Events.deliver_agrees (shows_heeds seen) name _ fun subscription member =>
        Events.callRawHandler_agrees (caller_heeding depth) (shows_heeds seen) payload
          (holds.within.bridge.raw name subscription member)
      exact leads_keeping (delivered.bind fun _ => Run.agrees_pure _) holds
  | some kind =>
      simp only [Option.map_some]
      cases decoded : kind.decode payload with
      | error mismatch =>
          apply leads_modify
          have dropped : Shows seen { world with bridge := world.bridge.drop } :=
            ⟨holds.within.rebridge holds.within.bridge.drop, holds.same⟩
          exact leads_keeping (((shows_heeds seen).agrees_report _).bind fun _ => Run.agrees_pure _) dropped
      | ok event =>
          have same := Listing.decode_kind decoded
          by_cases tick : kind = .logicTick
          · subst tick
            cases event <;> first | cases same; done | skip
            next index =>
              have named : name = "logic_tick" := (Event.Kind.name_ofName? known).symm
              rw [holds.heard_eq, stands.heard, named]
              exact (logicTick_leads holds stands index).bind (fun _ => id) fun _ _ => leads_pure
          · have other : event.kind ≠ .logicTick := fun absurd => tick (same.symm.trans absurd)
            have delivered := Events.deliver_agrees (shows_heeds seen) name _ fun subscription member =>
              callHandler_agrees depth other (holds.within.bridge.typed kind subscription member)
            cases event <;> first | exact absurd rfl other | skip
            all_goals exact leads_keeping (delivered.bind fun _ => Run.agrees_pure _) holds

end ScriptHost.Session.Tenure

/-
This file follows an event through the hooks that publish further events, and shows when a run waits for itself.
-/
import ScriptHost.Proofs.Locks.Turns

namespace ScriptHost.Session.Locks

open Event (Subscription)

variable {stirs : Nat → Nat → Prop} {depth : Nat} {opened : List Nat} {world after : World} {call : Caller}

section Delivery

variable (attends : Attends stirs depth call) (scene : Scene stirs opened (View.of world))

include attends scene

/-- A hook that is heard is called, and it may halt. -/
theorem heard_tries {hooked : Hooked} (hears : (View.of world).Hears hooked) (arguments : Arguments) :
    (call.hook hooked arguments).Ends world (Tries stirs depth opened world) :=
  attends opened world hooked arguments (scene.heard hooked hears) fun _ => scene.hear hears

/-- A listener that is heard is called, and it may halt. -/
theorem callListener_tries {listener : Listener}
    (heard : ∀ hooked, listener = .hook hooked → (View.of world).Hears hooked) (signal : Tick.Signal) :
    (Events.callListener call signal listener).Ends world (Tries stirs depth opened world) := by
  rcases listener with hooked | ⟨place, _ | name⟩
  · exact heard_tries attends scene (heard hooked rfl) (.signal signal)
  · exact frees_tries (frees_discard (tick_frees attends signal scene))
  · have commanded : Plain (.tickCommanded place signal) := trivial
    refine tries_step rfl (.note commanded world) ?_
    refine tries_bind (tick_frees attends signal scene) fun report after _ _ => ?_
    have ticked : Plain (.ticked name report) := trivial
    exact Clear.note ticked after

/-- A signal goes to all listeners, unless one of them halts. -/
theorem broadcast_frees (signal : Tick.Signal) (listeners : List (Tick.Listening Listener))
    (heard : ∀ listening ∈ listeners, ∀ hooked, listening.listener = .hook hooked → (View.of world).Hears hooked) :
    (Events.broadcast call signal listeners).Ends world (Frees stirs depth opened (fun _ _ => True) world) := by
  induction listeners generalizing world with
  | nil => exact frees_run rfl (.refl world) trivial
  | cons listening rest ih =>
      obtain ⟨own, others⟩ := List.forall_mem_cons.mp heard
      refine frees_report (callListener_tries attends scene own signal) fun after clear => ?_
      refine ih ?_ ?_
      · rw [clear.view]
        exact scene
      · rw [clear.view]
        exact others

/-- A stroke of the clock goes to all listeners, unless one of them halts. -/
theorem strike_frees (host : Nat) (signal : Tick.Signal) (listeners : List (Tick.Listening Listener))
    (heard : ∀ listening ∈ listeners, ∀ hooked, listening.listener = .hook hooked → (View.of world).Hears hooked) :
    (do
      Run.modifyHost host fun host =>
        { host with source := { host.source with clock := host.source.clock.advance signal } }
      Run.note (.broadcast host signal)
      Events.broadcast call signal listeners).Ends world (Frees stirs depth opened (fun _ _ => True) world) := by
  have struck : View.of (world.putHost host { world.hostOf host with
      source := { (world.hostOf host).source with clock := (world.hostOf host).source.clock.advance signal } }) =
      View.of world := view_putHost rfl
  have told : Plain (.broadcast host signal) := trivial
  refine frees_step rfl (.still struck rfl) (frees_step rfl (.note told _) ?_)
  refine broadcast_frees attends ?_ signal listeners ?_
  · exact struck.symm ▸ scene
  · exact struck.symm ▸ heard

/-- So does the native tick. -/
theorem nativeTick_frees (host : Nat) (index : UInt64) :
    (Events.nativeTick call host index).Ends world (Frees stirs depth opened (fun _ _ => True) world) := by
  refine frees_step rfl (.refl world) (frees_step rfl (.refl world) (frees_step rfl (.reports world _) ?_))
  refine strike_frees attends ?_ host _ _ ?_
  · exact scene
  · exact fun listening among hooked same => .inr (.inr ⟨host, listening, among, same⟩)

/-- A subscriber that is heard is called, and it may halt. -/
theorem callHandler_tries (event : Event.Builtin) {handler : Handler}
    (heard : ∀ hooked, handler = .hook hooked → (View.of world).Hears hooked) :
    (Events.callHandler call event handler).Ends world (Tries stirs depth opened world) := by
  cases handler with
  | hook hooked => exact heard_tries attends scene (heard hooked rfl) (.event event)
  | source host =>
      refine tries_step rfl (.refl world) ?_
      split
      · cases event with
        | logicTick index => exact frees_tries (nativeTick_frees attends scene host index)
        | _ => exact Clear.refl world
      · exact Clear.refl world

/-- So is a raw subscriber. -/
theorem callRawHandler_tries (payload : Event.Payload) {handler : Handler}
    (heard : ∀ hooked, handler = .hook hooked → (View.of world).Hears hooked) :
    (Events.callRawHandler call payload handler).Ends world (Tries stirs depth opened world) := by
  cases handler with
  | hook hooked => exact heard_tries attends scene (heard hooked rfl) (.payload payload)
  | source host => exact Clear.refl world

omit attends in
/-- An event goes to all subscribers, unless one of them halts. -/
theorem deliver_frees {name : String} {hand : Handler → Run Unit} (subscribers : List (Subscription Handler))
    (hands : ∀ subscription ∈ subscribers, ∀ middle, View.of middle = View.of world →
      (hand subscription.handler).Ends middle (Tries stirs depth opened middle)) :
    (Events.deliver name hand subscribers).Ends world (Frees stirs depth opened (fun _ _ => True) world) := by
  induction subscribers generalizing world with
  | nil => exact frees_run rfl (.refl world) trivial
  | cons subscription rest ih =>
      obtain ⟨own, others⟩ := List.forall_mem_cons.mp hands
      refine frees_report (own world rfl) fun after clear => ?_
      refine ih ?_ ?_
      · exact clear.view.symm ▸ scene
      · exact fun other among middle same => others other among middle (same.trans clear.view)

/-- A dispatch goes to its end, or it halts. -/
theorem dispatch_frees (name : String) (payload : Event.Payload) :
    (Events.dispatch call name payload).Ends world (Frees stirs depth opened (fun _ _ => True) world) := by
  refine frees_step rfl (.refl world) ?_
  split
  · next kind _ =>
      split
      · next event _ =>
          refine frees_bind (deliver_frees scene (world.bridge.typed.under kind) fun subscription among middle same =>
            callHandler_tries attends (same.symm ▸ scene) event fun hooked own => ?_) fun _ after _ _ => ?_
          · rw [same]
            exact .inl ⟨kind, subscription, among, own⟩
          · exact frees_run rfl (.refl after) trivial
      · have dropped : View.of { world with bridge := world.bridge.drop } = View.of world := view_beside rfl rfl rfl
        have told (record : TraceRecord) : Plain (.reported record) := trivial
        exact frees_step rfl (.still dropped rfl) (frees_step rfl (.note (told _) _) (frees_run rfl (.refl _) trivial))
  · refine frees_bind (deliver_frees scene (world.bridge.raw.under name) fun subscription among middle same =>
      callRawHandler_tries attends (same.symm ▸ scene) payload fun hooked own => ?_) fun _ after _ _ => ?_
    · rw [same]
      exact .inr (.inl ⟨name, subscription, among, own⟩)
    · exact frees_run rfl (.refl after) trivial

end Delivery

section Nesting

/-- A command that publishes goes to its end, or it halts. -/
theorem perform_frees (attends : Attends stirs depth call) (scene : Scene stirs opened (View.of world))
    {command : Command Operation} (publishes : Publishes command) :
    (Perform.perform call command).Ends world (Frees stirs depth opened (fun _ _ => True) world) := by
  have answered (name : String) (payload : Event.Payload) :
      (do return .route (← Events.dispatch call name payload) : Run Answer).Ends world
        (Frees stirs depth opened (fun _ _ => True) world) :=
    frees_bind (dispatch_frees attends scene name payload) fun _ after _ _ => frees_run rfl (.refl after) trivial
  cases publishes with
  | publish title host event => exact frees_step rfl (.refl world) (answered event.name event.encode)
  | publishRaw title host event payload => exact frees_step rfl (.refl world) (answered event payload)

/-- So do several such commands. -/
theorem performAll_frees (attends : Attends stirs depth call) (scene : Scene stirs opened (View.of world))
    {commands : List (Command Operation)} (publishes : ∀ command ∈ commands, Publishes command) :
    (Perform.performAll call commands).Ends world (Frees stirs depth opened (fun _ _ => True) world) := by
  induction commands generalizing world with
  | nil => exact frees_run rfl (.refl world) trivial
  | cons command rest ih =>
      obtain ⟨own, others⟩ := List.forall_mem_cons.mp publishes
      refine frees_bind (perform_frees attends scene own) fun answer after clear _ => ?_
      have answered : Plain (.answered command.title answer) := trivial
      exact frees_step rfl (.note answered after) (ih (clear.view.symm ▸ scene) others)

/-- What a call adds stands behind the call. -/
theorem adds_called {hook : Nat} {label : String} {arguments : Arguments} {uses : List Nat} {inner : List Entry}
    (added : Adds ((world.note (.called hook label arguments)).count uses) after inner) :
    Adds world after (.called hook label arguments :: inner) :=
  (adds_note world _).append added

/-- What a hook does stands between the beginning and the end of its call. -/
theorem Clear.around {hook : Nat} {label : String} {arguments : Arguments} {ending : Ending} {uses : List Nat}
    (clear : Clear stirs (hook :: opened) ((world.note (.called hook label arguments)).count uses) after) :
    Clear stirs opened world (after.note (.finished hook arguments ending)) := by
  obtain ⟨inner, added, balanced, untangled⟩ := clear.news
  refine ⟨clear.view, .called hook label arguments :: (inner ++ [.finished hook arguments ending]),
    (adds_called added).append (adds_note after _), .call hook label arguments ending balanced .nil, ?_⟩
  rw [Entangled, entangled_append]
  exact not_or.mpr ⟨untangled, id⟩

/-- A hook ends as it says once its commands are done. -/
theorem tries_enact {ending : Ending} (clear : Clear stirs opened world after) :
    ending.enact.Ends after (Tries stirs depth opened world) := by
  cases ending <;> exact clear

/-- However deep hooks nest, they attend to this. -/
theorem caller_attends (stirs : Nat → Nat → Prop) (depth : Nat) : Attends stirs depth (caller depth) := by
  induction depth with
  | zero => exact fun opened world hooked arguments _ _ => ⟨[], adds_nil rfl, .inr ⟨rfl, rfl⟩⟩
  | succ depth ih =>
      intro opened world hooked arguments publishing scene
      refine Run.ends_called fun calls uses _ => ?_
      rw [Run.ends_bind]
      have performed : (Perform.performAll (caller depth) (hooked.hook.turn calls).commands).Ends
          ((world.note (.called hooked.id hooked.label arguments)).count uses)
          (Frees stirs depth (hooked.id :: opened) (fun _ _ => True)
            ((world.note (.called hooked.id hooked.label arguments)).count uses)) := by
        -- Only a hook that carries out a command has to be open in the scene.
        by_cases idle : (hooked.hook.turn calls).commands = []
        · rw [idle]
          exact frees_run rfl (.refl _) trivial
        · have shown : Scene stirs (hooked.id :: opened)
              (View.of ((world.note (.called hooked.id hooked.label arguments)).count uses)) := scene ⟨calls, idle⟩
          exact performAll_frees ih shown (publishing calls)
      refine Run.Ends.mono performed fun result after ends => ?_
      rcases result with raised | value
      · obtain ⟨inner, added, stops⟩ := ends
        have nested : opened.length + 1 + depth = opened.length + (depth + 1) := by omega
        exact Halts.tries ⟨.called hooked.id hooked.label arguments :: inner, adds_called added,
          stops.imp_right fun ⟨exhausted, deep⟩ => ⟨exhausted, deep.trans nested⟩⟩
      · exact tries_enact ends.1.around

end Nesting

end ScriptHost.Session.Locks

/-
This file follows a tick of a scene to all receivers and loose units, and shows that it is delivered in the same way
whatever stood in the log before and whatever is drawn where no script draws.
-/
import ScriptHost.Proofs.Event.Encoding
import ScriptHost.Proofs.Event.Ledger
import ScriptHost.Proofs.Scene.Staging

namespace ScriptHost.Session.Staging

variable {host id : Nat} {setting : Setting} {held : Option Nat} {past : List String}
  {draws : Option Script.Draws} {world : World}
  {unit : Script.CompiledUnit} {subject : Script.Value} {call : Caller} {signal : Tick.Signal}

/-- A subject is written to the slot of its behaviour. -/
theorem setSubject_carries (staged : Staged draws host setting held world)
    (whole : Script.Spares (Script.Spared draws) unit.program.calls) (subject : Script.Value) :
    Carries host past draws world (Scheduler.setSubject host id unit subject)
      (Surely fun _ => Staged draws host setting held) := by
  apply (Reaches.slot? staged.present).step
  cases found : (world.registryOf host).slots[id]? with
  | none => exact carries_pure staged
  | some slot =>
      have quiet := staged.quiet id slot found
      rcases slot with ⟨kind | ⟨entity, script, logic⟩, started, phase, busy⟩
      · exact carries_pure staged
      · exact (Reaches.setSlot staged.present _).carries (staged.setSlot _ whole quiet)

/-- A fault of a script is not handed to its caller in any other way than as a failure or a panic. -/
theorem callScript_carries (staged : Staged draws host setting held world)
    (whole : Script.Spares (Script.Spared draws) unit.program.calls) (hook : ScriptHook)
    (arguments : List Script.Value) : Carries host past draws world
      (Scheduler.callScript host id unit subject hook arguments) (Mildly (Staged draws host setting held)) := by
  unfold Scheduler.callScript
  split
  · apply (Reaches.note _).step
    have noted := staged.note (.scriptCalled host id hook)
    have trails : ∀ {outside other}, Script.Trails past draws outside other →
        ((unit.program.callHook hook.name arguments subject outside).1,
            (unit.program.callHook hook.name arguments subject outside).2.1) =
          ((unit.program.callHook hook.name arguments subject other).1,
            (unit.program.callHook hook.name arguments subject other).2.1) ∧
        Script.Trails past draws (unit.program.callHook hook.name arguments subject outside).2.2
          (unit.program.callHook hook.name arguments subject other).2.2 := by
      intro outside other linked
      obtain ⟨ends, kept, after⟩ :=
        (Script.trails_blind past draws).callHook whole hook.name arguments subject linked
      exact ⟨Prod.ext ends kept, after⟩
    apply (Reaches.outside noted.present trails noted.willing).step
    apply (setSubject_carries (noted.leave (trails ⟨rfl, noted.willing⟩).2.willing) whole _).then
    intro _ after staged
    split
    · exact carries_pure ⟨trivial, staged⟩
    · exact carries_throw ⟨trivial, staged⟩
    · exact carries_throw ⟨trivial, staged⟩
  · exact carries_pure ⟨trivial, staged⟩

/-- A script is disposed of, and its failure is reported. -/
theorem disposeScript_carries (staged : Staged draws host setting held world)
    (whole : Script.Spares (Script.Spared draws) unit.program.calls) (entity : Entity) :
    Carries host past draws world (Scheduler.disposeScript host id entity unit subject)
      (Mildly (Staged draws host setting held)) := by
  apply (callScript_carries staged whole .dispose _).tryCatch
  · exact fun _ _ ends => ends
  · rintro raised after ⟨mild, staged⟩
    cases raised with
    | failed causes => exact (Reaches.report _).carries ⟨trivial, staged.note _⟩
    | panicked message => exact carries_throw ⟨trivial, staged⟩
    | stuck => exact mild.elim
    | exhausted => exact mild.elim

/-- A scripted receiver is finalized by disposing of its script. -/
theorem finalizer_carries (staged : Staged draws host setting held world) {receiver : Receiver}
    (scripted : Scripted draws receiver) :
    Carries host past draws world (Scheduler.finalizer call host id receiver)
      (Mildly (Staged draws host setting held)) := by
  rcases receiver with ⟨kind, logic⟩ | ⟨entity, script, _ | ⟨unit, subject⟩⟩
  · exact scripted.elim
  · exact scripted.elim
  · exact disposeScript_carries staged scripted entity

/-- What was isolated may be reported. -/
theorem told_carries (staged : Staged draws host setting held world) (fault : Option Fault)
    (record : Fault → TraceRecord) : Carries host past draws world (match fault with
      | none => return ()
      | some fault => Run.report (record fault)) (Surely fun _ => Staged draws host setting held) := by
  cases fault with
  | none => exact carries_pure staged
  | some fault => exact (Reaches.report _).carries (staged.note _)

/-- A finalizer leaves the scene standing, whatever it ends with. -/
theorem finalize_carries (staged : Staged draws host setting held world) {receiver : Receiver}
    (scripted : Scripted draws receiver) : Carries host past draws world (Scheduler.finalize call host id receiver)
      (Surely fun _ => Staged draws host setting held) := by
  apply (finalizer_carries staged scripted).isolate.then
  intro fault after staged
  exact told_carries staged fault Scheduler.finalizerRecord

/-- A receiver is finished, or it was before. -/
theorem finish_carries (staged : Staged draws host setting held world) :
    Carries host past draws world (Scheduler.finish call host id) (Surely fun _ => Staged draws host setting held) := by
  apply (Reaches.slot? staged.present).step
  cases found : (world.registryOf host).slots[id]? with
  | none => exact carries_pure staged
  | some slot =>
      have scripted := staged.slot found
      dsimp only
      split
      · have gone := staged.setSlot { slot with phase := .gone } scripted (staged.quiet id slot found)
        apply (Reaches.setSlot staged.present _).step
        apply (Reaches.note _).step
        exact finalize_carries (gone.note _) scripted
      · exact carries_pure staged

/-- A receiver retires, or it did before. -/
theorem retire_carries (staged : Staged draws host setting held world) :
    Carries host past draws world (Scheduler.retire call host id) (Surely fun _ => Staged draws host setting held) := by
  apply (Reaches.slot? staged.present).step
  cases found : (world.registryOf host).slots[id]? with
  | none => exact carries_pure staged
  | some slot =>
      have scripted := staged.slot found
      dsimp only
      split
      · apply (Reaches.setSlot staged.present _).step
        exact finish_carries (staged.setSlot _ scripted (staged.quiet id slot found))
      · exact carries_pure staged

/-- Several receivers retire one after the other. -/
theorem retireAll_carries (staged : Staged draws host setting held world) (ids : List Nat) :
    Carries host past draws world (Scheduler.retireAll call host ids)
      (Surely fun _ => Staged draws host setting held) := by
  induction ids generalizing world with
  | nil => exact carries_pure staged
  | cons id rest ih =>
      apply (retire_carries staged).then
      exact fun _ _ staged => ih staged

section Turns

variable {entity : Entity} {script : String}

/-- A script keeps its behaviour scripted, whatever it makes of what it keeps. -/
theorem currentLogic_carries (staged : Staged draws host setting held world)
    (whole : Script.Spares (Script.Spared draws) unit.program.calls) :
    Carries host past draws world (Scheduler.currentLogic host id (.scripted unit subject)) (Surely fun logic after =>
      Staged draws host setting held after ∧ ∃ unit subject, logic = .scripted unit subject ∧
        Script.Spares (Script.Spared draws) unit.program.calls) := by
  apply (Reaches.slot? staged.present).step
  refine carries_pure ⟨staged, ?_⟩
  cases found : (world.registryOf host).slots[id]? with
  | none => exact ⟨unit, subject, rfl, whole⟩
  | some slot =>
      have scripted := staged.slot found
      rcases slot with ⟨kind | ⟨entity, script, _ | ⟨unit, subject⟩⟩, started, phase, busy⟩
      · exact scripted.elim
      · exact scripted.elim
      · exact ⟨unit, subject, rfl, scripted⟩

/-- A behaviour runs its script and leaves the scene standing. -/
theorem runBehaviour_carries (staged : Staged draws host setting held world) {slot : Slot}
    (found : (world.registryOf host).slots[id]? = some slot) (scripted : Scripted draws slot.receiver)
    (whole : Script.Spares (Script.Spared draws) unit.program.calls) :
    Carries host past draws world
      (Scheduler.runBehaviour call host id entity script (.scripted unit subject) slot signal)
      (Surely fun _ => Staged draws host setting held) := by
  have updates : ∀ {world : World} {unit : Script.CompiledUnit} {subject : Script.Value},
      Staged draws host setting held world → Script.Spares (Script.Spared draws) unit.program.calls →
        Carries host past draws world
          (Run.isolate (Scheduler.update call host id entity script (.scripted unit subject) signal))
          (Surely fun _ => Staged draws host setting held) :=
    fun staged whole => (callScript_carries staged whole .update _).isolate
  unfold Scheduler.runBehaviour
  split
  · exact updates staged whole
  · apply (Reaches.setSlot staged.present _).step
    have begun := staged.setSlot { slot with started := true } scripted (staged.quiet id slot found)
    apply (callScript_carries begun whole .start _).isolate.then
    intro fault after staged
    cases fault with
    | some fault => exact carries_pure staged
    | none =>
        apply (currentLogic_carries staged whole).then
        rintro logic after ⟨staged, unit, subject, rfl, whole⟩
        exact updates staged whole

/-- A receiver runs and leaves the scene standing. -/
theorem runReceiver_carries (staged : Staged draws host setting held world) {slot : Slot}
    (found : (world.registryOf host).slots[id]? = some slot) :
    Carries host past draws world (Scheduler.runReceiver call host id slot signal)
      (Surely fun _ => Staged draws host setting held) := by
  have scripted := staged.slot found
  rcases slot with ⟨kind | ⟨entity, script, _ | ⟨unit, subject⟩⟩, started, phase, busy⟩
  · exact scripted.elim
  · exact scripted.elim
  · exact runBehaviour_carries staged found scripted scripted

/-- Who is held is let go. -/
theorem release_carries (staged : Staged draws host setting (some id) world) :
    Carries host past draws world (Scheduler.setBusy host id false)
      (Surely fun _ => Staged draws host setting none) := by
  apply (Reaches.slot? staged.present).step
  cases found : (world.registryOf host).slots[id]? with
  | none =>
      refine carries_pure { staged with quiet := fun other slot stands busy => ?_ }
      obtain rfl : id = other := Option.some.inj (staged.quiet other slot stands busy)
      rw [found] at stands
      cases stands
  | some slot =>
      refine (Reaches.setSlot staged.present _).carries ?_
      have scripted := staged.slot found
      have freed : Staged draws host setting (some id)
          (world.putRegistry host ((world.registryOf host).setSlot id { slot with busy := false })) :=
        staged.setSlot _ scripted nofun
      refine { freed with quiet := fun other slot stands busy => ?_ }
      obtain rfl : id = other := Option.some.inj (freed.quiet other slot stands busy)
      rw [World.putRegistry_registryOf staged.present] at stands
      change ((world.registryOf host).slots.set id _)[id]? = some slot at stands
      rw [List.getElem?_set_self (List.getElem?_eq_some_iff.mp found).1] at stands
      cases stands
      cases busy

/-- Nobody is held before or after a turn. -/
theorem turn_carries (staged : Staged draws host setting none world) {slot : Slot}
    (found : (world.registryOf host).slots[id]? = some slot) :
    Carries host past draws world (Scheduler.turn call host id slot signal)
      (Surely fun _ => Staged draws host setting none) := by
  have free : slot.busy = false := by
    cases busy : slot.busy with
    | false => rfl
    | true => cases staged.quiet id slot found busy
  unfold Scheduler.turn
  rw [free]
  apply (Reaches.note _).step
  have taken : Staged draws host setting (some id) (world.note (.turnBegan host id)) :=
    { staged.note _ with quiet := fun other slot stands busy => nomatch staged.quiet other slot stands busy }
  apply (Reaches.setSlot taken.present _).step
  have scripted := staged.slot found
  have busy := taken.setSlot { slot with busy := true } scripted fun _ => rfl
  have stands : ((((world.note (.turnBegan host id)).putRegistry host
      (((world.note (.turnBegan host id)).registryOf host).setSlot id { slot with busy := true })).registryOf
        host).slots)[id]? = some { slot with busy := true } := by
    rw [World.putRegistry_registryOf taken.present]
    exact List.getElem?_set_self (List.getElem?_eq_some_iff.mp found).1
  apply (runReceiver_carries busy stands).then
  intro fault after staged
  apply (release_carries staged).then
  intro _ after staged
  apply (finish_carries staged).then
  exact fun _ _ staged => carries_pure staged

/-- All receivers have their turns, and nobody is busy behind them. -/
theorem runAll_carries (staged : Staged draws host setting none world) (ids : List Nat) (counts : Nat × Nat) :
    Carries host past draws world (Scheduler.runAll call host signal ids counts)
      (Surely fun _ => Staged draws host setting none) := by
  induction ids generalizing counts world with
  | nil => exact carries_pure staged
  | cons id rest ih =>
      apply carries_host staged.present rfl
      dsimp only
      cases found : (world.hostOf host).registry.slot? id with
      | none => exact ih staged _
      | some slot =>
          dsimp only
          split
          · apply (turn_carries staged found).then
            intro fault after staged
            cases fault with
            | none => exact ih staged _
            | some fault => exact (Reaches.report _).step (ih (staged.note _) _)
          · exact ih staged _

end Turns

/-- The loose units run and leave the scene standing. -/
theorem runLoose_carries (staged : Staged draws host setting held world) :
    Carries host past draws world (Scheduler.runLoose host signal)
      (Surely fun _ => Staged draws host setting held) := by
  apply (Reaches.runtime? staged.present).step
  rw [staged.runtime]
  apply (Reaches.note _).step
  have noted := staged.note (.unitsBegan host setting.runtime.scripts.active.names signal)
  have trails : ∀ {outside other}, Script.Trails past draws outside other → _ := fun linked =>
    (Script.trails_blind past draws).runAll signal (staged.sparing .scripts).units linked
  apply (Reaches.outside noted.present trails noted.willing).carries
  exact noted.leave (trails ⟨rfl, noted.willing⟩).2.willing

/-- A tick leaves the scene standing. -/
theorem tick_carries (staged : Staged draws host setting none world) :
    Carries host past draws world (Scheduler.tick call host signal)
      (Surely fun _ => Staged draws host setting none) := by
  apply (Reaches.registry staged.present staged.unlocked).step
  apply (Reaches.note _).step
  apply (runAll_carries (staged.note _) _ _).then
  intro counts after staged
  apply (runLoose_carries staged).then
  exact fun _ _ staged => carries_pure staged

section Delivery

/-- A run that may be left early is isolated and reported, and the rest goes on. -/
theorem reported_carries {body : Run Unit} {record : Fault → TraceRecord} {rest : Run Unit} {kept : World → Prop}
    (first : Carries host past draws world body (Mildly (Staged draws host setting held)))
    (more : ∀ {after}, Staged draws host setting held after →
      Carries host past draws after rest (Surely fun _ => kept)) :
    Carries host past draws world (do
      match ← Run.isolate body with
      | none => pure ()
      | some fault => Run.report (record fault)
      rest) (Surely fun _ => kept) := by
  apply first.isolate.then
  intro fault after staged
  cases fault with
  | none => exact more staged
  | some fault => exact (Reaches.report _).step (more (staged.note _))

/-- The signal goes to the scheduler alone. -/
theorem broadcast_carries (staged : Staged draws host setting none world) (listeners : List (Tick.Listening Listener))
    (listening : ∀ listening ∈ listeners, listening.listener = .scheduler host none) :
    Carries host past draws world (Events.broadcast call signal listeners)
      (Surely fun _ => Staged draws host setting none) := by
  induction listeners generalizing world with
  | nil => exact carries_pure staged
  | cons first rest ih =>
      obtain ⟨drives, others⟩ := List.forall_mem_cons.mp listening
      apply reported_carries
      · rw [drives]
        apply (tick_carries staged).then
        exact fun _ _ staged => carries_pure ⟨trivial, staged⟩
      · exact fun staged => ih staged others

/-- The native tick is turned into a signal for the scheduler. -/
theorem nativeTick_carries (staged : Staged draws host setting none world) (index : UInt64) :
    Carries host past draws world (Events.nativeTick call host index)
      (Surely fun _ => Staged draws host setting none) := by
  unfold Events.nativeTick
  apply carries_get rfl
  apply carries_host staged.present rfl
  apply (Reaches.reportAll _).step
  apply (Reaches.modifyHost (staged.journal _).present fun _ => rfl).step
  apply (Reaches.note _).step
  refine broadcast_carries (Staged.note ?_ _) _ staged.listening
  exact (staged.journal _).putHost staged.listening staged.runtime staged.binder staged.unlocked staged.scripted
    staged.sparing staged.quiet

/-- A source that was freed hears nothing. -/
theorem callHandler_carries (staged : Staged draws host setting none world) (index : UInt64) :
    Carries host past draws world (Events.callHandler call (.logicTick index) (.source host))
      (Surely fun _ => Staged draws host setting none) := by
  apply carries_host staged.present rfl
  split
  · exact nativeTick_carries staged index
  · exact carries_pure staged

/-- A tick is delivered to the source of the host alone. -/
theorem deliver_carries (staged : Staged draws host setting none world) (name : String) (index : UInt64)
    (subscribers : List (Event.Subscription Handler))
    (heard : ∀ subscription ∈ subscribers, subscription.handler = .source host) :
    Carries host past draws world (Events.deliver name (Events.callHandler call (.logicTick index)) subscribers)
      (Surely fun _ => Staged draws host setting none) := by
  induction subscribers generalizing world with
  | nil => exact carries_pure staged
  | cons first rest ih =>
      obtain ⟨sourced, others⟩ := List.forall_mem_cons.mp heard
      apply reported_carries
      · rw [sourced]
        exact (callHandler_carries staged index).mono fun _ _ surely => surely.mildly
      · exact fun staged => ih staged others

/-- A tick is delivered, and it is delivered in the same way whatever stood in the log before and whatever
is drawn where no script draws. -/
theorem publish_carries (staged : Staged draws host setting none world) (index : UInt64) :
    Carries host past draws world (Events.publish call (.logicTick index))
      (Surely fun _ => Staged draws host setting none) := by
  unfold Events.publish Events.dispatch
  apply carries_get rfl
  have named : Event.Kind.ofName? (Event.Builtin.logicTick index).name = some .logicTick :=
    Event.Kind.ofName?_name .logicTick
  rw [named]
  dsimp only
  rw [Event.decode_logicTick index]
  apply (deliver_carries staged _ index _ staged.heard).then
  exact fun _ _ staged => carries_pure staged

end Delivery

end ScriptHost.Session.Staging

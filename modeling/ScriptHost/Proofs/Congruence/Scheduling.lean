/-
This file shows that schedulers do the same in related worlds and leave related worlds.
-/
import ScriptHost.Proofs.Congruence.Running

namespace ScriptHost.Session

open Run (agrees_pure agrees_throw)

variable {scope : Scope} {fits : Nat → Receiver → Prop} {related : World → World → Prop} {call : Caller}
  {host id : Nat} {receiver : Receiver}

/-- In all related worlds the receiver stands under the number. -/
def Borne (related : World → World → Prop) (host id : Nat) (receiver : Receiver) : Prop :=
  ∀ {world other}, related world other → Bears host id receiver world

/-- Receivers that differ in their progress alone are borne alike. -/
theorem Borne.like {other : Receiver} (borne : Borne related host id receiver)
    (same : Binding.bare other = Binding.bare receiver) : Borne related host id other := by
  intro world world' holds
  obtain ⟨slot, found, equal⟩ := borne holds
  exact ⟨slot, found, equal.trans same.symm⟩

/-- The narrowed relation bears the receiver that it was narrowed to. -/
theorem borne_narrow (related : World → World → Prop) (host id : Nat) (receiver : Receiver) :
    Borne (Narrow related host id receiver) host id receiver :=
  fun holds => holds.2

namespace Scheduler

/-- The subject is written to a slot that holds a scripted behaviour, and to no other. -/
theorem setSubject_run (host id : Nat) (unit : Script.CompiledUnit) (subject : Script.Value) (world : World) :
    (setSubject host id unit subject).run.run world =
      match (world.registryOf host).slots[id]? with
      | some ⟨.behaviour entity script _, started, phase, busy⟩ =>
          (setSlot host id ⟨.behaviour entity script (.scripted unit subject), started, phase, busy⟩).run.run world
      | _ => (.ok (), world) := by
  have looked : (slot? host id).run.run world = (.ok (world.registryOf host).slots[id]?, world) := rfl
  unfold setSubject
  rw [Stateful.run_bind, looked]
  rcases (world.registryOf host).slots[id]? with _ | ⟨_ | _, _, _, _⟩ <;> rfl

/-- A subject is written in both worlds. -/
theorem setSubject_agrees (congruence : Congruence scope fits related) {entity : Entity} {script : String}
    {unit : Script.CompiledUnit} {former : Script.Value} (subject : Script.Value)
    (borne : Borne related host id (.behaviour entity script (.scripted unit former))) :
    (setSubject host id unit subject).Agrees related := by
  intro world other holds
  obtain ⟨⟨held, started, phase, busy⟩, found, same⟩ := borne holds
  rw [setSubject_run, setSubject_run, ← congruence.registry holds host, found]
  rcases held with ⟨kind, logic⟩ | ⟨entity', script', logic⟩
  · cases same
  · rcases logic with _ | ⟨unit', subject'⟩
    · cases same
    · cases same
      exact congruence.agrees_setSlot _ borne rfl world other holds

/-- A script is called alike in both worlds. -/
theorem callScript_agrees (congruence : Congruence scope fits related) {entity : Entity} {script : String}
    {unit : Script.CompiledUnit} {subject : Script.Value}
    (borne : Borne related host id (.behaviour entity script (.scripted unit subject))) (hook : ScriptHook)
    (arguments : List Script.Value) : (callScript host id unit subject hook arguments).Agrees related := by
  unfold callScript
  split
  · apply (congruence.agrees_note rfl).bind
    intro _
    apply (congruence.agrees_outside _).bind
    rintro ⟨outcome, subject⟩
    apply (setSubject_agrees congruence subject borne).bind
    intro _
    split
    · exact agrees_pure _
    · exact agrees_throw _
    · exact agrees_throw _
  · exact agrees_pure _

variable (heeding : call.Heeding scope fits) (heeds : Heeds scope fits related)

include heeding heeds

/-- A behaviour starts alike in both worlds. -/
theorem start_agrees {entity : Entity} {script : String} {logic : BehaviourLogic}
    (within : logic.Within scope) (borne : Borne related host id (.behaviour entity script logic))
    (signal : Tick.Signal) : (start call host id entity script logic signal).Agrees related := by
  cases logic with
  | hooked attach start update dispose => exact heeding.hook heeds _ within.2.1
  | scripted unit subject => exact callScript_agrees heeds.toCongruence borne .start _

/-- A behaviour is updated alike in both worlds. -/
theorem update_agrees {entity : Entity} {script : String} {logic : BehaviourLogic}
    (within : logic.Within scope) (borne : Borne related host id (.behaviour entity script logic))
    (signal : Tick.Signal) : (update call host id entity script logic signal).Agrees related := by
  cases logic with
  | hooked attach start update dispose => exact heeding.hook heeds _ within.2.2.1
  | scripted unit subject => exact callScript_agrees heeds.toCongruence borne .update _

omit heeding in
/-- A script is disposed of alike in both worlds. -/
theorem disposeScript_agrees {entity : Entity} {script : String} {unit : Script.CompiledUnit}
    {subject : Script.Value} (borne : Borne related host id (.behaviour entity script (.scripted unit subject))) :
    (disposeScript host id entity unit subject).Agrees related := by
  unfold disposeScript
  apply (callScript_agrees heeds.toCongruence borne .dispose _).tryCatch
  intro raised
  cases raised with
  | failed causes => exact heeds.agrees_report _
  | panicked message => exact agrees_throw _
  | stuck => exact agrees_throw _
  | exhausted => exact agrees_throw _

/-- A receiver is finalized by the same hook in both worlds. -/
theorem finalizer_agrees (within : WithinReceiver scope receiver) (borne : Borne related host id receiver) :
    (finalizer call host id receiver).Agrees related := by
  rcases receiver with ⟨kind, logic⟩ | ⟨entity, script, ⟨attach, start, update, dispose⟩ | ⟨unit, subject⟩⟩
  · exact heeding.hook heeds _ within.2
  · exact heeding.hook heeds _ within.2.2.2
  · exact disposeScript_agrees heeds borne

/-- A fault of a finalizer is told alike. -/
theorem finalize_agrees (within : WithinReceiver scope receiver) (borne : Borne related host id receiver) :
    (finalize call host id receiver).Agrees related := by
  apply (finalizer_agrees heeding heeds within borne).isolate.bind
  intro fault
  cases fault with
  | none => exact agrees_pure _
  | some fault => exact heeds.agrees_report _

/-- A receiver is finished in both worlds, or in none. -/
theorem finish_agrees : (finish call host id).Agrees related := by
  apply heeds.agrees_slot?
  · exact agrees_pure _
  intro slot within
  have narrowed := heeds.narrow host id slot.receiver
  dsimp only
  split
  · apply (narrowed.agrees_setSlot { slot with phase := .gone } (borne_narrow _ _ _ _) rfl).bind
    intro _
    apply (narrowed.agrees_note rfl).bind
    intro _
    exact finalize_agrees heeding narrowed within (borne_narrow _ _ _ _)
  · exact agrees_pure _

/-- A receiver retires in both worlds, or in none. -/
theorem retire_agrees : (retire call host id).Agrees related := by
  apply heeds.agrees_slot?
  · exact agrees_pure _
  intro slot within
  have narrowed := heeds.narrow host id slot.receiver
  dsimp only
  split
  · apply (narrowed.agrees_setSlot { slot with phase := .leaving } (borne_narrow _ _ _ _) rfl).bind
    intro _
    exact finish_agrees heeding narrowed
  · exact agrees_pure _

/-- Several receivers retire in the same order in both worlds. -/
theorem retireAll_agrees (ids : List Nat) : (retireAll call host ids).Agrees related := by
  induction ids with
  | nil => exact agrees_pure _
  | cons id rest ih => exact (retire_agrees heeding heeds).bind fun _ => ih

/-- The same receivers are removed from both registries. -/
theorem removeWhere_agrees (choose : Receiver → Bool) : (removeWhere call host choose).Agrees related := by
  apply heeds.agrees_reading
  intro world other holds
  apply heeds.agreesAt_setRegistry (heeds.change holds (alters_take _ choose))
  apply (retireAll_agrees heeding heeds _).bind
  intro _
  exact (heeds.agrees_note rfl).bind fun _ => agrees_pure _

/-- A receiver is unregistered in both worlds, or in none. -/
theorem unregister_agrees : (unregister call host id).Agrees related := by
  apply heeds.agrees_reading
  intro world other holds
  split
  · apply heeds.agreesAt_setRegistry (heeds.change holds (alters_erase _ id))
    apply (retire_agrees heeding heeds).bind
    intro _
    exact (heeds.agrees_note rfl).bind fun _ => agrees_pure _
  · exact agrees_pure _ _ _ holds

/-- A behaviour is attached alike in both worlds. -/
theorem attach_agrees {entity : Entity} {script : String} {logic : BehaviourLogic}
    (within : logic.Within scope) : (attach call host entity script logic).Agrees related := by
  cases logic with
  | scripted unit subject => exact agrees_pure _
  | hooked attach start update dispose =>
      apply (heeds.agrees_lock true).bind
      intro _
      apply (heeding.hook heeds _ within.1).isolate.bind
      intro fault
      apply (heeds.agrees_lock false).bind
      intro _
      cases fault with
      | none => exact agrees_pure _
      | some fault => exact heeds.agrees_report _

/-- A receiver is turned away alike in both worlds. -/
theorem reject_agrees (within : WithinReceiver scope receiver) : (reject call receiver).Agrees related := by
  rcases receiver with ⟨kind, logic⟩ | ⟨entity, script, ⟨attach, start, update, dispose⟩ | ⟨unit, subject⟩⟩
  · exact agrees_pure _
  · apply (heeding.hook heeds _ within.2.2.2).isolate.bind
    intro fault
    cases fault with
    | none => exact agrees_pure _
    | some fault => exact heeds.agrees_report _
  · exact agrees_pure _

/-- A receiver is accepted in both worlds, or turned away in both. -/
theorem register_agrees (receiver : Receiver) (within : WithinReceiver scope receiver) (fit : fits host receiver) :
    (register call host receiver).Agrees related := by
  apply heeds.agrees_registry
  intro registry _
  split
  · have entered : (Run.registry host >>= fun registry => do
        Run.setRegistry host (registry.add receiver).1
        Run.note (.accepted host (registry.add receiver).2)
        return some (registry.add receiver).2).Agrees related := by
      apply heeds.agrees_reading
      intro world other holds
      apply heeds.agreesAt_setRegistry (heeds.add holds fit within)
      exact (heeds.agrees_note rfl).bind fun _ => agrees_pure _
    cases receiver with
    | system kind logic => exact entered
    | behaviour entity script logic => exact (attach_agrees heeding heeds within).bind fun _ => entered
  · apply (heeds.agrees_note rfl).bind
    intro _
    exact (reject_agrees heeding heeds within).bind fun _ => agrees_pure _

omit heeding in
/-- What a behaviour keeps now may be other than before, but its hooks and its unit are the same. -/
theorem currentLogic_agrees {α : Type} {entity : Entity} {script : String} {logic : BehaviourLogic}
    {next : BehaviourLogic → Run α} (borne : Borne related host id (.behaviour entity script logic))
    (rest : ∀ current : BehaviourLogic, current.Within scope →
      Binding.bare (.behaviour entity script current) = Binding.bare (.behaviour entity script logic) →
        (next current).Agrees related) :
    (currentLogic host id logic >>= next).Agrees related := by
  have read : ∀ world : World, (currentLogic host id logic >>= next).run.run world =
      (next (((world.registryOf host).slots[id]?.bind fun slot => logic? slot.receiver).getD logic)).run.run
        world := fun _ => rfl
  intro world other holds
  obtain ⟨⟨held, started, phase, busy⟩, found, same⟩ := borne holds
  have within := heeds.within holds host _ (List.mem_of_getElem? found)
  rw [read, read, ← heeds.registry holds host, found]
  have kept : ∃ current, held = .behaviour entity script current := by
    rcases held with ⟨kind, other⟩ | ⟨entity', script', current⟩
    · rcases logic with _ | _ <;> cases same
    · rcases current with _ | _ <;> rcases logic with _ | _ <;> cases same <;> exact ⟨_, rfl⟩
  obtain ⟨current, rfl⟩ := kept
  exact rest current within same world other holds

/-- A behaviour that stands in its slot runs alike in both worlds. -/
theorem runBehaviour_agrees {entity : Entity} {script : String} {logic : BehaviourLogic} {slot : Slot}
    (within : logic.Within scope) (borne : Borne related host id (.behaviour entity script logic))
    (held : slot.receiver = .behaviour entity script logic) (signal : Tick.Signal) :
    (runBehaviour call host id entity script logic slot signal).Agrees related := by
  unfold runBehaviour
  split
  · exact (update_agrees heeding heeds within borne signal).isolate
  · apply (heeds.agrees_setSlot { slot with started := true } borne (congrArg Binding.bare held)).bind
    intro _
    apply (start_agrees heeding heeds within borne signal).isolate.bind
    intro fault
    cases fault with
    | some fault => exact agrees_pure _
    | none =>
        apply currentLogic_agrees heeds borne
        intro current within same
        exact (update_agrees heeding heeds within (borne.like same) signal).isolate

/-- Every receiver that stands in its slot runs alike in both worlds. -/
theorem runReceiver_agrees (slot : Slot) (within : WithinReceiver scope slot.receiver)
    (borne : Borne related host id slot.receiver) (signal : Tick.Signal) :
    (runReceiver call host id slot signal).Agrees related := by
  unfold runReceiver
  split
  · next held =>
      rw [held] at within
      exact (heeding.hook heeds _ within.1).isolate
  · next held =>
      rw [held] at within borne
      exact runBehaviour_agrees heeding heeds within borne held signal

omit heeding in
/-- A slot is marked as busy in both worlds. -/
theorem setBusy_agrees (busy : Bool) : (setBusy host id busy).Agrees related := by
  apply heeds.agrees_slot?
  · exact agrees_pure _
  · intro slot within
    exact (heeds.narrow host id slot.receiver).agrees_setSlot { slot with busy } (borne_narrow _ _ _ _) rfl

/-- A turn goes alike in both worlds. -/
theorem turn_agrees {slot : Slot} (within : WithinReceiver scope slot.receiver)
    (borne : Borne related host id slot.receiver) (signal : Tick.Signal) :
    (turn call host id slot signal).Agrees related := by
  have later : (do
      Run.note (.turnBegan host id)
      setSlot host id { slot with busy := true }
      let fault ← runReceiver call host id { slot with busy := true } signal
      setBusy host id false
      finish call host id
      return fault).Agrees related := by
    apply (heeds.agrees_note rfl).bind
    intro _
    apply (heeds.agrees_setSlot { slot with busy := true } borne rfl).bind
    intro _
    apply (runReceiver_agrees heeding heeds { slot with busy := true } within borne signal).bind
    intro fault
    apply (setBusy_agrees heeds false).bind
    intro _
    exact (finish_agrees heeding heeds).bind fun _ => agrees_pure _
  unfold turn
  split
  · exact (agrees_throw _).bind fun _ => later
  · exact later

/-- The turns of a tick go alike, and they are counted alike. -/
theorem runAll_agrees (signal : Tick.Signal) (ids : List Nat) (counts : Nat × Nat) :
    (runAll call host signal ids counts).Agrees related := by
  induction ids generalizing counts with
  | nil => exact agrees_pure _
  | cons id rest ih =>
      apply Run.agrees_host
      · intro world other holds
        have same : (world.hostOf host).registry = (other.hostOf host).registry := heeds.registry holds host
        rw [same]
      · intro world other holds
        dsimp only
        split
        · next slot found =>
            have within := heeds.within holds host slot (List.mem_of_getElem? found)
            split
            · have turned := turn_agrees heeding (heeds.narrow host id slot.receiver) within
                (borne_narrow _ _ _ _) signal world other ⟨holds, slot, found, rfl⟩
              apply (Run.AgreesAt.widen turned).bind
              intro fault
              cases fault with
              | none => exact ih _
              | some fault => exact (heeds.agrees_report _).bind fun _ => ih _
            · exact ih _ world other holds
        · exact ih _ world other holds

omit heeding heeds in
/-- Only the scripts of the runtime count. -/
theorem runLoose_run (host : Nat) (signal : Tick.Signal) (world : World) :
    (runLoose host signal).run.run world =
      match (world.hostOf host).runtime.map fun runtime => (runtime.scripts.active, runtime.state) with
      | none => (.ok ⟨0, 0⟩, world)
      | some (set, _) => (do
          Run.note (.unitsBegan host set.names signal)
          Run.outside host (Script.runAll signal set.units) : Run Script.RunCount).run.run world := by
  have looked : (Run.runtime? host).run.run world = (.ok (world.hostOf host).runtime, world) := rfl
  unfold runLoose
  rw [Stateful.run_bind, looked]
  cases (world.hostOf host).runtime <;> rfl

omit heeding in
/-- The loose units run alike in both worlds. -/
theorem runLoose_agrees (signal : Tick.Signal) : (runLoose host signal).Agrees related := by
  intro world other holds
  rw [runLoose_run, runLoose_run, heeds.scripts holds host]
  split
  · exact ⟨rfl, holds⟩
  · next set _ _ =>
      have ran : (do
          Run.note (.unitsBegan host set.names signal)
          Run.outside host (Script.runAll signal set.units) : Run Script.RunCount).Agrees related :=
        (heeds.agrees_note rfl).bind fun _ => heeds.agrees_outside _
      exact ran world other holds

/-- What follows when a tick has begun. -/
theorem turns_agrees (signal : Tick.Signal) (ids : List Nat) : (do
    let (invoked, faults) ← runAll call host signal ids (0, 0)
    return ⟨invoked, faults, ← runLoose host signal⟩ : Run TickReport).Agrees related := by
  apply (runAll_agrees heeding heeds signal ids (0, 0)).bind
  rintro ⟨invoked, faults⟩
  exact (runLoose_agrees heeds signal).bind fun _ => agrees_pure _

/-- A tick keeps the relation if the note that it has begun does. -/
theorem tick_agrees {signal : Tick.Signal} (began : (Run.note (.tickBegan host signal)).Agrees related) :
    (tick call host signal).Agrees related := by
  apply heeds.agrees_registry
  intro registry _
  exact began.bind fun _ => turns_agrees heeding heeds signal registry.registered

end Scheduler

end ScriptHost.Session

/-
This file shows that a scheduler goes on alike whichever of its hooks end with a fault.
-/
import ScriptHost.Proofs.Faults.Registries

namespace ScriptHost.Session.Scheduler

open Effect (together_pure together_throw)
open Run (Twins Cousins twins_ite twins_told twins_note twins_host twins_registry twins_setRegistry
  twins_modifyRegistry)

/-- Slots stay alike when both are in the same phase. -/
theorem AlikeSlots.setPhase {slot other : Slot} (alike : AlikeSlots slot other) (phase : Schedule.Phase) :
    AlikeSlots { slot with phase } { other with phase } :=
  { alike with phase := rfl }

/-- Slots stay alike when both are busy, or none is. -/
theorem AlikeSlots.setBusy {slot other : Slot} (alike : AlikeSlots slot other) (busy : Bool) :
    AlikeSlots { slot with busy } { other with busy } :=
  { alike with busy := rfl }

/-- Slots stay alike when both have started, or none has. -/
theorem AlikeSlots.setStarted {slot other : Slot} (alike : AlikeSlots slot other) (started : Bool) :
    AlikeSlots { slot with started } { other with started } :=
  { alike with started := rfl }

/-- A slot is found in both worlds, or in none. -/
theorem slot?_twins (host id : Nat) :
    Twins (Option.Rel AlikeSlots) (slot? host id) (slot? host id) :=
  (twins_host host).then fun _ _ alike => together_pure (alike.registry.slot? id)

/-- Slots that are alike are set in both worlds. -/
theorem setSlot_twins (host id : Nat) {slot other : Slot} (alike : AlikeSlots slot other) :
    Twins Eq (setSlot host id slot) (setSlot host id other) :=
  twins_modifyRegistry host fun _ _ same => same.setSlot id alike

/-- A record is told in both worlds. -/
theorem report_twins (record : TraceRecord) : Twins Eq (Run.report record) (Run.report record) :=
  (Run.plain_report record).twins

/-- A slot is looked up and found in both worlds or in none. -/
theorem slot?_then {α β : Type} {host id : Nat} {next : Option Slot → Run α}
    {following : Option Slot → Run β} {values : α → β → Prop}
    (absent : Twins values (next none) (following none))
    (present : ∀ slot other, AlikeSlots slot other → Twins values (next (some slot)) (following (some other))) :
    Twins values (slot? host id >>= next) (slot? host id >>= following) := by
  apply (slot?_twins host id).then
  intro found found' same
  cases same with
  | none => exact absent
  | some same => exact present _ _ same

/-- A subject is written in both worlds. -/
theorem setSubject_twins (host id : Nat) (unit : Script.CompiledUnit) (subject : Script.Value) :
    Twins Eq (setSubject host id unit subject) (setSubject host id unit subject) := by
  apply slot?_then
  · exact together_pure rfl
  · rintro ⟨receiver, started, phase, busy⟩ ⟨receiver', started', phase', busy'⟩ ⟨same, rfl, rfl, rfl⟩
    cases same with
    | system kind alike => exact together_pure rfl
    | behaviour entity script alike =>
        exact setSlot_twins host id ⟨.behaviour entity script (.scripted unit subject), rfl, rfl, rfl⟩

/-- A script ends in the same way in both worlds. -/
theorem callScript_twins (host id : Nat) (unit : Script.CompiledUnit) (subject : Script.Value)
    (hook : ScriptHook) (arguments : List Script.Value) :
    Twins Eq (callScript host id unit subject hook arguments)
      (callScript host id unit subject hook arguments) := by
  unfold callScript
  split
  · apply (twins_note (.same _)).then
    intro _ _ _
    apply (Run.plain_outside host _).twins.then
    rintro ⟨outcome, subject⟩ _ rfl
    apply (setSubject_twins host id unit subject).then
    intro _ _ _
    split
    · exact together_pure rfl
    · exact together_throw rfl
    · exact together_throw rfl
  · exact together_pure rfl

variable {call : Caller}

/-- A start that fails fails in both worlds. -/
theorem start_twins (fair : call.Fair) (host id : Nat) (entity : Entity) (script : String)
    {logic other : BehaviourLogic} (alike : logic.Alike other) (signal : Tick.Signal) :
    Twins Eq (start call host id entity script logic signal)
      (start call host id entity script other signal) := by
  cases alike with
  | hooked attaches starts updates disposes => exact fair.same _ starts
  | scripted unit subject => exact callScript_twins host id unit subject .start _

/-- An update may fail in one world alone. -/
theorem update_cousins (fair : call.Fair) (host id : Nat) (entity : Entity) (script : String)
    {logic other : BehaviourLogic} (alike : logic.Alike other) (signal : Tick.Signal) :
    Cousins (update call host id entity script logic signal)
      (update call host id entity script other signal) := by
  cases alike with
  | hooked attaches starts updates disposes => exact fair.hook _ updates
  | scripted unit subject => exact (callScript_twins host id unit subject .update _).cousins

/-- A script is disposed of in both worlds. -/
theorem disposeScript_twins (host id : Nat) (entity : Entity) (unit : Script.CompiledUnit)
    (subject : Script.Value) :
    Twins Eq (disposeScript host id entity unit subject) (disposeScript host id entity unit subject) := by
  unfold disposeScript
  apply Effect.Together.tryCatch (callScript_twins host id unit subject .dispose _)
  intro raised
  cases raised with
  | failed causes => exact report_twins _
  | panicked message => exact together_throw rfl
  | stuck => exact together_throw rfl
  | exhausted => exact together_throw rfl

/-- A finalizer may fail in one world alone. -/
theorem finalizer_cousins (fair : call.Fair) (host id : Nat) {receiver other : Receiver}
    (alike : AlikeReceivers receiver other) :
    Cousins (finalizer call host id receiver) (finalizer call host id other) := by
  cases alike with
  | system kind alike => exact fair.hook .none alike.shutdown
  | behaviour entity script alike =>
      cases alike with
      | hooked attaches starts updates disposes => exact fair.hook .none disposes
      | scripted unit subject => exact (disposeScript_twins host id entity unit subject).cousins

/-- A fault of a finalizer is taken up where it comes. -/
theorem finalize_twins (fair : call.Fair) (host id : Nat) {receiver other : Receiver}
    (alike : AlikeReceivers receiver other) :
    Twins Eq (finalize call host id receiver) (finalize call host id other) :=
  (finalizer_cousins fair host id alike).isolate.then fun fault fault' _ =>
    twins_told _ _ fault fault'

/-- A receiver is finished in both worlds, or in none. -/
theorem finish_twins (fair : call.Fair) (host id : Nat) :
    Twins Eq (finish call host id) (finish call host id) := by
  apply slot?_then
  · exact together_pure rfl
  · intro slot other same
    apply twins_ite (by rw [same.busy, same.phase])
    · apply (setSlot_twins host id (same.setPhase .gone)).then
      intro _ _ _
      exact (twins_note (.same _)).then fun _ _ _ => finalize_twins fair host id same.receiver
    · exact together_pure rfl

/-- A receiver retires in both worlds, or in none. -/
theorem retire_twins (fair : call.Fair) (host id : Nat) :
    Twins Eq (retire call host id) (retire call host id) := by
  apply slot?_then
  · exact together_pure rfl
  · intro slot other same
    apply twins_ite (by rw [same.phase])
    · exact (setSlot_twins host id (same.setPhase .leaving)).then fun _ _ _ => finish_twins fair host id
    · exact together_pure rfl

/-- Several receivers retire in both worlds. -/
theorem retireAll_twins (fair : call.Fair) (host : Nat) (ids : List Nat) :
    Twins Eq (retireAll call host ids) (retireAll call host ids) := by
  induction ids with
  | nil => exact together_pure rfl
  | cons id rest ih => exact (retire_twins fair host id).then fun _ _ _ => ih

/-- A condition that is blind to hooks removes the same receivers. -/
theorem removeWhere_twins (fair : call.Fair) (host : Nat) {choose : Receiver → Bool}
    (blind : AlikeRegistries.Blind choose) :
    Twins Eq (removeWhere call host choose) (removeWhere call host choose) := by
  apply (twins_registry host).then
  intro registry other alike
  obtain ⟨left, removed⟩ := alike.take blind
  dsimp only
  rw [removed]
  apply (twins_setRegistry host left).then
  intro _ _ _
  apply (retireAll_twins fair host _).then
  intro _ _ _
  exact (twins_note (.same _)).then fun _ _ _ => together_pure rfl

/-- Behaviours are purged in both worlds. -/
theorem purgeBehaviours_twins (fair : call.Fair) (host : Nat) :
    Twins Eq (purgeBehaviours call host) (purgeBehaviours call host) :=
  removeWhere_twins fair host fun same => by rw [same.binding?]

/-- The behaviours of an entity are purged in both worlds. -/
theorem purgeEntity_twins (fair : call.Fair) (host : Nat) (entity : Entity) :
    Twins Eq (purgeEntity call host entity) (purgeEntity call host entity) :=
  removeWhere_twins fair host fun same => same.ofEntity entity

/-- A scheduler shuts down in both worlds. -/
theorem shutDown_twins (fair : call.Fair) (host : Nat) :
    Twins Eq (shutDown call host) (shutDown call host) :=
  removeWhere_twins fair host fun _ => rfl

/-- A receiver is unregistered in both worlds, or in none. -/
theorem unregister_twins (fair : call.Fair) (host id : Nat) :
    Twins Eq (unregister call host id) (unregister call host id) := by
  apply (twins_registry host).then
  intro registry other alike
  rw [alike.isRegistered]
  split
  · apply (twins_setRegistry host (alike.erase id)).then
    intro _ _ _
    apply (retire_twins fair host id).then
    intro _ _ _
    exact (twins_note (.same _)).then fun _ _ _ => together_pure rfl
  · exact together_pure rfl

/-- A registry is locked in both worlds. -/
theorem lock_twins (host : Nat) (locked : Bool) :
    Twins Eq (Run.modifyRegistry host fun registry => { registry with locked })
      (Run.modifyRegistry host fun registry => { registry with locked }) :=
  twins_modifyRegistry host fun _ _ alike => { alike with locked := rfl }

/-- A behaviour is attached in both worlds. -/
theorem attach_twins (fair : call.Fair) (host : Nat) (entity : Entity) (script : String)
    {logic other : BehaviourLogic} (alike : logic.Alike other) :
    Twins Eq (attach call host entity script logic) (attach call host entity script other) := by
  cases alike with
  | scripted unit subject => exact together_pure rfl
  | hooked attaches starts updates disposes =>
      apply (lock_twins host true).then
      intro _ _ _
      apply (fair.hook _ attaches).isolate.then
      intro fault fault' _
      apply (lock_twins host false).then
      intro _ _ _
      exact twins_told _ _ fault fault'

/-- A receiver is turned away in both worlds. -/
theorem reject_twins (fair : call.Fair) {receiver other : Receiver} (alike : AlikeReceivers receiver other) :
    Twins Eq (reject call receiver) (reject call other) := by
  cases alike with
  | system kind alike => exact together_pure rfl
  | behaviour entity script alike =>
      cases alike with
      | scripted unit subject => exact together_pure rfl
      | hooked attaches starts updates disposes =>
          exact (fair.hook .none disposes).isolate.then fun fault fault' _ =>
            twins_told _ _ fault fault'

/-- A receiver takes the same number in both worlds, or it is turned away. -/
theorem register_twins (fair : call.Fair) (host : Nat) {receiver other : Receiver}
    (alike : AlikeReceivers receiver other) :
    Twins Eq (register call host receiver) (register call host other) := by
  apply (twins_registry host).then
  intro registry registry' same
  rw [same.accepts alike]
  split
  · have entered : Twins Eq
        (Run.registry host >>= fun registry => do
          Run.setRegistry host (registry.add receiver).1
          Run.note (.accepted host (registry.add receiver).2)
          return some (registry.add receiver).2)
        (Run.registry host >>= fun registry => do
          Run.setRegistry host (registry.add other).1
          Run.note (.accepted host (registry.add other).2)
          return some (registry.add other).2) := by
      apply (twins_registry host).then
      intro registry registry' same
      obtain ⟨added, number⟩ := same.add alike
      rw [number]
      apply (twins_setRegistry host added).then
      intro _ _ _
      exact (twins_note (.same _)).then fun _ _ _ => together_pure rfl
    cases alike with
    | system kind alike => exact entered
    | behaviour entity script alike =>
        exact (attach_twins fair host entity script alike).then fun _ _ _ => entered
  · apply (twins_note (.rejected host alike)).then
    intro _ _ _
    exact (reject_twins fair alike).then fun _ _ _ => together_pure rfl

/-- A behaviour that has changed its logic has done so in both worlds. -/
theorem currentLogic_twins (host id : Nat) {logic other : BehaviourLogic} (alike : logic.Alike other) :
    Twins BehaviourLogic.Alike (currentLogic host id logic) (currentLogic host id other) := by
  apply slot?_then
  · exact together_pure alike
  · rintro ⟨receiver, started, phase, busy⟩ ⟨receiver', started', phase', busy'⟩ ⟨same, rfl, rfl, rfl⟩
    cases same with
    | system kind same => exact together_pure alike
    | behaviour entity script same => exact together_pure same

/-- A start ends the same way in both worlds, so an update follows in both or in none. -/
theorem runBehaviour_twins (fair : call.Fair) (host id : Nat) (entity : Entity) (script : String)
    {logic other : BehaviourLogic} (alike : logic.Alike other) {slot slot' : Slot}
    (same : AlikeSlots slot slot') (signal : Tick.Signal) :
    Twins (fun _ _ => True) (runBehaviour call host id entity script logic slot signal)
      (runBehaviour call host id entity script other slot' signal) := by
  apply twins_ite (by rw [same.started])
  · exact (update_cousins fair host id entity script alike signal).isolate
  · apply (setSlot_twins host id (same.setStarted true)).then
    intro _ _ _
    apply (Run.Twins.isolate (start_twins fair host id entity script alike signal)).then
    rintro fault _ rfl
    cases fault with
    | some fault => exact together_pure trivial
    | none =>
        apply (currentLogic_twins host id alike).then
        intro logic other alike
        exact (update_cousins fair host id entity script alike signal).isolate

/-- A receiver runs in both worlds, and faults are counted where they come. -/
theorem runReceiver_twins (fair : call.Fair) (host id : Nat) {slot other : Slot}
    (alike : AlikeSlots slot other) (signal : Tick.Signal) :
    Twins (fun _ _ => True) (runReceiver call host id slot signal)
      (runReceiver call host id other signal) := by
  unfold runReceiver
  have same := alike.receiver
  revert same
  generalize slot.receiver = receiver
  generalize other.receiver = receiver'
  intro same
  cases same with
  | system kind same => exact (fair.hook _ same.onTick).isolate
  | behaviour entity script same => exact runBehaviour_twins fair host id entity script same alike signal

/-- A slot is marked as busy in both worlds. -/
theorem setBusy_twins (host id : Nat) (busy : Bool) :
    Twins Eq (setBusy host id busy) (setBusy host id busy) := by
  apply slot?_then
  · exact together_pure rfl
  · exact fun slot other same => setSlot_twins host id (same.setBusy busy)

/-- A turn is taken in both worlds, and faults are counted where they come. -/
theorem turn_twins (fair : call.Fair) (host id : Nat) {slot other : Slot}
    (alike : AlikeSlots slot other) (signal : Tick.Signal) :
    Twins (fun _ _ => True) (turn call host id slot signal) (turn call host id other signal) := by
  unfold turn
  rw [alike.busy]
  apply Run.twins_refused
  apply (twins_note (.same (.turnBegan host id))).then
  intro _ _ _
  apply (setSlot_twins host id (alike.setBusy true)).then
  intro _ _ _
  apply (runReceiver_twins fair host id (alike.setBusy true) signal).then
  intro fault fault' _
  apply (setBusy_twins host id false).then
  intro _ _ _
  exact (finish_twins fair host id).then fun _ _ _ => together_pure trivial

/-- The same receivers have their turn, and only the count of the faults can differ. -/
theorem runAll_twins (fair : call.Fair) (host : Nat) (signal : Tick.Signal) (ids : List Nat)
    (invoked faults faults' : Nat) :
    Twins (fun counts counts' => counts.1 = counts'.1) (runAll call host signal ids (invoked, faults))
      (runAll call host signal ids (invoked, faults')) := by
  induction ids generalizing invoked faults faults' with
  | nil => exact together_pure rfl
  | cons id rest ih =>
      apply (twins_host host).then
      intro state state' alike
      have found := alike.registry.slot? id
      dsimp only
      rw [alike.registry.isRegistered]
      revert found
      generalize state.registry.slot? id = slot?
      generalize state'.registry.slot? id = slot?'
      intro found
      cases found with
      | none => exact ih invoked faults faults'
      | some same =>
          apply twins_ite Iff.rfl
          · apply (turn_twins fair host id same signal).then
            intro fault fault' _ world world' alike
            -- Each report falls out of the journal, and each fault counts in its own world only.
            cases fault with
            | none =>
                cases fault' with
                | none => exact ih _ _ _ world world' alike
                | some fault' => exact ih _ _ _ world _ (alike.reportRight _)
            | some fault =>
                cases fault' with
                | none => exact ih _ _ _ _ world' (alike.reportLeft _)
                | some fault' => exact ih _ _ _ _ _ ((alike.reportLeft _).reportRight _)
          · exact ih invoked faults faults'

/-- The loose units run in both worlds. -/
theorem runLoose_twins (host : Nat) (signal : Tick.Signal) :
    Twins Eq (runLoose host signal) (runLoose host signal) := by
  apply (Run.plain_runtime? host).twins.then
  rintro runtime _ rfl
  cases runtime with
  | none => exact together_pure rfl
  | some runtime =>
      exact (twins_note (.same _)).then fun _ _ _ => (Run.plain_outside host _).twins

/-- A tick calls the same receivers in both worlds, and only its faults may differ. -/
theorem tick_twins (fair : call.Fair) (host : Nat) (signal : Tick.Signal) :
    Twins TickReport.Alike (tick call host signal) (tick call host signal) := by
  apply (twins_registry host).then
  intro registry registry' alike
  rw [alike.registered]
  apply (twins_note (.same _)).then
  intro _ _ _
  apply (runAll_twins fair host signal _ 0 0 0).then
  rintro ⟨invoked, faults⟩ ⟨_, faults'⟩ rfl
  apply (runLoose_twins host signal).then
  rintro units _ rfl
  exact together_pure ⟨rfl, rfl⟩

end ScriptHost.Session.Scheduler

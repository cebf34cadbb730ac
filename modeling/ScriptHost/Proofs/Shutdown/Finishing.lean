/-
This file follows receivers out of a registry, until they have been finalized.
-/
import ScriptHost.Proofs.Session.Routine
import ScriptHost.Proofs.Shutdown.Writing

namespace ScriptHost.Session.Shutdown

open World (registryOf)
open Schedule (Phase)

/-- Hooks and factories may do whatever a run may do. -/
structure Careful (host : Nat) (call : Caller) : Prop where
  hook : ∀ (hooked : Hooked) (arguments : Arguments) (world : World), Sound host world →
    Passes host [] world world (call.hook hooked arguments)
  perform : ∀ (commands : List (Command Operation)) (world : World), Sound host world →
    Passes host [] world world (call.perform commands)

variable {host place id : Nat} {call : Caller} {origin world after : World} {slot : Slot}
  {registry : Registry}

/-- A registry that stands as before may be exchanged. -/
theorem idles_putRegistry (same : Outline.of registry = outlineOf world place) :
    Idles host world (world.putRegistry place registry) :=
  idles_resting (rests_set ⟨same, .refl _, rfl⟩) (fun _ member => member) ⟨[], rfl, by simp⟩

/-- A slot that stays as far and as busy as it was changes nothing. -/
theorem idles_setSlot (held : (world.registryOf place).slots[id]? = some slot) {changed : Slot}
    (phase : changed.phase = slot.phase) (busy : changed.busy = slot.busy) :
    Idles host world (world.putRegistry place ((world.registryOf place).setSlot id changed)) := by
  apply idles_putRegistry
  rw [of_setSlot, phase, busy]
  exact setSlot_held (of_held held)

/-- The subject of a script may change without the host noticing. -/
theorem setSubject_idle (unit : Script.CompiledUnit) (subject : Script.Value) :
    Idle host (Scheduler.setSubject place id unit subject) := by
  intro world
  change (Scheduler.setSubject place id unit subject).Ends world fun _ after => Idles host world after
  unfold Scheduler.setSubject
  rw [Run.ends_bind, Run.ends_slot?, Run.followed_ok]
  cases held : (world.registryOf place).slots[id]? with
  | none => exact .refl world
  | some slot =>
      dsimp only
      split
      · rw [Run.ends_setSlot]
        exact idles_setSlot held rfl rfl
      · exact .refl world

/-- A run that is left at once has changed nothing. -/
theorem idle_throw {α : Type} (raised : Raised) : Idle host (throw raised : Run α) :=
  fun world => .refl world

/-- A script hook changes its subject and leaves records, and nothing else. -/
theorem callScript_idle (unit : Script.CompiledUnit) (subject : Script.Value) (hook : ScriptHook)
    (arguments : List Script.Value) :
    Idle host (Scheduler.callScript place id unit subject hook arguments) := by
  unfold Scheduler.callScript
  split
  · apply (idle_note rfl).bind
    intro _
    apply (idle_plain (Run.plain_outside place _)).bind
    intro told
    apply (setSubject_idle unit _).bind
    intro _
    split
    · exact idle_pure ()
    · exact idle_throw _
    · exact idle_throw _
  · exact idle_pure ()

/-- A record does not count for any host. -/
theorem report_idle (record : TraceRecord) : Idle host (Run.report record) :=
  idle_plain (Run.plain_report record)

/-- A hook is called wherever the run has come to. -/
theorem Careful.calls (careful : Careful host call) (hooked : Hooked) (arguments : Arguments)
    (passage : Passage host [] True origin world) :
    Passes host [] origin world (call.hook hooked arguments) :=
  (careful.hook hooked arguments world passage.sound).start passage

/-- The dispose hook of a script runs, and its failure is reported. -/
theorem disposeScript_passes (entity : Entity) (unit : Script.CompiledUnit) (subject : Script.Value)
    (passage : Passage host [] True origin world) :
    Passes host [] origin world (Scheduler.disposeScript place id entity unit subject) := by
  apply Passes.tryCatch ((callScript_idle unit subject .dispose _).passes passage)
  · intro raised after mild passage
    cases raised with
    | failed causes => exact (report_idle _).passes passage
    | panicked message => exact passes_throw passage _
    | stuck => exact mild.elim
    | exhausted => exact mild.elim
  · intro raised wild
    cases raised with
    | failed causes => exact absurd trivial wild
    | panicked message => exact absurd trivial wild
    | stuck => rfl
    | exhausted => rfl

/-- Whatever a receiver does at its end passes. -/
theorem finalizer_passes (careful : Careful host call) (receiver : Receiver)
    (passage : Passage host [] True origin world) :
    Passes host [] origin world (Scheduler.finalizer call place id receiver) := by
  rcases receiver with ⟨kind, logic⟩ | ⟨entity, script, _ | ⟨unit, subject⟩⟩
  · exact careful.calls _ _ passage
  · exact careful.calls _ _ passage
  · exact disposeScript_passes entity unit subject passage

/-- What was isolated may be reported. -/
theorem told_passes (fault : Option Fault) (record : Fault → TraceRecord)
    (passage : Passage host [] True origin world) :
    Passes host [] origin world (match fault with
      | none => return ()
      | some fault => Run.report (record fault)) := by
  cases fault with
  | none => exact passes_pure passage ()
  | some fault => exact (report_idle _).passes passage

/-- A receiver is finalized behind a barrier. -/
theorem finalize_passes (careful : Careful host call) (receiver : Receiver)
    (passage : Passage host [] True origin world) :
    Passes host [] origin world (Scheduler.finalize call place id receiver) := by
  apply (finalizer_passes careful receiver passage).isolate.bind
  intro fault after passage
  exact told_passes fault Scheduler.finalizerRecord passage

/-- A value is returned. -/
theorem sure_pure {α : Type} (value : α) : Sure (pure value : Run α) :=
  sure_returns fun _ => ⟨_, rfl⟩

/-- Whichever branch is taken returns. -/
theorem sure_ite {α : Type} {holds : Prop} [Decidable holds] {body other : Run α} (first : Sure body)
    (second : Sure other) : Sure (if holds then body else other) := by
  split
  · exact first
  · exact second

/-- What finalizing a receiver raises stays behind its barrier. -/
theorem finalize_sure (receiver : Receiver) : Sure (Scheduler.finalize call place id receiver) := by
  apply (sure_isolate _).bind
  intro fault
  cases fault with
  | none => exact sure_pure ()
  | some fault => exact sure_returns fun _ => ⟨_, rfl⟩

/-- A receiver finishes, whatever its hooks raise. -/
theorem finish_sure : Sure (Scheduler.finish call place id) := by
  apply (sure_returns fun _ => ⟨_, rfl⟩ : Sure (Scheduler.slot? place id)).bind
  intro slot
  cases slot with
  | none => exact sure_pure ()
  | some slot =>
      apply sure_ite
      · apply (sure_returns fun _ => ⟨_, rfl⟩ : Sure (Scheduler.setSlot place id _)).bind
        intro _
        apply (sure_returns fun _ => ⟨_, rfl⟩ : Sure (Run.note _)).bind
        intro _
        exact finalize_sure slot.receiver
      · exact sure_pure ()

/-- A receiver is retired, whatever its hooks raise. -/
theorem retire_sure : Sure (Scheduler.retire call place id) := by
  apply (sure_returns fun _ => ⟨_, rfl⟩ : Sure (Scheduler.slot? place id)).bind
  intro slot
  cases slot with
  | none => exact sure_pure ()
  | some slot =>
      apply sure_ite
      · apply (sure_returns fun _ => ⟨_, rfl⟩ : Sure (Scheduler.setSlot place id _)).bind
        exact fun _ => finish_sure
      · exact sure_pure ()

/-- One receiver that raises does not keep the next from being retired. -/
theorem retireAll_sure (ids : List Nat) : Sure (Scheduler.retireAll call place ids) := by
  induction ids with
  | nil => exact sure_pure ()
  | cons id rest ih => exact retire_sure.bind fun _ => ih

/-- A registry is there, or the run is stuck. -/
theorem registry_sure : Sure (Run.registry place) := by
  apply (sure_returns fun _ => ⟨_, rfl⟩ : Sure (Run.host place)).bind
  intro state
  apply sure_ite
  · intro world raised same
    cases same
    exact id
  · exact sure_pure _

/-- Removing receivers returns, whatever their hooks raise. -/
theorem removeWhere_sure (choose : Receiver → Bool) : Sure (Scheduler.removeWhere call place choose) := by
  apply registry_sure.bind
  intro registry
  apply (sure_returns fun _ => ⟨_, rfl⟩ : Sure (Run.setRegistry place _)).bind
  intro _
  apply (retireAll_sure _).bind
  intro _
  exact sure_returns fun _ => ⟨_, rfl⟩

/-- What is still to be done about a slot that has just changed. -/
theorem ends_finish (present : place < world.hosts.length)
    (held : (world.registryOf place).slots[id]? = some slot) (changed : Slot)
    (post : Except Raised Unit → World → Prop) :
    (Scheduler.finish call place id).Ends
        (world.putRegistry place ((world.registryOf place).setSlot id changed)) post ↔
      if ¬ changed.busy ∧ changed.phase = .leaving then
        (Scheduler.finalize call place id changed.receiver).Ends
          (world.written place ((world.registryOf place).setSlot id { changed with phase := .gone })
            [.finalized place id]) post
      else post (.ok ()) (world.putRegistry place ((world.registryOf place).setSlot id changed)) := by
  have inside := (List.getElem?_eq_some_iff.mp held).1
  have found : ((world.registryOf place).setSlot id changed).slots[id]? = some changed :=
    List.getElem?_set_self inside
  unfold Scheduler.finish
  rw [Run.ends_bind, Run.ends_slot?, World.putRegistry_registryOf present, found, Run.followed_ok]
  dsimp only
  split
  · rw [Run.ends_bind, Run.ends_setSlot, Run.followed_ok, World.putRegistry_registryOf present,
      World.putRegistry_putRegistry present, Schedule.Registry.setSlot_setSlot, Run.ends_bind, Run.ends_note,
      Run.followed_ok]
    rfl
  · rfl

/-- The run passes, and these receivers do not hang about any longer. -/
def Retires {α : Type} (host place : Nat) (ids : List Nat) (world : World) (body : Run α) : Prop :=
  body.Ends world fun result after => Passage host [] (Calm result) world after ∧
    (place = host → ∀ value, result = .ok value → ∀ id ∈ ids, ¬ (outlineOf after host).Loose id)

/-- Nobody hangs about who has begun to leave. -/
theorem not_loose {outline : Outline} {state : Phase × Bool} (held : outline.slots[id]? = some state)
    (late : state.1 ≠ .live) : ¬ outline.Loose id := by
  intro loose
  have phase := loose.2
  rw [held] at phase
  exact late (Option.some.inj phase)

/-- A receiver does not hang about once it has begun to leave. -/
theorem written_retired (present : host < world.hosts.length)
    (held : (world.registryOf host).slots[id]? = some slot) {changed : Slot} (late : changed.phase ≠ .live)
    (entries : List Entry) :
    ¬ (outlineOf (world.written host ((world.registryOf host).setSlot id changed) entries) host).Loose
      id := by
  have inside := (List.getElem?_eq_some_iff.mp held).1
  have found : ((world.registryOf host).setSlot id changed).slots[id]? = some changed :=
    List.getElem?_set_self inside
  rw [written_outline present]
  exact not_loose (of_held found) late

/-- A receiver that is not gone has not been finalized. -/
theorem Sound.unfinalized (sound : Sound host world)
    (held : (world.registryOf host).slots[id]? = some slot) (alive : slot.phase ≠ .gone) :
    finals host world.journal id = 0 := by
  have stands := sound.tidy.stands id _ (of_held held)
  revert stands alive
  cases slot.phase with
  | live => exact fun _ stands => stands
  | leaving => exact fun _ stands => stands.2.2
  | gone => exact fun alive => absurd rfl alive

/-- A receiver that is not busy is finalized as soon as it leaves. -/
theorem gone_passage (sound : Sound host world) (present : place < world.hosts.length)
    (held : (world.registryOf place).slots[id]? = some slot) (alive : slot.phase ≠ .gone)
    (out : place = host → id ∉ (outlineOf world host).registered) {changed : Slot}
    (gone : changed.phase = .gone) :
    Passage host [] (changed.busy = slot.busy) world
      (world.written place ((world.registryOf place).setSlot id changed) [.finalized place id]) := by
  apply slot_passage sound present held changed
  · simp [Entry.timeless]
  · intro other
    simp [Entry.idle, other]
  · intro live
    rw [gone] at live
    cases live
  · intro here
    subst here
    rw [gone]
    exact sound.tidy.finalize (of_held held) alive (out rfl) changed.busy
  · intro here
    exact sound.hushed.cons (by simp)

/-- A busy receiver is left to whoever keeps it busy. -/
theorem leaving_passage (sound : Sound host world) (present : place < world.hosts.length)
    (held : (world.registryOf place).slots[id]? = some slot) (alive : slot.phase ≠ .gone)
    (out : place = host → id ∉ (outlineOf world host).registered) {changed : Slot}
    (leaving : changed.phase = .leaving) (busy : changed.busy = true) :
    Passage host [] (changed.busy = slot.busy) world
      (world.written place ((world.registryOf place).setSlot id changed) []) := by
  apply slot_passage sound present held changed
  · simp
  · simp
  · intro live
    rw [leaving] at live
    cases live
  · intro here
    subst here
    rw [leaving]
    exact sound.tidy.setSlot ⟨out rfl, busy, sound.unfinalized held alive⟩
  · intro _
    exact sound.hushed

/-- A receiver that has left its registry is finalized now, or at the end of its turn. -/
theorem retire_passes (careful : Careful host call) (sound : Sound host world)
    (present : place < world.hosts.length)
    (out : place = host → id ∉ (outlineOf world host).registered) :
    Retires host place [id] world (Scheduler.retire call place id) := by
  unfold Retires Scheduler.retire
  simp only [List.mem_singleton, forall_eq]
  rw [Run.ends_bind, Run.ends_slot?, Run.followed_ok]
  cases held : (world.registryOf place).slots[id]? with
  | none =>
      dsimp only
      rw [Run.ends_pure]
      refine ⟨.refl sound, fun here _ _ loose => ?_⟩
      subst here
      have absent := loose.2
      simp [outlineOf, Outline.of, held] at absent
  | some slot =>
      dsimp only
      split
      · next live =>
          have alive : slot.phase ≠ .gone := by simp [live]
          rw [Run.ends_bind, Run.ends_setSlot, Run.followed_ok, ends_finish present held]
          split
          · have dropped := gone_passage sound present held alive out
              (show ({ slot with phase := .gone } : Slot).phase = .gone from rfl)
            have done := dropped.calmly rfl
            apply Run.Ends.mono (finalize_passes careful slot.receiver (.refl done.sound))
            intro result after passage
            refine ⟨done.trans passage, fun here value returned loose => ?_⟩
            subst here returned
            exact written_retired present held (by simp) _ ((passage.settled trivial).loose id loose)
          · next stays =>
              have busy : slot.busy = true := by simpa using stays
              have left := leaving_passage sound present held alive out
                (show ({ slot with phase := .leaving } : Slot).phase = .leaving from rfl) busy
              refine ⟨left.weaken fun _ => rfl, fun here _ _ => ?_⟩
              subst here
              exact written_retired present held (by simp) []
      · next late =>
          rw [Run.ends_pure]
          refine ⟨.refl sound, fun here _ _ => ?_⟩
          subst here
          exact not_loose (of_held held) late

/-- All that have left the registry are retired, one after the other. -/
theorem retireAll_passes (careful : Careful host call) (ids : List Nat) (sound : Sound host world)
    (present : place < world.hosts.length)
    (out : place = host → ∀ id ∈ ids,
      id ∉ (outlineOf world host).registered ∧ id < (outlineOf world host).slots.length) :
    Retires host place ids world (Scheduler.retireAll call place ids) := by
  induction ids generalizing world with
  | nil => exact ⟨.refl sound, by simp⟩
  | cons id rest ih =>
      have first := retire_passes careful sound present fun here => (out here id List.mem_cons_self).1
      unfold Scheduler.retireAll Retires
      rw [Run.ends_bind]
      apply Run.Ends.mono first
      intro result middle retired
      obtain ⟨passage, unloose⟩ := retired
      cases result with
      | error raised =>
          exact ⟨passage, fun _ _ returned => by cases returned⟩
      | ok _ =>
          rw [Run.followed_ok]
          have later : place = host → ∀ other ∈ rest, other ∉ (outlineOf middle host).registered ∧
              other < (outlineOf middle host).slots.length := by
            intro here other member
            obtain ⟨left, inside⟩ := out here other (List.mem_cons_of_mem _ member)
            exact ⟨passage.onward.lost other inside left, Nat.lt_of_lt_of_le inside passage.onward.slots⟩
          apply Run.Ends.mono (ih passage.sound (passage.present present) later)
          intro result after rested
          obtain ⟨further, others⟩ := rested
          refine ⟨passage.trans further, fun here value returned => ?_⟩
          have settled := further.settled (returned ▸ trivial)
          have gone := unloose here () rfl id (List.mem_singleton_self id)
          exact List.forall_mem_cons.mpr
            ⟨fun loose => gone (settled.loose id loose), others here value returned⟩

/-- These receivers have left the registry, and that is all that has happened. -/
structure Leaves (host place : Nat) (ids : List Nat) (world after : World) : Prop where
  sound : Sound host after
  onward : Onward host [] world after
  locked : (outlineOf after host).locked = (outlineOf world host).locked
  busy : ∀ id, (outlineOf after host).busy id = (outlineOf world host).busy id
  loose : ∀ id, (outlineOf after host).Loose id →
    (outlineOf world host).Loose id ∨ place = host ∧ id ∈ ids
  strict : Strict host (outlineOf world host) world.journal →
    Strict host (outlineOf after host) after.journal
  out : place = host → ∀ id ∈ ids,
    id ∉ (outlineOf after host).registered ∧ id < (outlineOf after host).slots.length

/-- Receivers that have left are retired, and then nothing is left half done. -/
theorem Leaves.passes {α : Type} {ids : List Nat} {middle : World} {body : Run Unit}
    (leaves : Leaves host place ids world middle) (retires : Retires host place ids middle body)
    (sure : Sure body) (value : α) :
    Passes host [] world middle (do
      body
      Run.note (.removed place ids)
      return value) := by
  have wrecked := sure middle
  unfold Passes
  rw [Run.ends_bind]
  unfold Retires Run.Ends at retires
  unfold Run.Ends
  revert retires wrecked
  rcases body.run.run middle with ⟨raised | _, after⟩
  · intro retires wrecked
    exact ⟨retires.1.sound, leaves.onward.trans retires.1.onward,
      fun mild => absurd mild (wrecked raised rfl)⟩
  · intro retires _
    obtain ⟨passage, gone⟩ := retires
    have settled := passage.settled trivial
    have whole : Passage host [] True world after := by
      refine ⟨passage.sound, leaves.onward.trans passage.onward, fun _ => ?_⟩
      refine ⟨settled.locked.trans leaves.locked, fun id => (settled.busy id).trans (leaves.busy id),
        fun id loose => ?_, fun strict => settled.strict (leaves.strict strict)⟩
      rcases leaves.loose id (settled.loose id loose) with old | ⟨here, member⟩
      · exact old
      · exact absurd loose (gone here () rfl id member)
    exact whole.trans ((idles_note rfl after).passage whole.sound)

/-- A registry is read only when it is not locked. -/
theorem passes_registry {β : Type} {owed : List Tick.Signal} {next : Registry → Run β}
    (passage : Passage host [] True origin world)
    (rest : (world.registryOf place).locked = false →
      Passes host owed origin world (next (world.registryOf place))) :
    Passes host owed origin world (Run.registry place >>= next) := by
  unfold Passes
  rw [Run.ends_bind]
  cases locked : (world.registryOf place).locked with
  | false =>
      rw [Run.ends_registry locked]
      exact rest locked
  | true =>
      rw [Run.ends_registry_locked locked]
      exact passage.owe.weaken False.elim

/-- Receivers may leave a registry at any time. -/
theorem take_leaves (sound : Sound host world) (present : place < world.hosts.length) {fewer ids : List Nat}
    (sublist : fewer.Sublist (world.registryOf place).registered)
    (split : ∀ id, id ∈ ids ↔ id ∈ (world.registryOf place).registered ∧ id ∉ fewer) :
    Leaves host place ids world (world.written place
      { world.registryOf place with registered := fewer } [.listed place fewer]) := by
  by_cases here : place = host
  · subst here
    have outline : outlineOf (world.written place { world.registryOf place with registered := fewer }
        [.listed place fewer]) place = { outlineOf world place with registered := fewer } :=
      written_outline present
    have silent : (Entry.listed place fewer).telling place = false := rfl
    have passage : Passage place [] False world (world.written place
        { world.registryOf place with registered := fewer } [.listed place fewer]) :=
      written_here sound present (by simp [Entry.timeless])
        ((sound.tidy.leave sublist.subset).silent silent) (sound.hushed.cons (by simp)) (Nat.le_refl _)
        (fun id _ out member => out (sublist.subset member)) False.elim
    refine ⟨passage.sound, passage.onward, by rw [outline], fun id => by rw [outline]; rfl, ?_, ?_, ?_⟩
    · intro id loose
      rw [outline] at loose
      by_cases registered : id ∈ (world.registryOf place).registered
      · exact Or.inr ⟨rfl, (split id).mpr ⟨registered, loose.1⟩⟩
      · exact Or.inl ⟨registered, loose.2⟩
    · intro strict
      rw [outline]
      exact (strict_silent silent).mpr fun id member => strict id (sublist.subset member)
    · intro _ id member
      obtain ⟨registered, out⟩ := (split id).mp member
      rw [outline]
      exact ⟨out, sound.tidy.known id registered⟩
  · have idles : Idles host world (world.written place
        { world.registryOf place with registered := fewer } [.listed place fewer]) :=
      idles_elsewhere present here (by simp [Entry.idle])
    have passage : Passage host [] True world _ := idles.passage sound
    have settled := passage.settled trivial
    exact ⟨passage.sound, passage.onward, settled.locked, settled.busy,
      fun id loose => Or.inl (settled.loose id loose), settled.strict, fun same => absurd same here⟩

/-- Those who were chosen leave the registry together and are then retired. -/
theorem removeWhere_passes (careful : Careful host call) (choose : Receiver → Bool)
    (sound : Sound host world) (present : place < world.hosts.length) :
    Passes host [] world world (Scheduler.removeWhere call place choose) := by
  apply passes_registry (.refl sound)
  intro _
  have split : ∀ id, id ∈ ((world.registryOf place).take choose).2 ↔
      id ∈ (world.registryOf place).registered ∧
        id ∉ ((world.registryOf place).take choose).1.registered := by
    intro id
    simp only [Schedule.Registry.take, List.mem_filter, Bool.not_eq_true', not_and, Bool.not_eq_false]
    constructor
    · exact fun ⟨inside, chosen⟩ => ⟨inside, fun _ => chosen⟩
    · exact fun ⟨inside, chosen⟩ => ⟨inside, chosen inside⟩
  have leaves : Leaves host place _ world _ := take_leaves sound present List.filter_sublist split
  exact leaves.passes
    (retireAll_passes careful _ leaves.sound (by rw [written_length]; exact present) leaves.out)
    (retireAll_sure _) _

/-- A receiver that is unregistered leaves and is retired. -/
theorem unregister_passes (careful : Careful host call) (sound : Sound host world)
    (present : place < world.hosts.length) :
    Passes host [] world world (Scheduler.unregister call place id) := by
  apply passes_registry (.refl sound)
  intro _
  split
  · next registered =>
      have member : id ∈ (world.registryOf place).registered := List.contains_iff_mem.mp registered
      have split : ∀ other, other ∈ [id] ↔ other ∈ (world.registryOf place).registered ∧
          other ∉ ((world.registryOf place).erase id).registered := by
        intro other
        simp only [List.mem_singleton, Schedule.Registry.erase, List.mem_filter, bne_iff_ne, ne_eq,
          not_and, not_not]
        constructor
        · intro same
          rw [same]
          exact ⟨member, fun _ => rfl⟩
        · exact fun ⟨inside, same⟩ => same inside
      have leaves : Leaves host place _ world _ := take_leaves sound present List.filter_sublist split
      exact leaves.passes
        (retire_passes careful leaves.sound (by rw [written_length]; exact present)
          fun here => (leaves.out here id (List.mem_singleton_self id)).1) retire_sure true
  · exact passes_pure (.refl sound) false

end ScriptHost.Session.Shutdown

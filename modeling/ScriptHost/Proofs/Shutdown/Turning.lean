/-
This file follows a host through its ticks and its receivers through their turns.
-/
import ScriptHost.Proofs.Shutdown.Arriving

namespace ScriptHost.Session.Shutdown

open World (registryOf)
open Schedule (Phase)

variable {host place id : Nat} {call : Caller} {origin world middle after : World} {slot changed : Slot}
  {signal : Tick.Signal} {entries : List Entry}

/-- A behaviour starts with its own hook, which may do anything. -/
theorem start_passes (careful : Careful host call) (entity : Entity) (script : String)
    (logic : BehaviourLogic) (signal : Tick.Signal) (passage : Passage host [] True origin world) :
    Passes host [] origin world (Scheduler.start call place id entity script logic signal) := by
  cases logic with
  | hooked attach start update dispose => exact careful.calls _ _ passage
  | scripted unit subject => exact (callScript_idle unit subject .start _).passes passage

/-- A behaviour is updated by its own hook, which may do anything. -/
theorem update_passes (careful : Careful host call) (entity : Entity) (script : String)
    (logic : BehaviourLogic) (signal : Tick.Signal) (passage : Passage host [] True origin world) :
    Passes host [] origin world (Scheduler.update call place id entity script logic signal) := by
  cases logic with
  | hooked attach start update dispose => exact careful.calls _ _ passage
  | scripted unit subject => exact (callScript_idle unit subject .update _).passes passage

/-- A behaviour starts, if it has not, and is updated. -/
theorem runBehaviour_passes (careful : Careful host call) (entity : Entity) (script : String)
    (logic : BehaviourLogic) (passage : Passage host [] True origin world)
    (held : (world.registryOf place).slots[id]? = some slot) :
    Passes host [] origin world
      (Scheduler.runBehaviour call place id entity script logic slot signal) := by
  unfold Scheduler.runBehaviour
  split
  · exact (update_passes careful entity script logic signal passage).isolate
  · unfold Passes
    rw [Run.ends_bind, Run.ends_setSlot, Run.followed_ok]
    have started := passage.idle (idles_setSlot held
      (show ({ slot with started := true } : Slot).phase = slot.phase from rfl) rfl)
    apply (start_passes careful entity script logic signal started).isolate.bind
    intro fault after begun
    cases fault with
    | some fault => exact passes_pure begun _
    | none =>
        have looked : Idle host (Scheduler.currentLogic place id logic) := fun world => .refl world
        apply (looked.passes begun).bind
        exact fun logic last resumed =>
          (update_passes careful entity script logic signal resumed).isolate

/-- A receiver runs as what it is, a system or a behaviour. -/
theorem runReceiver_passes (careful : Careful host call) (signal : Tick.Signal)
    (passage : Passage host [] True origin world)
    (held : (world.registryOf place).slots[id]? = some slot) :
    Passes host [] origin world (Scheduler.runReceiver call place id slot signal) := by
  unfold Scheduler.runReceiver
  cases slot.receiver with
  | system kind logic => exact (careful.calls _ _ passage).isolate
  | behaviour entity script logic => exact runBehaviour_passes careful entity script logic passage held

/-- In the middle of a turn everything stands as it did, but the receiver is busy. -/
structure Midway (host place id : Nat) (origin world : World) : Prop where
  sound : Sound host world
  onward : Onward host [] origin world
  nearly : Nearly host place id origin world
  idle : place = host → (outlineOf origin host).busy id = false

/-- A turn may go on in the middle. -/
theorem Midway.later (midway : Midway host place id origin world)
    (passage : Passage host [] True world after) : Midway host place id origin after where
  sound := passage.sound
  onward := midway.onward.trans passage.onward
  nearly := midway.nearly.trans ((passage.settled trivial).nearly place id)
  idle := midway.idle

/-- A receiver that is registered may begin its turn. -/
theorem Midway.begin (sound : Sound host world) (present : place < world.hosts.length)
    (held : (world.registryOf place).slots[id]? = some slot) (idle : slot.busy = false)
    (allowed : place = host →
      id ∈ (outlineOf world host).registered ∧ (outlineOf world host).locked = false) :
    Midway host place id world (world.written place
      ((world.registryOf place).setSlot id { slot with busy := true }) [.turnBegan place id]) := by
  have timeless : ∀ entry ∈ [Entry.turnBegan place id], entry.timeless = true := by
    simp [Entry.timeless]
  have passage : Passage host [] (true = slot.busy) world (world.written place
      ((world.registryOf place).setSlot id { slot with busy := true }) [.turnBegan place id]) := by
    apply slot_passage sound present held { slot with busy := true } timeless
    · intro other
      simp [Entry.idle, other]
    · exact fun live => live
    · intro here
      subst here
      obtain ⟨busy, live⟩ := sound.tidy.live (allowed rfl).1
      have phase : slot.phase = .live := by
        have same := (of_held held).symm.trans live
        exact congrArg Prod.fst (Option.some.inj same)
      have silent : (Entry.turnBegan place id).telling place = false := rfl
      apply (sound.tidy.silent silent).setSlot
      rw [finals_silent silent, phase]
      exact sound.unfinalized held (by simp [phase])
    · intro here
      subst here
      apply sound.hushed.cons
      intro other same
      cases same
      exact sound.tidy.strict (allowed rfl).2 id (allowed rfl).1
  refine ⟨passage.sound, passage.onward, slot_nearly present held timeless fun live => live, fun here => ?_⟩
  subst here
  exact (busy_held (of_held held)).trans idle

/-- A receiver that is not busy any more ends its turn. -/
theorem Midway.close {calm : Prop} (midway : Midway host place id origin world)
    (present : place < world.hosts.length) (held : (world.registryOf place).slots[id]? = some slot)
    (timeless : ∀ entry ∈ entries, entry.timeless = true)
    (live : changed.phase = .live → slot.phase = .live) (rests : changed.busy = false)
    (passage : Passage host [] calm world
      (world.written place ((world.registryOf place).setSlot id changed) entries)) :
    Passage host [] True origin
      (world.written place ((world.registryOf place).setSlot id changed) entries) where
  sound := passage.sound
  onward := midway.onward.trans passage.onward
  settled _ := by
    apply (midway.nearly.trans (slot_nearly present held timeless live)).settled
    intro here
    subst here
    have stands : (outlineOf world place).slots[id]? = some (slot.phase, slot.busy) := of_held held
    rw [outline_setSlot present, if_pos rfl, busy_setSlot_self stands, midway.idle rfl]
    exact rests

/-- A turn ends with the receiver no longer busy, and finalized if it is on its way out. -/
theorem end_passes (careful : Careful host call) (midway : Midway host place id origin world)
    (present : place < world.hosts.length) :
    Passes host [] origin world (do
      Scheduler.setBusy place id false
      Scheduler.finish call place id : Run Unit) := by
  unfold Passes Scheduler.setBusy
  rw [Run.ends_bind, Run.ends_bind, Run.ends_slot?, Run.followed_ok]
  cases held : (world.registryOf place).slots[id]? with
  | none =>
      unfold Scheduler.finish
      dsimp only
      rw [Run.ends_pure, Run.followed_ok, Run.ends_bind, Run.ends_slot?, Run.followed_ok, held]
      refine passes_pure ⟨midway.sound, midway.onward, fun _ => midway.nearly.settled fun here => ?_⟩ ()
      subst here
      rw [midway.idle rfl]
      simp [Outline.busy, outlineOf, Outline.of, held]
  | some slot =>
      dsimp only
      rw [Run.ends_setSlot, Run.followed_ok, ends_finish present held]
      split
      · next due =>
          have leaving : slot.phase = .leaving := due.2
          have out : place = host → id ∉ (outlineOf world host).registered := by
            intro here
            subst here
            have stands := midway.sound.tidy.stands id _ (of_held held)
            rw [leaving] at stands
            exact stands.1
          have dropped := gone_passage midway.sound present held (by simp [leaving]) out
            (show ({ slot with busy := false, phase := .gone } : Slot).phase = .gone from rfl)
          have closed := midway.close present held (by simp [Entry.timeless]) (by simp) rfl dropped
          exact finalize_passes careful slot.receiver closed
      · next rests =>
          have stays : slot.phase ≠ .leaving := by simpa using rests
          have rested : Passage host [] (false = slot.busy) world (world.written place
              ((world.registryOf place).setSlot id { slot with busy := false }) []) := by
            apply slot_passage midway.sound present held { slot with busy := false } (by simp) (by simp)
              fun live => live
            · intro here
              subst here
              have stands := midway.sound.tidy.stands id _ (of_held held)
              apply midway.sound.tidy.setSlot
              revert stands stays
              cases slot.phase with
              | live => exact fun _ stands => stands
              | leaving => exact fun stays => absurd rfl stays
              | gone => exact fun _ stands => stands
            · exact fun _ => midway.sound.hushed
          have nothing : ∀ entry ∈ ([] : List Entry), entry.timeless = true := by simp
          exact midway.close present held nothing (fun live => live) rfl rested

/-- What a receiver raises in its turn stays behind its barrier. -/
theorem runReceiver_sure : Sure (Scheduler.runReceiver call place id slot signal) := by
  unfold Scheduler.runReceiver
  cases slot.receiver with
  | system kind logic => exact sure_isolate _
  | behaviour entity script logic =>
      apply sure_ite
      · exact sure_isolate _
      · apply (sure_returns fun _ => ⟨_, rfl⟩ : Sure (Scheduler.setSlot place id _)).bind
        intro _
        apply (sure_isolate _).bind
        intro fault
        cases fault with
        | some fault => exact sure_pure _
        | none =>
            apply (sure_returns fun _ => ⟨_, rfl⟩ : Sure (Scheduler.currentLogic place id logic)).bind
            exact fun _ => sure_isolate _

/-- A receiver has its turn if it is registered and has not been shut out. -/
theorem turn_passes (careful : Careful host call) (signal : Tick.Signal) (sound : Sound host world)
    (present : place < world.hosts.length) (held : (world.registryOf place).slots[id]? = some slot)
    (allowed : place = host →
      id ∈ (outlineOf world host).registered ∧ (outlineOf world host).locked = false) :
    Passes host [] world world (Scheduler.turn call place id slot signal) := by
  unfold Scheduler.turn
  split
  · exact passes_throw (.refl sound) .stuck
  · next rests =>
      have idle : slot.busy = false := by simpa using rests
      have begun := Midway.begin sound present held idle allowed
      have found : ((world.written place ((world.registryOf place).setSlot id { slot with busy := true })
          [.turnBegan place id]).registryOf place).slots[id]? = some { slot with busy := true } := by
        rw [written_registryOf present]
        exact List.getElem?_set_self (List.getElem?_eq_some_iff.mp held).1
      unfold Passes
      rw [Run.ends_bind, Run.ends_note, Run.followed_ok, Run.ends_bind, Run.ends_setSlot, Run.followed_ok,
        Run.ends_bind]
      have running := runReceiver_passes careful signal (.refl begun.sound) found
      apply Run.Ends.mono (running.surely runReceiver_sure)
      intro result middle ends
      rcases ends with ⟨fault, rfl, passage⟩ | ⟨raised, rfl, wild, passage⟩
      · have ending := end_passes careful (begun.later passage)
          (passage.present (by rw [written_length]; exact present))
        rw [Run.followed_ok, ← bind_assoc]
        exact ending.bind fun _ after passage => passes_pure passage fault
      · exact ⟨passage.sound, begun.onward.trans passage.onward, fun mild => absurd mild wild⟩

/-- The receivers of a tick have their turn one after the other, as long as they are registered. -/
theorem runAll_passes (careful : Careful host call) (signal : Tick.Signal) (ids : List Nat) (counts : Nat × Nat)
    (present : place < origin.hosts.length)
    (unlocked : place = host → (outlineOf origin host).locked = false)
    (passage : Passage host [] True origin world) :
    Passes host [] origin world (Scheduler.runAll call place signal ids counts) := by
  induction ids generalizing world counts with
  | nil => exact passes_pure passage counts
  | cons id ids ih =>
      obtain ⟨invoked, faults⟩ := counts
      unfold Scheduler.runAll
      unfold Passes
      rw [Run.ends_bind, Run.ends_host, Run.followed_ok]
      have read : ((world.hosts[place]?).getD .core).registry.slot? id =
          (world.registryOf place).slots[id]? := rfl
      dsimp only
      rw [read]
      cases held : (world.registryOf place).slots[id]? with
      | none => exact ih _ passage
      | some slot =>
          dsimp only
          split
          · next registered =>
              have allowed : place = host → id ∈ (outlineOf world host).registered ∧
                  (outlineOf world host).locked = false := by
                intro here
                have locked := (passage.settled trivial).locked
                rw [unlocked here] at locked
                subst here
                exact ⟨List.contains_iff_mem.mp registered, locked⟩
              have turned := turn_passes careful signal passage.sound (passage.present present) held allowed
              apply (turned.start passage).bind
              intro fault after passage
              cases fault with
              | none => exact ih _ passage
              | some fault =>
                  apply ((report_idle _).passes passage).bind
                  exact fun _ after passage => ih _ passage
          · exact ih _ passage

section Timing

variable {entry : Entry} {owed more : List Tick.Signal} (timing : entry.timing = true)

include timing

/-- Counting a tick keeps a world sound. -/
theorem Sound.timed (sound : Sound host world) : Sound host (world.note entry) where
  housed := ⟨sound.housed.core, sound.housed.named, sound.housed.listeners⟩
  tuned := by
    refine ⟨sound.tuned.apart, sound.tuned.once, sound.tuned.known, fun shut => ?_⟩
    rw [World.note_journal, closed_timing timing] at shut
    exact sound.tuned.shut shut
  tidy := sound.tidy.silent (telling_timing timing)
  hushed := hushed_timing timing sound.hushed

/-- Counting a tick leaves nothing half done. -/
theorem settled_timing : Settled host world (world.note entry) :=
  ⟨rfl, fun _ => rfl, fun _ loose => loose, fun strict => (strict_silent (telling_timing timing)).mpr strict⟩

/-- Only the counts have to come out right. -/
theorem Passage.timed (passage : Passage host more True origin world)
    (paid : ∀ choose, balance host choose origin.journal ≤
      balance host choose (entry :: world.journal) + owed.countP choose)
    (spent : ∀ choose, spare host choose origin.journal ≤ spare host choose (entry :: world.journal)) :
    Passage host owed True origin (world.note entry) where
  sound := passage.sound.timed timing
  onward := { passage.onward with since := passage.onward.since.trans (List.suffix_cons _ _), paid, spent }
  settled _ := (passage.settled trivial).trans (settled_timing timing)

end Timing

/-- The tick of a host is owed by whoever had it tick. -/
def owes (host place : Nat) (signal : Tick.Signal) : List Tick.Signal :=
  if place = host then [signal] else []

/-- The loose units of another host are no matter of this one. -/
theorem runLoose_idle (other : place ≠ host) : Idle host (Scheduler.runLoose place signal) := by
  apply (idle_plain (Run.plain_runtime? place)).bind
  intro runtime
  cases runtime with
  | none => exact idle_pure _
  | some runtime =>
      apply (idle_note (by simp [Entry.idle, other])).bind
      exact fun _ => idle_plain (Run.plain_outside place _)

/-- The loose units run once for every tick. -/
theorem runLoose_passes {owed : List Tick.Signal} (passage : Passage host owed True origin world)
    (unspent : ∀ choose,
      spare host choose origin.journal + (choose signal).toNat ≤ spare host choose world.journal) :
    Passes host owed origin world (Scheduler.runLoose host signal) := by
  unfold Passes Scheduler.runLoose
  rw [Run.ends_bind, Run.ends_runtime?, Run.followed_ok]
  cases ((world.hosts[host]?).getD .core).runtime with
  | none => exact passes_pure passage _
  | some runtime =>
      dsimp only
      rw [Run.ends_bind, Run.ends_note, Run.followed_ok]
      have begun : Passage host owed True origin
          (world.note (.unitsBegan host runtime.scripts.active.names signal)) := by
        apply Passage.timed rfl passage
        · intro choose
          rw [balance_unitsBegan]
          exact passage.onward.paid choose
        · intro choose
          rw [spare_unitsBegan]
          have left := unspent choose
          omega
      exact begun.idle (idle_plain (Run.plain_outside host _) _)

/-- A tick takes its receivers in turn and then runs the loose units. -/
theorem tick_passes (careful : Careful host call) (signal : Tick.Signal) (sound : Sound host world)
    (present : place < world.hosts.length) :
    Passes host (owes host place signal) world world (Scheduler.tick call place signal) := by
  apply passes_registry (.refl sound)
  intro unlocked
  unfold Passes
  rw [Run.ends_bind, Run.ends_note, Run.followed_ok, Run.ends_bind]
  by_cases here : place = host
  · subst here
    have owed : owes place place signal = [signal] := if_pos rfl
    rw [owed]
    -- The tick that begins is the one that is owed, and its own loose units are still to run.
    have begun : Passage place [signal] True world (world.note (.tickBegan place signal)) := by
      apply Passage.timed rfl (.refl sound)
      · intro choose
        rw [balance_tickBegan]
        cases chosen : choose signal <;> simp [chosen]
      · intro choose
        rw [spare_tickBegan]
        omega
    have running := runAll_passes careful signal (world.registryOf place).registered (0, 0)
      (begun.present present) (fun _ => unlocked) (.refl begun.sound)
    apply Run.Ends.mono running
    intro result middle passage
    cases result with
    | error raised => exact begun.trans passage
    | ok counts =>
        obtain ⟨invoked, faults⟩ := counts
        rw [Run.followed_ok, Run.ends_bind]
        have unspent : ∀ choose,
            spare place choose world.journal + (choose signal).toNat ≤ spare place choose middle.journal := by
          intro choose
          have spent := passage.onward.spent choose
          rw [World.note_journal, spare_tickBegan] at spent
          exact spent
        apply Run.Ends.mono (runLoose_passes (begun.trans passage) unspent)
        intro result after passage
        cases result <;> exact passage
  · have owed : owes host place signal = [] := if_neg here
    rw [owed]
    have idle : Entry.idle host (.tickBegan place signal) = true := by simp [Entry.idle, here]
    have begun : Passage host [] True world (world.note (.tickBegan place signal)) :=
      Passage.idle (.refl sound) (idles_note idle world)
    have running := runAll_passes careful signal (world.registryOf place).registered (0, 0)
      (begun.present present) (fun same => absurd same here) (.refl begun.sound)
    rw [← Run.ends_bind]
    apply (running.start begun).bind
    intro counts middle passage
    obtain ⟨invoked, faults⟩ := counts
    apply ((runLoose_idle here).passes passage).bind
    exact fun units after passage => passes_pure passage _

end ScriptHost.Session.Shutdown

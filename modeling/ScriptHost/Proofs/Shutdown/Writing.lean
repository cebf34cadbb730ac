/-
This file looks at the steps that write into the registry of a host and tell of it.
-/
import ScriptHost.Proofs.Shutdown.Idling

namespace ScriptHost.Session

/-- The registry is changed and the journal tells of it, latest first. -/
def World.written (world : World) (host : Nat) (registry : Registry) (entries : List Entry) : World :=
  { world.putRegistry host registry with journal := entries ++ world.journal }

namespace Shutdown

open World (registryOf)
open Schedule (Phase)

variable {host place id : Nat} {calm : Prop} {world middle after : World} {registry : Registry}
  {entries : List Entry} {slot : Slot}

/-- Only the host that is written to changes. -/
theorem written_hostOf (present : place < world.hosts.length) (id : Nat) :
    (world.written place registry entries).hostOf id =
      if id = place then { world.hostOf place with registry } else world.hostOf id :=
  World.putHost_hostOf present { world.hostOf place with registry } id

/-- What is written is read. -/
theorem written_registryOf (present : place < world.hosts.length) :
    (world.written place registry entries).registryOf place = registry := by
  have here : (world.written place registry entries).hostOf place = { world.hostOf place with registry } := by
    rw [written_hostOf present, if_pos rfl]
  exact congrArg Host.registry here

/-- Writing into a registry changes no listener. -/
theorem written_listeners (present : place < world.hosts.length) (id : Nat) :
    listeners (world.written place registry entries) id = listeners world id := by
  unfold listeners
  rw [written_hostOf present]
  split
  · next same => rw [same]
  · rfl

/-- Writing into a registry changes no runtime. -/
theorem written_engagement (present : place < world.hosts.length) (id : Nat) :
    engagement (world.written place registry entries) id = engagement world id := by
  unfold engagement
  rw [written_hostOf present]
  split
  · next same =>
      rw [same]
      rfl
  · rfl

/-- The outline becomes that of the registry that is written. -/
theorem written_outline (present : host < world.hosts.length) :
    outlineOf (world.written host registry entries) host = .of registry :=
  congrArg Outline.of (written_registryOf present)

/-- The outline of another host stays as it is. -/
theorem written_elsewhere (present : place < world.hosts.length) (other : place ≠ host) :
    outlineOf (world.written place registry entries) host = outlineOf world host := by
  have here : (world.written place registry entries).hostOf host = world.hostOf host := by
    rw [written_hostOf present, if_neg (Ne.symm other)]
  exact congrArg (fun state : Host => Outline.of state.registry) here

/-- Writing into a registry adds no host. -/
theorem written_length : (world.written place registry entries).hosts.length = world.hosts.length :=
  World.putRegistry_length

/-- What is mentioned is still there after writing. -/
theorem Housed.written (housed : Housed world) (present : place < world.hosts.length) :
    Housed (world.written place registry entries) where
  core := by rw [written_length]; exact housed.core
  named entry member := by rw [written_length]; exact housed.named entry member
  listeners id listening member := by
    rw [written_length]
    rw [written_listeners present] at member
    exact housed.listeners id listening member

/-- Writing into a registry keeps a host tuned, also one that closes by it. -/
theorem Tuned.written (tuned : Tuned host world) (present : place < world.hosts.length)
    (shut : closed host (entries ++ world.journal) = true →
      (∃ listener, engagement world host = some (.shutDown, listener)) ∧
        ∀ listening ∈ listeners world host, drives host listening = false) :
    Tuned host (world.written place registry entries) where
  apart id other := by rw [written_listeners present]; exact tuned.apart id other
  once := by rw [written_listeners present]; exact tuned.once
  known := by
    rw [written_listeners present, written_engagement present]
    exact tuned.known
  shut := by
    rw [written_listeners present, written_engagement present]
    exact shut

/-- What happens to the registry of another host does not count. -/
theorem idles_elsewhere (present : place < world.hosts.length) (other : place ≠ host)
    (idle : ∀ entry ∈ entries, entry.idle host = true) :
    Idles host world (world.written place registry entries) where
  hosts := Nat.le_of_eq written_length.symm
  outline := written_elsewhere present other
  housed housed := housed.written present
  tuned tuned := tuned.written present fun shut => tuned.shut (closed_idles idle ▸ shut)
  journal := ⟨entries, rfl, idle⟩

section Timeless

variable {journal : List Entry} (timeless : ∀ entry ∈ entries, entry.timeless = true)

include timeless

/-- Entries without ticks and ends close nothing. -/
theorem closed_timelessly : closed host (entries ++ journal) = closed host journal :=
  unmoved (fun _ _ timeless => closed_timeless timeless) timeless journal

/-- Entries without ticks and ends settle no tick. -/
theorem balance_timelessly (choose : Tick.Signal → Bool) :
    balance host choose (entries ++ journal) = balance host choose journal :=
  unmoved (fun _ _ timeless => balance_timeless timeless) timeless journal

/-- Entries without ticks and ends leave the loose units as they are. -/
theorem spare_timelessly (choose : Tick.Signal → Bool) :
    spare host choose (entries ++ journal) = spare host choose journal :=
  unmoved (fun _ _ timeless => spare_timeless timeless) timeless journal

/-- Entries without ticks and ends shut nobody out. -/
theorem strict_timelessly {outline : Outline} :
    Strict host outline (entries ++ journal) ↔ Strict host outline journal := by
  apply iff_of_eq
  apply unmoved _ timeless
  intro entry journal timeless
  have other : entry ≠ .shutDownBegan host := by
    rintro rfl
    cases timeless
  simp only [Strict, shutOut_cons other]

end Timeless

/-- What happens to the registry of the host itself has to keep its receivers in order. -/
theorem written_here (sound : Sound host world) (present : host < world.hosts.length)
    (timeless : ∀ entry ∈ entries, entry.timeless = true)
    (tidy : Tidy host (.of registry) (entries ++ world.journal))
    (hushed : Hushed host (entries ++ world.journal))
    (slots : (world.registryOf host).slots.length ≤ registry.slots.length)
    (lost : ∀ id < (world.registryOf host).slots.length, id ∉ (world.registryOf host).registered →
      id ∉ registry.registered)
    (settled : calm → Settled host world (world.written host registry entries)) :
    Passage host [] calm world (world.written host registry entries) where
  sound := by
    have tuned : Tuned host (world.written host registry entries) :=
      sound.tuned.written present fun shut => sound.tuned.shut (closed_timelessly timeless ▸ shut)
    refine ⟨sound.housed.written present, tuned, ?_, hushed⟩
    rw [written_outline present]
    exact tidy
  onward := by
    have outline : outlineOf (world.written host registry entries) host = .of registry :=
      written_outline present
    refine ⟨List.suffix_append _ _, Nat.le_of_eq written_length.symm, ?_, ?_, fun choose => ?_, fun choose => ?_⟩
    · rw [outline, of_length]
      exact Nat.le_trans (Nat.le_of_eq of_length) slots
    · intro id inside out
      rw [outline]
      exact lost id (by rwa [outlineOf, of_length] at inside) out
    · have same : balance host choose (entries ++ world.journal) = balance host choose world.journal :=
        balance_timelessly timeless choose
      change _ ≤ balance host choose (entries ++ world.journal) + _
      rw [same]
      simp
    · exact Int.le_of_eq (spare_timelessly timeless choose).symm
  settled := settled

/-- Other receivers stay as busy as they are. -/
theorem busy_setSlot_ne {outline : Outline} {state : Phase × Bool} {index : Nat} (other : index ≠ id) :
    (outline.setSlot id state).busy index = outline.busy index := by
  unfold Outline.busy Outline.setSlot
  rw [List.getElem?_set_ne (Ne.symm other)]

/-- A receiver becomes as busy as it is written to be. -/
theorem busy_setSlot_self {outline : Outline} {state other : Phase × Bool}
    (held : outline.slots[id]? = some other) : (outline.setSlot id state).busy id = state.2 := by
  unfold Outline.busy Outline.setSlot
  rw [List.getElem?_set_self (List.getElem?_eq_some_iff.mp held).1]
  rfl

/-- A receiver is as busy as its slot says. -/
theorem busy_held {outline : Outline} {state : Phase × Bool} (held : outline.slots[id]? = some state) :
    outline.busy id = state.2 := by
  rw [Outline.busy, held]
  rfl

/-- Nobody hangs about because a receiver gets further on its way out. -/
theorem loose_setSlot {outline : Outline} {state changed : Phase × Bool}
    (held : outline.slots[id]? = some state) (live : changed.1 = .live → state.1 = .live) {index : Nat}
    (loose : (outline.setSlot id changed).Loose index) : outline.Loose index := by
  obtain ⟨out, phase⟩ := loose
  refine ⟨out, ?_⟩
  unfold Outline.setSlot at phase
  rw [List.getElem?_set] at phase
  split at phase
  · next here =>
      subst here
      rw [if_pos (List.getElem?_eq_some_iff.mp held).1] at phase
      rw [held]
      exact congrArg some (live (Option.some.inj phase))
  · exact phase

/-- Nothing is left half done except that this receiver may be busy. -/
structure Nearly (host place id : Nat) (world after : World) : Prop where
  locked : (outlineOf after host).locked = (outlineOf world host).locked
  busy : ∀ index, ¬ (place = host ∧ index = id) →
    (outlineOf after host).busy index = (outlineOf world host).busy index
  loose : ∀ index, (outlineOf after host).Loose index → (outlineOf world host).Loose index
  strict : Strict host (outlineOf world host) world.journal →
    Strict host (outlineOf after host) after.journal

/-- What is settled is so for a receiver in its turn, too. -/
theorem Settled.nearly (settled : Settled host world after) (place id : Nat) :
    Nearly host place id world after :=
  ⟨settled.locked, fun index _ => settled.busy index, settled.loose, settled.strict⟩

/-- Two stretches of a turn make one. -/
theorem Nearly.trans (first : Nearly host place id world middle) (second : Nearly host place id middle after) :
    Nearly host place id world after where
  locked := second.locked.trans first.locked
  busy index other := (second.busy index other).trans (first.busy index other)
  loose index loose := first.loose index (second.loose index loose)
  strict strict := second.strict (first.strict strict)

/-- A turn is settled if it leaves its receiver as busy as it was. -/
theorem Nearly.settled (nearly : Nearly host place id world after)
    (same : place = host → (outlineOf after host).busy id = (outlineOf world host).busy id) :
    Settled host world after where
  locked := nearly.locked
  busy index := by
    by_cases here : place = host ∧ index = id
    · rw [here.2]
      exact same here.1
    · exact nearly.busy index here
  loose := nearly.loose
  strict := nearly.strict

/-- One slot is written, if it belongs to the host. -/
theorem outline_setSlot (present : place < world.hosts.length) (changed : Slot) (entries : List Entry) :
    outlineOf (world.written place ((world.registryOf place).setSlot id changed) entries) host =
      if place = host then (outlineOf world host).setSlot id (changed.phase, changed.busy)
      else outlineOf world host := by
  split
  · next here =>
      subst here
      rw [written_outline present, of_setSlot]
      rfl
  · next other => exact written_elsewhere present other

/-- A slot may be written as long as its receiver does not come back to life. -/
theorem slot_nearly (present : place < world.hosts.length)
    (held : (world.registryOf place).slots[id]? = some slot) {changed : Slot}
    (timeless : ∀ entry ∈ entries, entry.timeless = true)
    (live : changed.phase = .live → slot.phase = .live) :
    Nearly host place id world
      (world.written place ((world.registryOf place).setSlot id changed) entries) := by
  have outline : outlineOf (world.written place ((world.registryOf place).setSlot id changed) entries) host =
      if place = host then (outlineOf world host).setSlot id (changed.phase, changed.busy)
      else outlineOf world host := outline_setSlot present changed entries
  by_cases here : place = host
  · subst here
    rw [if_pos rfl] at outline
    refine ⟨by rw [outline]; rfl, fun index other => ?_, fun index loose => ?_, fun strict => ?_⟩
    · rw [outline]
      exact busy_setSlot_ne fun same => other ⟨rfl, same⟩
    · rw [outline] at loose
      exact loose_setSlot (of_held held) live loose
    · rw [outline]
      exact (strict_timelessly timeless).mpr strict
  · rw [if_neg here] at outline
    refine ⟨by rw [outline], fun index _ => by rw [outline], fun index loose => ?_, fun strict => ?_⟩
    · rwa [outline] at loose
    · rw [outline]
      exact (strict_timelessly timeless).mpr strict

/-- One slot is changed, and whoever was on the way out stays so. -/
theorem slot_passage (sound : Sound host world) (present : place < world.hosts.length)
    (held : (world.registryOf place).slots[id]? = some slot) (changed : Slot)
    (timeless : ∀ entry ∈ entries, entry.timeless = true)
    (idle : place ≠ host → ∀ entry ∈ entries, entry.idle host = true)
    (live : changed.phase = .live → slot.phase = .live)
    (tidy : place = host → Tidy host ((outlineOf world host).setSlot id (changed.phase, changed.busy))
      (entries ++ world.journal))
    (hushed : place = host → Hushed host (entries ++ world.journal)) :
    Passage host [] (changed.busy = slot.busy) world
      (world.written place ((world.registryOf place).setSlot id changed) entries) := by
  by_cases here : place = host
  · subst here
    have nearly : Nearly place place id world
        (world.written place ((world.registryOf place).setSlot id changed) entries) :=
      slot_nearly present held timeless live
    apply written_here sound present timeless
    · rw [of_setSlot]
      exact tidy rfl
    · exact hushed rfl
    · exact Nat.le_of_eq (Schedule.Registry.setSlot_length ..).symm
    · exact fun _ _ out => out
    · intro busy
      apply nearly.settled
      intro _
      have stands : (outlineOf world place).slots[id]? = some (slot.phase, slot.busy) := of_held held
      rw [outline_setSlot present, if_pos rfl, busy_setSlot_self stands, busy_held stands]
      exact busy
  · exact (idles_elsewhere present here (idle here)).passage sound

end Shutdown

end ScriptHost.Session

/-
This file carries the invariant of a registry over to worlds, and says what nested runs may change.
-/
import ScriptHost.Proofs.Schedule.Upkeep
import ScriptHost.Proofs.Session.Registries

namespace ScriptHost.Session

open World (registryOf)

namespace Scheduler

/-- This much holds wherever a run is broken off. -/
structure Recorded (host : Nat) (registry : Registry) (journal : List Entry) : Prop where
  lives : ∀ (id : Nat) (receiver : Receiver), (accepted registry)[id]? = some receiver →
    Lived receiver (calls receiver journal)
  dismissed : ∀ receiver, Entry.rejected host receiver ∈ journal →
    calls receiver journal = [] ∨ calls receiver journal = dismissal receiver
  story : Story host registry journal

def RecordedIn (host : Nat) (world : World) : Prop :=
  Recorded host (world.registryOf host) world.journal

/-- The name leads to the host, and its registry is kept. -/
structure Steady (name : String) (host : Nat) (waiting : List Nat) (running : Option Nat)
    (world : World) : Prop where
  named : (world.names.hosts.lookup name).getD 0 = host
  present : host < world.hosts.length
  closed : Closed (world.registryOf host) world.journal
  kept : Kept name host waiting running (world.registryOf host) world.uses.length world.journal

/-- The entries are what has been written since, and receivers only came to the end of the registry. -/
structure Since (host : Nat) (entries : List Entry) (before after : World) : Prop where
  journal : after.journal = entries ++ before.journal
  accepted : accepted (before.registryOf host) <+: accepted (after.registryOf host)
  listed : ∀ ids, Entry.listed host ids ∈ entries → ∀ id ∈ ids,
    id < (before.registryOf host).slots.length → id ∈ (before.registryOf host).registered
  registered : ∀ id ∈ (after.registryOf host).registered,
    id < (before.registryOf host).slots.length → id ∈ (before.registryOf host).registered

/-- No tick calls a hook meanwhile, and no receiver is started. -/
structure Nested (host : Nat) (before after : World) : Prop where
  since : ∃ entries, Since host entries before after ∧ ∀ entry ∈ entries, entry.ofTick = false
  started : ∀ (id : Nat) (slot : Slot), (before.registryOf host).slots[id]? = some slot →
    ∃ later, (after.registryOf host).slots[id]? = some later ∧ later.started = slot.started

variable {name : String} {host : Nat} {waiting : List Nat} {running : Option Nat}
  {registry : Registry} {hookCount : Nat} {journal : List Entry} {before middle after world : World}

/-- What has come so far is an active life. -/
theorem Progress.active {slot : Slot} {heard : List Part} (progress : Progress slot heard) :
    Active slot.receiver heard := by
  unfold Progress at progress
  unfold Active
  cases same : slot.receiver with
  | system kind logic => simpa [same] using progress
  | behaviour entity script logic =>
      simp only [same] at progress
      split at progress
      · exact Or.inr progress
      · exact Or.inl progress

/-- A life that goes on has the shape of one. -/
theorem Lives.lived {slot : Slot} {heard : List Part} (lives : Lives slot heard) :
    Lived slot.receiver heard := by
  obtain ⟨active, progress, same⟩ := lives
  split at same
  · exact Or.inr ⟨active, progress.active, same⟩
  · rw [List.append_nil] at same
    rw [same]
    exact Or.inl progress.active

/-- What is kept is recorded. -/
theorem Kept.recorded (kept : Kept name host waiting running registry hookCount journal) :
    Recorded host registry journal where
  lives id receiver held := by
    rw [accepted_getElem?] at held
    obtain ⟨slot, stored, rfl⟩ := Option.map_eq_some_iff.mp held
    exact (kept.lives id slot stored).lived
  dismissed receiver member := Or.inr (kept.dismissed receiver member)
  story := kept.story

/-- The record stands even if the hook is never called. -/
theorem Kept.recorded_before {hook : Nat} {label : String} {arguments : Arguments}
    (kept : Kept name host waiting running registry hookCount
      (.called hook label arguments :: journal))
    (later : ∀ receiver ∈ accepted registry, part? receiver hook ≠ some .attach) :
    Recorded host registry journal where
  lives id receiver held := by
    have lived := kept.recorded.lives id receiver held
    rw [calls_cons] at lived
    cases heard : heard? receiver (.called hook label arguments) with
    | none => simpa [heard] using lived
    | some part =>
        rw [heard] at lived
        refine lived.before ?_
        rintro rfl
        exact later receiver (List.mem_of_getElem? held) heard
  dismissed receiver member := by
    have whole := kept.dismissed receiver (List.mem_cons_of_mem _ member)
    rw [calls_cons] at whole
    cases heard : heard? receiver (.called hook label arguments) with
    | none => exact Or.inr (by simpa [heard] using whole)
    | some part =>
        refine Or.inl ?_
        rw [heard] at whole
        have lengths := congrArg List.length whole
        cases receiver <;> simp [dismissal] at lengths
        exact lengths
  story := kept.story.before

/-- A steady world is recorded. -/
theorem Steady.recorded (steady : Steady name host waiting running world) : RecordedIn host world :=
  steady.kept.recorded

/-- Nothing has happened since. -/
theorem Since.refl (world : World) : Since host [] world world :=
  ⟨rfl, List.prefix_rfl, by simp, fun _ member _ => member⟩

/-- Nobody loses a slot. -/
theorem Since.length {entries : List Entry} (since : Since host entries before after) :
    (before.registryOf host).slots.length ≤ (after.registryOf host).slots.length := by
  have lengths := since.accepted.length_le
  rwa [accepted_length, accepted_length] at lengths

/-- What has happened since adds up. -/
theorem Since.trans {first second : List Entry} (one : Since host first before middle)
    (two : Since host second middle after) : Since host (second ++ first) before after where
  journal := by rw [two.journal, one.journal, List.append_assoc]
  accepted := one.accepted.trans two.accepted
  listed ids member id inside bound := by
    rcases List.mem_append.mp member with member | member
    · exact one.registered id
        (two.listed ids member id inside (Nat.lt_of_lt_of_le bound one.length)) bound
    · exact one.listed ids member id inside bound
  registered id member bound :=
    one.registered id (two.registered id member (Nat.lt_of_lt_of_le bound one.length)) bound

/-- A nested run may do nothing. -/
theorem Nested.refl (world : World) : Nested host world world :=
  ⟨⟨[], Since.refl world, by simp⟩, fun _ slot held => ⟨slot, held, rfl⟩⟩

/-- Nested runs may follow each other. -/
theorem Nested.trans (one : Nested host before middle) (two : Nested host middle after) :
    Nested host before after := by
  obtain ⟨first, since, quiet⟩ := one.since
  obtain ⟨second, later, still⟩ := two.since
  refine ⟨⟨second ++ first, since.trans later, ?_⟩, ?_⟩
  · intro entry member
    rcases List.mem_append.mp member with member | member
    · exact still entry member
    · exact quiet entry member
  · intro id slot held
    obtain ⟨between, read, same⟩ := one.started id slot held
    obtain ⟨last, found, started⟩ := two.started id between read
    exact ⟨last, found, started.trans same⟩

/-- A slot has its receiver for good. -/
theorem Since.receiver {entries : List Entry} (since : Since host entries before after) {id : Nat}
    {slot later : Slot} (held : (before.registryOf host).slots[id]? = some slot)
    (found : (after.registryOf host).slots[id]? = some later) : later.receiver = slot.receiver := by
  obtain ⟨more, same⟩ := since.accepted
  have inside : id < (Scheduler.accepted (before.registryOf host)).length := by
    rw [accepted_length]
    exact (List.getElem?_eq_some_iff.mp held).1
  have read := accepted_getElem? (after.registryOf host) id
  rw [← same, List.getElem?_append_left inside, accepted_getElem?, held, found] at read
  exact (Option.some.inj read).symm

/-- An entry that lists nobody is written. -/
theorem Since.note (world : World) {entry : Entry} (plain : ∀ ids, entry ≠ .listed host ids) :
    Since host [entry] world (world.note entry) where
  journal := rfl
  accepted := List.prefix_rfl
  listed ids member := absurd (List.mem_singleton.mp member).symm (plain ids)
  registered _ member _ := member

/-- A nested run may write notes that list nobody. -/
theorem Nested.note (world : World) {entry : Entry} (plain : ∀ ids, entry ≠ .listed host ids)
    (quiet : entry.ofTick = false) : Nested host world (world.note entry) :=
  ⟨⟨[entry], Since.note world plain, by simpa using quiet⟩, fun _ slot held => ⟨slot, held, rfl⟩⟩

/-- A slot may be set as long as its receiver stays. -/
theorem Since.setSlot (present : host < world.hosts.length) {id : Nat} {slot : Slot}
    (held : (world.registryOf host).slots[id]? = some slot) (changed : Slot)
    (same : changed.receiver = slot.receiver) :
    Since host [] world (world.putRegistry host ((world.registryOf host).setSlot id changed)) where
  journal := rfl
  accepted := ⟨[], by
    rw [World.putRegistry_registryOf present, accepted_setSlot held changed same, List.append_nil]⟩
  listed := by simp
  registered id member _ := by
    rw [World.putRegistry_registryOf present] at member
    exact member

/-- A slot moves on, but it is not started. -/
theorem Nested.setSlot (present : host < world.hosts.length) {id : Nat} {slot : Slot}
    (held : (world.registryOf host).slots[id]? = some slot) (changed : Slot)
    (same : changed.receiver = slot.receiver) (started : changed.started = slot.started) :
    Nested host world (world.putRegistry host ((world.registryOf host).setSlot id changed)) := by
  refine ⟨⟨[], Since.setSlot present held changed same, by simp⟩, ?_⟩
  intro other found read
  rw [World.putRegistry_registryOf present]
  by_cases equal : other = id
  · subst equal
    obtain rfl := Option.some.inj (held.symm.trans read)
    refine ⟨changed, ?_, started⟩
    exact List.getElem?_set_self (List.getElem?_eq_some_iff.mp held).1
  · exact ⟨found, (List.getElem?_set_ne (Ne.symm equal)).trans read, rfl⟩

/-- The same is known of a world with the same registry and the same journal. -/
theorem Steady.congr (steady : Steady name host waiting running world)
    (names : after.names.hosts = world.names.hosts) (present : host < after.hosts.length)
    (registry : after.registryOf host = world.registryOf host)
    (journal : after.journal = world.journal) (uses : world.uses.length ≤ after.uses.length) :
    Steady name host waiting running after where
  named := by rw [names]; exact steady.named
  present := present
  closed := by rw [registry, journal]; exact steady.closed
  kept := by rw [registry, journal]; exact steady.kept.grow uses

/-- Where registry and journal are the same nothing has happened. -/
theorem Nested.congr (registry : after.registryOf host = world.registryOf host)
    (journal : after.journal = world.journal) : Nested host world after := by
  refine ⟨⟨[], ⟨journal, ⟨[], by rw [registry, List.append_nil]⟩, by simp, ?_⟩, by simp⟩, ?_⟩
  · intro id member _
    rwa [registry] at member
  · intro id slot held
    rw [registry]
    exact ⟨slot, held, rfl⟩

/-- Hosts determine their registries. -/
theorem registryOf_congr (hosts : after.hosts = world.hosts) :
    after.registryOf host = world.registryOf host := by
  rw [World.registryOf, hosts, World.registryOf]

/-- Names of other things may be given and hooks may be made. -/
theorem Steady.aside (steady : Steady name host waiting running world)
    (names : after.names.hosts = world.names.hosts) (hosts : after.hosts = world.hosts)
    (journal : after.journal = world.journal) (uses : world.uses.length ≤ after.uses.length) :
    Steady name host waiting running after :=
  steady.congr names (by rw [hosts]; exact steady.present) (registryOf_congr hosts) journal uses

/-- What happens beside hosts and journal does not matter. -/
theorem Nested.aside (hosts : after.hosts = world.hosts) (journal : after.journal = world.journal) :
    Nested host world after :=
  Nested.congr (registryOf_congr hosts) journal

/-- An entry that tells of nothing but itself may be written anywhere. -/
theorem Steady.note (steady : Steady name host waiting running world) {entry : Entry}
    (plain : Plain host entry) (silent : entry.hook? = none) :
    Steady name host waiting running (world.note entry) where
  named := steady.named
  present := steady.present
  closed := closed_cons (by rintro hook arguments rfl; cases silent)
  kept := steady.kept.note steady.closed plain silent

/-- Many such entries may be written at once. -/
theorem Steady.notes (steady : Steady name host waiting running world) (entries : List Entry)
    (plain : ∀ entry ∈ entries, Plain host entry ∧ entry.hook? = none) :
    Steady name host waiting running { world with journal := entries ++ world.journal } := by
  induction entries with
  | nil => exact steady
  | cons entry entries ih =>
      have rest := ih fun entry member => plain entry (List.mem_cons_of_mem _ member)
      have first := plain entry List.mem_cons_self
      exact rest.note first.1 first.2

end Scheduler

end ScriptHost.Session

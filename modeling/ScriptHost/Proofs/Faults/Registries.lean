/-
This file shows that registries which are alike tell and do the same.
-/
import ScriptHost.Proofs.Faults.Worlds

namespace ScriptHost.Session.Scheduler

variable {receiver other : Receiver} {registry registry' : Registry}

namespace AlikeReceivers

/-- Receivers that are alike are systems of one kind. -/
theorem kind? (alike : AlikeReceivers receiver other) : receiver.kind? = other.kind? := by
  cases alike <;> rfl

/-- Receivers that are alike are bound alike. -/
theorem binding? (alike : AlikeReceivers receiver other) : receiver.binding? = other.binding? := by
  cases alike <;> rfl

/-- Receivers that are alike collide with the same ones. -/
theorem collides {held held' : Receiver} (alike : AlikeReceivers held held')
    (same : AlikeReceivers receiver other) : held.collides receiver = held'.collides other := by
  rw [Schedule.Receiver.collides, Schedule.Receiver.collides, alike.kind?, alike.binding?, same.kind?,
    same.binding?]

/-- Receivers that are alike belong to the same entity. -/
theorem ofEntity (alike : AlikeReceivers receiver other) (entity : Entity) :
    Scheduler.ofEntity entity receiver = Scheduler.ofEntity entity other := by
  rw [Scheduler.ofEntity, Scheduler.ofEntity, alike.binding?]

end AlikeReceivers

namespace AlikeRegistries

/-- Registries that are alike have slots that are alike. -/
theorem slot? (alike : AlikeRegistries registry registry') (id : Nat) :
    Option.Rel AlikeSlots (registry.slot? id) (registry'.slot? id) :=
  Forall₂.getElem? alike.slots id

/-- Registries that are alike have the same receivers registered. -/
theorem isRegistered (alike : AlikeRegistries registry registry') (id : Nat) :
    registry.isRegistered id = registry'.isRegistered id := by
  rw [Schedule.Registry.isRegistered, Schedule.Registry.isRegistered, alike.registered]

/-- A receiver is found in both registries, or in none. -/
theorem receiver? (alike : AlikeRegistries registry registry') (id : Nat) :
    Option.Rel AlikeReceivers (registry.receiver? id) (registry'.receiver? id) := by
  have found := alike.slot? id
  rw [Schedule.Registry.receiver?, Schedule.Registry.receiver?]
  revert found
  cases registry.slot? id <;> cases registry'.slot? id <;> intro found <;> cases found
  · exact .none
  · next same => exact .some same.receiver

/-- Registries that are alike have receivers that are alike. -/
theorem receivers (alike : AlikeRegistries registry registry') :
    List.Forall₂ AlikeReceivers registry.receivers registry'.receivers := by
  rw [Schedule.Registry.receivers, Schedule.Registry.receivers, alike.registered]
  apply List.rel_filterMap (R := Eq)
  · rintro id _ rfl
    exact alike.receiver? id
  · exact List.forall₂_eq_eq_eq ▸ rfl

/-- What does not depend on hooks is told the same. -/
theorem told {Trait : Type} {tell : Receiver → Option Trait}
    (blind : ∀ {receiver other}, AlikeReceivers receiver other → tell receiver = tell other)
    (alike : AlikeRegistries registry registry') :
    registry.receivers.filterMap tell = registry'.receivers.filterMap tell := by
  have pairs := alike.receivers
  revert pairs
  generalize registry.receivers = receivers
  generalize registry'.receivers = others
  intro pairs
  induction pairs with
  | nil => rfl
  | cons same rest ih => rw [List.filterMap_cons, List.filterMap_cons, blind same, ih]

/-- Registries that are alike have the same bindings. -/
theorem bindings (alike : AlikeRegistries registry registry') : registry.bindings = registry'.bindings :=
  alike.told AlikeReceivers.binding?

/-- Registries that are alike have the same systems. -/
theorem systems (alike : AlikeRegistries registry registry') : registry.systems = registry'.systems :=
  alike.told AlikeReceivers.kind?

/-- Registries that are alike accept receivers that are alike. -/
theorem accepts (alike : AlikeRegistries registry registry') (same : AlikeReceivers receiver other) :
    registry.accepts receiver = registry'.accepts other := by
  rw [Schedule.Registry.accepts, Schedule.Registry.accepts]
  congr 1
  have pairs := alike.receivers
  revert pairs
  generalize registry.receivers = receivers
  generalize registry'.receivers = others
  intro pairs
  induction pairs with
  | nil => rfl
  | cons first rest ih => rw [List.any_cons, List.any_cons, first.collides same, ih]

/-- A receiver that is added takes the same place. -/
theorem add (alike : AlikeRegistries registry registry') (same : AlikeReceivers receiver other) :
    AlikeRegistries (registry.add receiver).1 (registry'.add other).1 ∧
      (registry.add receiver).2 = (registry'.add other).2 := by
  have length := alike.slots.length_eq
  refine ⟨⟨?_, ?_, alike.locked⟩, length⟩
  · exact List.rel_append alike.slots (.cons ⟨same, rfl, rfl, rfl⟩ .nil)
  · simp only [Schedule.Registry.add, alike.registered, length]

/-- The same receiver may be erased from both. -/
theorem erase (alike : AlikeRegistries registry registry') (id : Nat) :
    AlikeRegistries (registry.erase id) (registry'.erase id) :=
  ⟨alike.slots, congrArg (List.filter (· != id)) alike.registered, alike.locked⟩

/-- Slots that are alike may be set in the same place. -/
theorem setSlot (alike : AlikeRegistries registry registry') (id : Nat) {slot slot' : Slot}
    (same : AlikeSlots slot slot') : AlikeRegistries (registry.setSlot id slot) (registry'.setSlot id slot') :=
  ⟨Forall₂.set alike.slots same id, alike.registered, alike.locked⟩

/-- A choice among receivers does not look at their hooks. -/
def Blind (choose : Receiver → Bool) : Prop :=
  ∀ {receiver other}, AlikeReceivers receiver other → choose receiver = choose other

/-- A condition that is blind to hooks chooses the same receivers. -/
theorem chosen {choose : Receiver → Bool} (blind : Blind choose)
    (alike : AlikeRegistries registry registry') : registry.chosen choose = registry'.chosen choose := by
  funext id
  have found := alike.receiver? id
  rw [Schedule.Registry.chosen, Schedule.Registry.chosen]
  revert found
  cases registry.receiver? id <;> cases registry'.receiver? id <;> intro found <;> cases found
  · rfl
  · next same => exact blind same

/-- A condition that is blind to hooks takes the same receivers. -/
theorem take {choose : Receiver → Bool} (blind : Blind choose)
    (alike : AlikeRegistries registry registry') :
    AlikeRegistries (registry.take choose).1 (registry'.take choose).1 ∧
      (registry.take choose).2 = (registry'.take choose).2 := by
  have same := alike.chosen blind
  refine ⟨⟨alike.slots, ?_, alike.locked⟩, ?_⟩
  · simp only [Schedule.Registry.take, same, alike.registered]
  · simp only [Schedule.Registry.take, same, alike.registered]

end AlikeRegistries

end ScriptHost.Session.Scheduler

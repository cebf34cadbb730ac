/-
This file says that everything a world keeps is of a scope, and shows that the small changes keep this.
-/
import ScriptHost.Proofs.Congruence.Running
import ScriptHost.Proofs.Congruence.Events

namespace ScriptHost.Session

variable {scope : Scope} {world : World} {host : Nat}

/-- All hooks that a world keeps are of the scope, and so are its factories. -/
structure WithinWorld (scope : Scope) (world : World) : Prop where
  receivers : ∀ host, ∀ slot ∈ (world.registryOf host).slots, WithinReceiver scope slot.receiver
  bridge : WithinBridge scope world.bridge
  sources : ∀ host, WithinSource scope (world.hostOf host).source
  factories : ∀ state ∈ world.factories, state.factory.Within scope

/-- The relation of each good world to itself. -/
def Diagonal (good : World → Prop) (world other : World) : Prop :=
  world = other ∧ good world

/-- A world that is good is related to itself. -/
theorem Diagonal.refl {good : World → Prop} (holds : good world) : Diagonal good world world := ⟨rfl, holds⟩

/-- A run that keeps a diagonal keeps what is good. -/
theorem Run.Agrees.keeps {α : Type} {good : World → Prop} {body : Run α} (agrees : body.Agrees (Diagonal good))
    (holds : good world) : good (body.run.run world).2 :=
  (agrees world world (.refl holds)).2.2

namespace World

/-- Only the place itself is changed, and only if it is there. -/
theorem hostOf_putHost (world : World) (place : Nat) (state : Host) (id : Nat) :
    (world.putHost place state).hostOf id = world.hostOf id ∨
      id = place ∧ (world.putHost place state).hostOf id = state := by
  unfold putHost hostOf
  rw [List.getElem?_set]
  split
  · next same =>
      split
      · exact .inr ⟨same.symm, rfl⟩
      · next absent =>
          rw [← same, List.getElem?_eq_none (Nat.le_of_not_lt absent)]
          exact .inl rfl
  · exact .inl rfl

/-- Only a host that is there has a runtime. -/
theorem present (running : (world.hostOf host).runtime ≠ none) : host < world.hosts.length := by
  by_contra absent
  apply running
  unfold hostOf
  rw [List.getElem?_eq_none (Nat.le_of_not_lt absent)]
  rfl

end World

/-- What is spared in a world is spared in each of its hosts. -/
theorem World.Spares.hostOf {after : World} (spares : world.Spares after) (host : Nat) :
    (world.hostOf host).Spares (after.hostOf host) := Forall₂.getD spares.hosts (.refl _) host

/-- Receivers that differ in their progress alone are of the same scopes. -/
theorem WithinReceiver.bare {receiver other : Receiver} (same : Binding.bare other = Binding.bare receiver)
    (within : WithinReceiver scope receiver) : WithinReceiver scope other := by
  rcases receiver with ⟨kind, logic⟩ | ⟨entity, script, ⟨attach, start, update, dispose⟩ | ⟨unit, subject⟩⟩ <;>
    rcases other with ⟨kind', logic'⟩ | ⟨entity', script', ⟨attach', start', update', dispose'⟩ | ⟨unit', subject'⟩⟩ <;>
    cases same <;> exact within

/-- Whoever has a slot after a change had one before. -/
theorem Alters.former {registry after : Registry} (alters : Alters registry after) {id : Nat} {slot : Slot}
    (found : after.slots[id]? = some slot) :
    ∃ former, registry.slots[id]? = some former ∧ Binding.bare slot.receiver = Binding.bare former.receiver := by
  have same := congrArg (fun receivers : List Receiver => receivers[id]?) alters.slots
  simp only [List.getElem?_map, found, Option.map_some] at same
  obtain ⟨former, held, equal⟩ := Option.map_eq_some_iff.mp same.symm
  exact ⟨former, held, equal.symm⟩

namespace WithinWorld

/-- It is enough to look at each host that is there. -/
theorem of_hosts (receivers : ∀ state ∈ world.hosts, ∀ slot ∈ state.registry.slots, WithinReceiver scope slot.receiver)
    (bridge : WithinBridge scope world.bridge) (sources : ∀ state ∈ world.hosts, WithinSource scope state.source)
    (factories : ∀ state ∈ world.factories, state.factory.Within scope) : WithinWorld scope world := by
  have core : WithinSource scope Host.core.source := .empty
  refine ⟨fun host => ?_, bridge, fun host => ?_, factories⟩
  · unfold World.registryOf
    cases found : world.hosts[host]? with
    | none => exact fun slot absurd => nomatch absurd
    | some state => exact receivers state (List.mem_of_getElem? found)
  · unfold World.hostOf
    cases found : world.hosts[host]? with
    | none => exact core
    | some state => exact sources state (List.mem_of_getElem? found)

/-- A new world is within every scope. -/
theorem create (tree : File.Tree) (draws : Script.Draws) : WithinWorld scope (World.create tree draws) := by
  apply of_hosts
  · intro state member slot absurd
    obtain rfl := List.mem_singleton.mp member
    cases absurd
  · exact .empty
  · intro state member
    obtain rfl := List.mem_singleton.mp member
    exact .empty
  · exact fun state absurd => nomatch absurd

variable (within : WithinWorld scope world)

include within

/-- Whatever spares hosts and factories keeps no other hooks. -/
theorem spared {after : World} (spares : world.Spares after) : WithinWorld scope after := by
  constructor
  · intro host
    have same : after.registryOf host = world.registryOf host := (spares.hostOf host).registry
    rw [same]
    exact within.receivers host
  · rw [spares.bridge]
    exact within.bridge
  · intro host
    rw [(spares.hostOf host).source]
    exact within.sources host
  · rw [spares.factories]
    exact within.factories

/-- Notes do not matter. -/
theorem note (entry : Entry) : WithinWorld scope (world.note entry) :=
  ⟨within.receivers, within.bridge, within.sources, within.factories⟩

/-- How often hooks were used does not matter. -/
theorem count (uses : List Nat) : WithinWorld scope (world.count uses) :=
  ⟨within.receivers, within.bridge, within.sources, within.factories⟩

/-- The engine does not matter. -/
theorem steer (engine : Engine) : WithinWorld scope (world.steer engine) :=
  ⟨within.receivers, within.bridge, within.sources, within.factories⟩

/-- Names do not matter. -/
theorem rename (names : Names) : WithinWorld scope (world.rename names) :=
  ⟨within.receivers, within.bridge, within.sources, within.factories⟩

/-- The bridge may be replaced by one within the scope. -/
theorem rebridge {bridge : Event.Bridge Handler} (allowed : WithinBridge scope bridge) :
    WithinWorld scope (world.rebridge bridge) :=
  ⟨within.receivers, allowed, within.sources, within.factories⟩

/-- Factories of the scope may come. -/
theorem restock {factories : List FactoryState} (allowed : ∀ state ∈ factories, state.factory.Within scope) :
    WithinWorld scope (world.restock factories) :=
  ⟨within.receivers, within.bridge, within.sources, allowed⟩

/-- A host may be replaced by one within the scope. -/
theorem putHost (place : Nat) (state : Host)
    (receivers : ∀ slot ∈ state.registry.slots, WithinReceiver scope slot.receiver)
    (source : WithinSource scope state.source) : WithinWorld scope (world.putHost place state) := by
  refine ⟨fun host => ?_, within.bridge, fun host => ?_, within.factories⟩
  · change ∀ slot ∈ ((world.putHost place state).hostOf host).registry.slots, WithinReceiver scope slot.receiver
    obtain same | ⟨-, same⟩ := world.hostOf_putHost place state host
    · rw [same]
      exact within.receivers host
    · rw [same]
      exact receivers
  · obtain same | ⟨-, same⟩ := world.hostOf_putHost place state host
    · rw [same]
      exact within.sources host
    · rw [same]
      exact source

/-- What a script leaves does not matter. -/
theorem leave (host : Nat) (outside : Script.Outside) : WithinWorld scope (world.leave host outside) := by
  have put := within.putHost host { world.hostOf host with log := outside.log } (within.receivers host)
    (within.sources host)
  exact ⟨put.receivers, put.bridge, put.sources, put.factories⟩

/-- A source may be replaced by one within the scope. -/
theorem resource (host : Nat) {source : Tick.Source Listener} (allowed : WithinSource scope source) :
    WithinWorld scope (world.resource host source) :=
  within.putHost host { world.hostOf host with source } (within.receivers host) allowed

/-- A registry may be replaced by one within the scope. -/
theorem putRegistry {registry : Registry} (allowed : ∀ slot ∈ registry.slots, WithinReceiver scope slot.receiver) :
    WithinWorld scope (world.putRegistry host registry) :=
  within.putHost host { world.hostOf host with registry } allowed (within.sources host)

/-- A registry may change as long as no receiver comes. -/
theorem change {registry : Registry} (alters : Alters (world.registryOf host) registry) :
    WithinWorld scope (world.putRegistry host registry) := by
  apply within.putRegistry
  intro slot member
  obtain ⟨id, found⟩ := List.mem_iff_getElem?.mp member
  obtain ⟨former, held, same⟩ := alters.former found
  exact (within.receivers host former (List.mem_of_getElem? held)).bare same

/-- A receiver of the scope may come. -/
theorem add {receiver : Receiver} (allowed : WithinReceiver scope receiver) :
    WithinWorld scope (world.putRegistry host ((world.registryOf host).add receiver).1) := by
  apply within.putRegistry
  intro slot member
  obtain member | ⟨_ | ⟨_, ⟨⟩⟩⟩ := List.mem_append.mp member
  · exact within.receivers host slot member
  · exact allowed

end WithinWorld

end ScriptHost.Session

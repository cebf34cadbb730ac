/-
This file says which behaviours a pass takes away from entities that are gone.
-/
import Mathlib.Data.List.Basic
import ScriptHost.Proofs.Binding.Views

namespace ScriptHost.Session.Binding

open World (registryOf)

namespace View

/-- The behaviours of some entities are taken out. -/
def without (view : View) (entities : List Entity) : View :=
  { view with
    registered := view.registered.filter fun id =>
      !(view.trait? Schedule.Receiver.binding? id).any fun pair => entities.contains pair.1 }

variable {view : View} {entities : List Entity}

/-- Those who stay keep their traits in order. -/
theorem filterMap_kept {Id Trait : Type} (tell : Id → Option Trait) (gone : Trait → Bool) (ids : List Id) :
    (ids.filter fun id => !(tell id).any gone).filterMap tell =
      (ids.filterMap tell).filter fun trait => !gone trait := by
  induction ids with
  | nil => rfl
  | cons id rest ih =>
      rw [List.filter_cons, List.filterMap_cons]
      cases told : tell id with
      | none => simpa [told] using ih
      | some trait => by_cases leaves : gone trait = true <;> simp [leaves, told, ih]

/-- As many are removed as have a trait that is gone. -/
theorem length_removed {Id Trait : Type} (tell : Id → Option Trait) (gone : Trait → Bool) (ids : List Id) :
    (ids.filter fun id => (tell id).any gone).length = ((ids.filterMap tell).filter gone).length := by
  induction ids with
  | nil => rfl
  | cons id rest ih =>
      rw [List.filter_cons, List.filterMap_cons]
      cases told : tell id with
      | none => simpa using ih
      | some trait => by_cases leaves : gone trait = true <;> simp [leaves, ih]

/-- Without some entities their bindings are gone, and all others stay in order. -/
theorem without_bindings :
    (view.without entities).bindings = view.bindings.filter fun pair => !entities.contains pair.1 :=
  filterMap_kept (view.trait? Schedule.Receiver.binding?) (fun pair => entities.contains pair.1)
    view.registered

/-- A system is bound to no entity. -/
theorem unbound_of_system {id : Nat} {kind : Nat} (system : view.trait? Schedule.Receiver.kind? id = some kind) :
    view.trait? Schedule.Receiver.binding? id = none := by
  unfold trait? at system ⊢
  cases held : view.receivers[id]? with
  | none => rfl
  | some receiver =>
      rw [held] at system
      cases receiver with
      | system => rfl
      | behaviour => cases system

/-- Systems have no binding, so they stay where only what has one is taken out. -/
theorem filter_systems {keep : Nat → Bool}
    (spares : ∀ id, view.trait? Schedule.Receiver.binding? id = none → keep id = true) :
    { view with registered := view.registered.filter keep }.systems = view.systems := by
  change (view.registered.filter keep).filterMap (view.trait? Schedule.Receiver.kind?) = _
  rw [List.filterMap_filter]
  apply List.filterMap_congr
  intro id _
  cases told : view.trait? Schedule.Receiver.kind? id with
  | none => exact ite_self none
  | some kind => rw [if_pos (spares id (unbound_of_system told))]

/-- Systems stay when entities go. -/
theorem without_systems : (view.without entities).systems = view.systems :=
  filter_systems fun id unbound => by rw [unbound]; rfl

/-- Without no entity nothing changes. -/
theorem without_nil : view.without [] = view := by
  unfold without
  rw [List.filter_eq_self.mpr]
  intro id _
  cases view.trait? Schedule.Receiver.binding? id <;> rfl

/-- Entities may be taken away one by one. -/
theorem without_cons (entity : Entity) :
    (view.without [entity]).without entities = view.without (entity :: entities) := by
  unfold without
  simp only [List.filter_filter, View.mk.injEq, true_and, and_true]
  apply List.filter_congr
  intro id _
  change (!(view.trait? Schedule.Receiver.binding? id).any _ && _) = _
  cases view.trait? Schedule.Receiver.binding? id with
  | none => rfl
  | some pair => simp [Bool.and_comm]

/-- Those who stay have places still. -/
theorem without_within (within : ∀ id ∈ view.registered, id < view.receivers.length) :
    ∀ id ∈ (view.without entities).registered, id < view.receivers.length :=
  fun id member => within id (List.mem_filter.mp member).1

end View

/-- Inserting an entity adds it and no other. -/
theorem mem_insertEntity {entity other : Entity} {entities : List Entity} :
    other ∈ insertEntity entity entities ↔ other = entity ∨ other ∈ entities := by
  induction entities with
  | nil => simp [insertEntity]
  | cons held rest ih =>
      unfold insertEntity
      split
      · rw [List.mem_cons]
      · split
        · next same => simp [same]
        · rw [List.mem_cons, ih, List.mem_cons]
          exact or_left_comm

/-- The orphans are the entities that are bound and not alive. -/
theorem mem_orphans {entity : Entity} {bound : List (Entity × String)} {live : List Entity} :
    entity ∈ orphans bound live ↔ entity ∈ bound.map Prod.fst ∧ entity ∉ live := by
  have inserted : ∀ entities : List Entity,
      (entity ∈ entities.foldr insertEntity [] ↔ entity ∈ entities) := by
    intro entities
    induction entities with
    | nil => rfl
    | cons first rest ih => rw [List.foldr_cons, mem_insertEntity, ih, List.mem_cons]
  rw [orphans, inserted, List.mem_filter]
  simp

variable {world : World} {host id : Nat} {call : Caller}

/-- A pass sees nothing of the finalizer of the receiver that stands under this number. -/
def Finalizes (call : Caller) (host id : Nat) (receiver : Receiver) : Prop :=
  ∀ world, (view world host).present = true →
    (view world host).receivers[id]? = some (bare receiver) →
    Unseen host world (Scheduler.finalizer call host id receiver)

/-- The receivers that look like the one under this number can be finalized. -/
def Finishes (call : Caller) (host : Nat) (first : View) (id : Nat) : Prop :=
  ∀ receiver, first.receivers[id]? = some (bare receiver) → Finalizes call host id receiver

/-- A slot may change in all but its receiver without being seen. -/
theorem view_setSlot (present : (view world host).present = true) {slot changed : Slot}
    (held : (world.registryOf host).slots[id]? = some slot) (same : changed.receiver = slot.receiver) :
    view (world.putRegistry host ((world.registryOf host).setSlot id changed)) host = view world host := by
  have receivers : ((world.registryOf host).slots.set id changed).map (fun slot => bare slot.receiver) =
      (world.registryOf host).slots.map fun slot => bare slot.receiver := by
    rw [List.map_set, same]
    apply List.ext_getElem?
    intro index
    by_cases here : id = index
    · subst here
      obtain ⟨inside, -⟩ := List.getElem?_eq_some_iff.mp held
      rw [List.getElem?_set_self (by rwa [List.length_map]), List.getElem?_map, held]
      rfl
    · rw [List.getElem?_set_ne here]
  rw [view_putRegistry (present_iff.mp present), View.list, Schedule.Registry.setSlot]
  simp only [receivers]
  rfl

/-- A slot that is held shows its receiver. -/
theorem held_receiver {slot : Slot} (held : (world.registryOf host).slots[id]? = some slot) :
    (view world host).receivers[id]? = some (bare slot.receiver) := by
  change ((world.registryOf host).slots.map fun slot => bare slot.receiver)[id]? = _
  rw [List.getElem?_map, held]
  rfl

/-- Finalizing is not seen by a pass if the finalizer is not. -/
theorem finalize_yields {receiver : Receiver}
    (unseen : Unseen host world (Scheduler.finalizer call host id receiver)) :
    Yields host world (Scheduler.finalize call host id receiver) fun _ seen => seen = view world host := by
  refine unseen.isolate.bind fun fault after same => ?_
  cases fault with
  | none => exact same
  | some fault => exact same

/-- Who finishes leaves the view as it was. -/
theorem finish_yields (present : (view world host).present = true)
    (finishes : Finishes call host (view world host) id) :
    Yields host world (Scheduler.finish call host id) fun _ seen => seen = view world host := by
  unfold Yields Scheduler.finish
  rw [Run.ends_bind, Run.ends_slot?, Run.followed_ok]
  cases held : (world.registryOf host).slots[id]? with
  | none => exact rfl
  | some slot =>
      dsimp only
      split
      · rw [Run.ends_bind, Run.ends_setSlot, Run.followed_ok, Run.ends_bind, Run.ends_note,
          Run.followed_ok]
        have changed :=
          view_setSlot present held (show { slot with phase := .gone }.receiver = slot.receiver from rfl)
        have same := (view_finalized host id).trans changed
        rw [← same] at present finishes ⊢
        apply finalize_yields
        refine finishes slot.receiver ?_ _ present ?_ <;> rw [same, held_receiver held]
      · exact rfl

/-- A receiver that is retired is finalized unless it is busy, and a pass sees nothing of it. -/
theorem retire_yields (present : (view world host).present = true)
    (finishes : Finishes call host (view world host) id) :
    Yields host world (Scheduler.retire call host id) fun _ seen => seen = view world host := by
  unfold Yields Scheduler.retire
  rw [Run.ends_bind, Run.ends_slot?, Run.followed_ok]
  cases held : (world.registryOf host).slots[id]? with
  | none => exact rfl
  | some slot =>
      dsimp only
      split
      · rw [Run.ends_bind, Run.ends_setSlot, Run.followed_ok]
        have same :=
          view_setSlot present held (show { slot with phase := .leaving }.receiver = slot.receiver from rfl)
        rw [← same] at present finishes ⊢
        exact finish_yields present finishes
      · exact rfl

/-- All who retire leave the view as it was. -/
theorem retireAll_yields {ids : List Nat} (present : (view world host).present = true)
    (finish : ∀ id ∈ ids, Finishes call host (view world host) id) :
    Yields host world (Scheduler.retireAll call host ids) fun _ seen => seen = view world host := by
  induction ids generalizing world with
  | nil => exact rfl
  | cons id rest ih =>
      refine (retire_yields present (finish id List.mem_cons_self)).bind fun _ after same => ?_
      rw [← same] at present finish ⊢
      exact ih present fun id member => finish id (List.mem_cons_of_mem _ member)

/-- Whether a receiver belongs to an entity shows in the view. -/
theorem chosen_ofEntity (entity : Entity) (id : Nat) :
    (world.registryOf host).chosen (Scheduler.ofEntity entity) id =
      ((view world host).trait? Schedule.Receiver.binding? id).any fun pair => [entity].contains pair.1 := by
  change _ = (((world.registryOf host).slots.map fun slot => bare slot.receiver)[id]?.bind _).any _
  rw [List.getElem?_map]
  unfold Schedule.Registry.chosen Schedule.Registry.receiver? Schedule.Registry.slot?
  cases (world.registryOf host).slots[id]? with
  | none => rfl
  | some slot =>
      simp only [Option.map_some, Option.bind_some, bare_binding?, Scheduler.ofEntity]
      cases slot.receiver.binding? with
      | none => rfl
      | some pair => by_cases same : pair.1 = entity <;> simp [same]

/-- The behaviours that are not spared can be finalized. -/
def Disposable (call : Caller) (host : Nat) (first : View) (spared : List Entity) : Prop :=
  ∀ id ∈ first.registered, ∀ pair, first.trait? Schedule.Receiver.binding? id = some pair →
    pair.1 ∉ spared → Finishes call host first id

/-- All behaviours of the entity are taken out, and they are counted. -/
theorem purgeEntity_yields {spared : List Entity} (present : (view world host).present = true)
    (unlocked : (view world host).locked = false)
    (disposable : Disposable call host (view world host) spared) {entity : Entity} (gone : entity ∉ spared) :
    Yields host world (Scheduler.purgeEntity call host entity) fun removed seen =>
      seen = (view world host).without [entity] ∧
        removed + seen.bindings.length = (view world host).bindings.length := by
  have chosen : (world.registryOf host).chosen (Scheduler.ofEntity entity) = fun id =>
      ((view world host).trait? Schedule.Receiver.binding? id).any fun pair => [entity].contains pair.1 :=
    funext (chosen_ofEntity entity)
  unfold Yields Scheduler.purgeEntity Scheduler.removeWhere
  rw [Run.ends_bind, Run.ends_registry unlocked, Run.followed_ok]
  cases taken : (world.registryOf host).take (Scheduler.ofEntity entity) with
  | mk registry removed =>
      obtain ⟨kept, left⟩ := Prod.mk.inj taken
      rw [chosen] at kept left
      have seen : view ((world.putRegistry host registry).note (.listed host registry.registered)) host =
          (view world host).without [entity] := by
        rw [← kept]
        exact view_putRegistry (present_iff.mp present)
      have counted : removed.length + ((view world host).without [entity]).bindings.length =
          (view world host).bindings.length := by
        rw [← left, View.without_bindings]
        refine (congrArg (· + _) (View.length_removed _ _ _)).trans ?_
        exact (List.length_eq_length_filter_add _).symm
      have finishes : ∀ id ∈ removed, Finishes call host ((view world host).without [entity]) id := by
        intro id member
        rw [← left] at member
        obtain ⟨registered, leaves⟩ := List.mem_filter.mp member
        obtain ⟨pair, told, same⟩ := (Option.any_eq_true _ _).mp leaves
        refine disposable id registered pair told ?_
        rwa [List.mem_singleton.mp (List.contains_iff_mem.mp same)]
      dsimp only
      rw [Run.ends_bind, Run.ends_setRegistry, Run.followed_ok]
      rw [← seen] at finishes
      refine Run.Ends.returns (retireAll_yields (by rw [seen]; exact present) finishes) fun _ after same => ?_
      rw [seen] at same
      exact ⟨same, by rw [← counted, ← same]; rfl⟩

/-- The entities are cleared one after the other. -/
theorem prune_yields {spared entities : List Entity} (present : (view world host).present = true)
    (unlocked : (view world host).locked = false)
    (disposable : Disposable call host (view world host) spared) (gone : ∀ entity ∈ entities, entity ∉ spared)
    (pruned : Nat) :
    Yields host world (prune call host entities pruned) fun removed seen =>
      seen = (view world host).without entities ∧
        removed + seen.bindings.length = pruned + (view world host).bindings.length := by
  induction entities generalizing world pruned with
  | nil => exact ⟨View.without_nil.symm, rfl⟩
  | cons entity rest ih =>
      have first := purgeEntity_yields present unlocked disposable (gone entity List.mem_cons_self)
      refine first.bind fun removed after purged => ?_
      obtain ⟨same, counted⟩ := purged
      have still : Disposable call host (view after host) spared := by
        rw [same]
        exact fun id member => disposable id (List.mem_filter.mp member).1
      have others := ih (by rw [same]; exact present) (by rw [same]; exact unlocked) still
        (fun entity member => gone entity (List.mem_cons_of_mem _ member)) (pruned + removed)
      refine others.mono fun total seen cleared => ?_
      obtain ⟨last, sum⟩ := cleared
      constructor
      · rw [last, same, View.without_cons]
      · omega

end ScriptHost.Session.Binding

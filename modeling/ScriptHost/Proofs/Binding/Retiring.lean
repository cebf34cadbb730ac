/-
This file says what becomes of the receivers that are taken out of a registry while hooks leave the registry
alone.
-/
import Mathlib.Data.List.Count
import ScriptHost.Proofs.Binding.Enrolling

namespace ScriptHost.Session.Binding

open World (registryOf)
open Schedule (Phase)

/-- A receiver that is busy is finalized later, when its turn is over. -/
def retired (slot : Slot) : Slot :=
  { slot with phase := if slot.busy then .leaving else .gone }

/-- Whoever is registered has been accepted, is registered once, and has not left. -/
structure Proper (registry : Registry) : Prop where
  within : ∀ id ∈ registry.registered, id < registry.slots.length
  distinct : registry.registered.Nodup
  live : ∀ id ∈ registry.registered, ∀ slot, registry.slots[id]? = some slot → slot.phase = .live

/-- Whoever is registered in a proper registry has a slot. -/
theorem Proper.held {registry : Registry} (proper : Proper registry) {id : Nat}
    (member : id ∈ registry.registered) : ∃ slot, registry.slots[id]? = some slot :=
  ⟨_, List.getElem?_eq_getElem (proper.within id member)⟩

namespace Roster

def idle (roster : Roster) (id : Nat) : Bool :=
  roster.registry.slots[id]?.any fun slot => !slot.busy

def retire (roster : Roster) (id : Nat) : Roster :=
  { roster with
    registry := { roster.registry with slots := roster.registry.slots.modify id retired }
    moves := if roster.idle id then .ended id :: roster.moves else roster.moves }

def retireAll (roster : Roster) (ids : List Nat) : Roster :=
  ids.foldl retire roster

/-- The chosen receivers are all taken out before the first of them is retired. -/
def remove (roster : Roster) (choose : Receiver → Bool) : Roster :=
  retireAll { roster with registry := (roster.registry.take choose).1 } (roster.registry.take choose).2

variable {roster : Roster} {id : Nat} {ids : List Nat}

@[simp] theorem retired_idem (slot : Slot) : retired (retired slot) = retired slot := rfl

/-- Retiring one receiver changes its own slot alone. -/
theorem retire_slot? (roster : Roster) (id other : Nat) : (roster.retire id).registry.slots[other]? =
    roster.registry.slots[other]?.map fun slot => if other = id then retired slot else slot := by
  change (roster.registry.slots.modify id retired)[other]? = _
  rw [List.getElem?_modify]
  by_cases same : id = other
  · subst same
    simp
  · simp [same, Ne.symm same]

/-- A retired receiver is as idle as it was. -/
@[simp] theorem retire_idle (roster : Roster) (id : Nat) : (roster.retire id).idle = roster.idle := by
  funext other
  unfold idle
  rw [retire_slot?]
  cases roster.registry.slots[other]? with
  | none => rfl
  | some slot => by_cases same : other = id <;> simp [same, retired]

/-- Retiring several receivers changes exactly their slots. -/
theorem retireAll_slot? (roster : Roster) (ids : List Nat) (other : Nat) :
    (roster.retireAll ids).registry.slots[other]? =
      roster.registry.slots[other]?.map fun slot => if other ∈ ids then retired slot else slot := by
  induction ids generalizing roster with
  | nil => simp [retireAll]
  | cons id rest ih =>
      change ((roster.retire id).retireAll rest).registry.slots[other]? = _
      rw [ih, retire_slot?, Option.map_map]
      congr 1
      funext slot
      by_cases here : other = id <;> by_cases later : other ∈ rest <;> simp [here, later]

/-- Those that are not busy are finalized in their order. -/
theorem retireAll_moves (roster : Roster) (ids : List Nat) : (roster.retireAll ids).moves =
    ((ids.filter roster.idle).map .ended).reverse ++ roster.moves := by
  induction ids generalizing roster with
  | nil => rfl
  | cons id rest ih =>
      change ((roster.retire id).retireAll rest).moves = _
      rw [ih, retire_idle, List.filter_cons]
      change _ ++ (if roster.idle id then _ else _) = _
      cases roster.idle id <;> simp

/-- Nothing else changes. -/
theorem retireAll_frame (roster : Roster) (ids : List Nat) : roster.retireAll ids =
    { roster with
      registry := { roster.registry with slots := (roster.retireAll ids).registry.slots }
      moves := (roster.retireAll ids).moves } := by
  induction ids generalizing roster with
  | nil => rfl
  | cons id rest ih => exact ih (roster.retire id)

end Roster

variable {world after : World} {host id : Nat} {call : Caller} {slot : Slot} {receiver : Receiver}
  {choose : Receiver → Bool}

/-- The finalizer leaves the roster alone. -/
def Yielding (call : Caller) (host : Nat) : Receiver → Prop
  | .system _ logic => Aside host (call.hook logic.shutdown .none)
  | .behaviour _ _ (.hooked _ _ _ dispose) => Aside host (call.hook dispose .none)
  | .behaviour _ _ (.scripted ..) => True

/-- A slot that is overwritten shows in the roster. -/
theorem roster_setSlot (present : host < world.hosts.length) (id : Nat) (slot : Slot) :
    roster (world.putRegistry host ((world.registryOf host).setSlot id slot)) host =
      { roster world host with registry := (roster world host).registry.setSlot id (bareSlot slot) } := by
  rw [roster_putRegistry present, Roster.list, bareRegistry_setSlot]
  rfl

/-- Overwriting a slot with itself changes nothing. -/
theorem setSlot_held {registry : Registry} (held : registry.slots[id]? = some slot) :
    registry.setSlot id slot = registry := by
  obtain ⟨inside, rfl⟩ := List.getElem?_eq_some_iff.mp held
  rw [Schedule.Registry.setSlot, List.set_getElem_self]

/-- A script may change what its behaviour keeps, and the roster does not show it. -/
theorem setSubject_retains {unit : Script.CompiledUnit} {entity : Entity} {script : String}
    (present : (roster world host).present = true) (held : (roster world host).registry.slots[id]? = some slot)
    (scripted : slot.receiver = .behaviour entity script (.scripted unit (.map [])))
    (subject : Script.Value) :
    Retains host world (Scheduler.setSubject host id unit subject) fun _ => True := by
  obtain ⟨actual, found, rfl⟩ := roster_shows held
  unfold Retains Scheduler.setSubject
  rw [Run.ends_bind, Run.ends_slot?, Run.followed_ok, found]
  dsimp only
  change bare actual.receiver = _ at scripted
  rcases receiver : actual.receiver with ⟨kind, logic⟩ | ⟨entity', script', _ | ⟨unit', subject'⟩⟩ <;>
    rw [receiver] at scripted <;> cases scripted
  dsimp only
  rw [Run.ends_setSlot]
  have same : bareSlot { actual with receiver := .behaviour entity script (.scripted unit subject) } =
      bareSlot actual := by
    rw [bareSlot, bareSlot, receiver]
    rfl
  rw [roster_setSlot (roster_present_iff.mp present), same, setSlot_held held]
  exact ⟨rfl, fun _ _ => trivial⟩

/-- Disposing of a script leaves the roster as it is. -/
theorem disposeScript_retains {unit : Script.CompiledUnit} {entity : Entity} {script : String}
    (present : (roster world host).present = true) (held : (roster world host).registry.slots[id]? = some slot)
    (scripted : slot.receiver = .behaviour entity script (.scripted unit (.map [])))
    (subject : Script.Value) :
    Retains host world (Scheduler.disposeScript host id entity unit subject) fun _ => True := by
  unfold Scheduler.disposeScript
  apply Retains.tryCatch
  · unfold Scheduler.callScript
    split
    · have noted : Aside host (Run.note (.scriptCalled host id .dispose)) := aside_note rfl
      refine noted.retains.bind fun _ called _ same => ?_
      rw [← same] at present held
      refine (aside_plain (Run.plain_outside host _)).retains.bind fun told left _ same => ?_
      rw [← same] at present held
      refine (setSubject_retains present held scripted _).bind fun _ after _ _ => ?_
      split
      · exact retains_pure trivial
      · exact (aside_throw _).retains
      · exact (aside_throw _).retains
    · exact retains_pure trivial
  · intro raised after _
    cases raised with
    | failed causes => exact (aside_report _).retains
    | panicked message => exact (aside_throw _).retains
    | stuck => exact (aside_throw _).retains
    | exhausted => exact (aside_throw _).retains

/-- A finalizer that yields leaves the roster as it is. -/
theorem finalize_retains (present : (roster world host).present = true)
    (held : (roster world host).registry.slots[id]? = some slot) (same : slot.receiver = bare receiver)
    (yielding : Yielding call host slot.receiver) :
    Retains host world (Scheduler.finalize call host id receiver) fun _ => True := by
  have finalizer : Retains host world (Scheduler.finalizer call host id receiver) fun _ => True := by
    rw [same] at yielding
    rcases receiver with ⟨kind, logic⟩ | ⟨entity, script, ⟨attach, start, update, dispose⟩ | ⟨unit, subject⟩⟩
    · exact Aside.retains yielding
    · exact Aside.retains yielding
    · exact disposeScript_retains present held same subject
  refine finalizer.isolate.bind fun fault after _ _ => ?_
  cases fault with
  | none => exact retains_pure trivial
  | some fault => exact (aside_report _).retains

/-- What is done to the slot and told of it is what retiring comes to. -/
theorem retire_eq {roster : Roster} {changed : Slot} {moves : List Move}
    (held : roster.registry.slots[id]? = some slot) (same : changed = retired slot)
    (told : moves = if slot.busy then roster.moves else .ended id :: roster.moves) :
    { roster with registry := roster.registry.setSlot id changed, moves } = roster.retire id := by
  have idle : roster.idle id = !slot.busy := by
    unfold Roster.idle
    rw [held]
    rfl
  have slots : roster.registry.slots.modify id retired = roster.registry.slots.set id changed := by
    rw [List.modify_eq_set_getElem?, held, same]
    rfl
  rw [told, Roster.retire, idle, slots]
  cases slot.busy <;> rfl

/-- A live receiver is finalized, or it leaves when its turn is over. -/
theorem retire_achieves (present : (roster world host).present = true)
    (held : (roster world host).registry.slots[id]? = some slot) (live : slot.phase = .live)
    (yielding : Yielding call host slot.receiver) :
    Achieves host world (Scheduler.retire call host id) fun _ seen => seen = (roster world host).retire id := by
  have inside := roster_present_iff.mp present
  obtain ⟨actual, found, rfl⟩ := roster_shows held
  change actual.phase = .live at live
  obtain ⟨bound, -⟩ := List.getElem?_eq_some_iff.mp found
  have read (changed : Slot) : ((world.registryOf host).setSlot id changed).slots[id]? = some changed :=
    List.getElem?_set_self bound
  unfold Achieves Scheduler.retire
  rw [Run.ends_bind, Run.ends_slot?, Run.followed_ok, found]
  dsimp only
  rw [if_pos live, Run.ends_bind, Run.ends_setSlot, Run.followed_ok]
  unfold Scheduler.finish
  rw [Run.ends_bind, Run.ends_slot?, Run.followed_ok, World.putRegistry_registryOf inside, read]
  dsimp only
  by_cases busy : actual.busy = true
  · rw [if_neg (by simp [busy]), Run.ends_pure]
    intro _ _
    rw [roster_setSlot inside]
    exact retire_eq held (by simp [bareSlot, retired, busy]) (by simp [bareSlot, busy])
  · rw [if_pos ⟨busy, rfl⟩, Run.ends_bind, Run.ends_setSlot, Run.followed_ok, Run.ends_bind, Run.ends_note,
      Run.followed_ok, World.putRegistry_registryOf inside, World.putRegistry_putRegistry inside,
      Schedule.Registry.setSlot_setSlot]
    have gone : roster ((world.putRegistry host ((world.registryOf host).setSlot id
        { actual with phase := .gone })).note (.finalized host id)) host = (roster world host).retire id := by
      rw [roster_note, roster_setSlot inside, move?, if_pos rfl]
      exact retire_eq held (by simp [bareSlot, retired, busy]) (by simp [bareSlot, busy])
    rw [← gone]
    have still : (roster ((world.putRegistry host ((world.registryOf host).setSlot id
        { actual with phase := .gone })).note (.finalized host id)) host).registry.slots[id]? =
          some (retired (bareSlot actual)) := by
      rw [gone, Roster.retire_slot?, held]
      simp
    exact (finalize_retains (by rw [gone]; exact present) still rfl yielding).achieves.mono fun _ _ kept => kept.1

/-- The receiver under the number is live, and its finalizer leaves the roster alone. -/
def Retirable (call : Caller) (host : Nat) (roster : Roster) (id : Nat) : Prop :=
  ∃ slot, roster.registry.slots[id]? = some slot ∧ slot.phase = .live ∧ Yielding call host slot.receiver

/-- Retiring one receiver leaves the others ready to retire. -/
theorem Retirable.apart {roster : Roster} {other : Nat} (retirable : Retirable call host roster other)
    (apart : other ≠ id) : Retirable call host (roster.retire id) other := by
  obtain ⟨slot, held, rest⟩ := retirable
  exact ⟨slot, by simp [Roster.retire_slot?, held, apart], rest⟩

/-- Receivers that are ready to retire end one after the other, in order. -/
theorem retireAll_achieves {ids : List Nat} (present : (roster world host).present = true) (distinct : ids.Nodup)
    (retirable : ∀ id ∈ ids, Retirable call host (roster world host) id) :
    Achieves host world (Scheduler.retireAll call host ids)
      fun _ seen => seen = (roster world host).retireAll ids := by
  induction ids generalizing world with
  | nil => exact achieves_pure rfl
  | cons id rest ih =>
      obtain ⟨apart, distinct⟩ := List.nodup_cons.mp distinct
      obtain ⟨slot, held, live, yielding⟩ := retirable id List.mem_cons_self
      refine (retire_achieves present held live yielding).bind fun _ after same => ?_
      have others := @ih after (by rw [same]; exact present) distinct (by
        intro other member
        rw [same]
        refine (retirable other (List.mem_cons_of_mem _ member)).apart ?_
        rintro rfl
        exact apart member)
      rw [same] at others
      exact others

/-- A condition that reads no hooks takes the same receivers from the bare registry. -/
theorem bareRegistry_take (plain : ∀ receiver, choose (bare receiver) = choose receiver) (registry : Registry) :
    (bareRegistry registry).take choose =
      (bareRegistry (registry.take choose).1, (registry.take choose).2) := by
  unfold Schedule.Registry.take
  rw [bareRegistry_chosen plain]
  rfl

/-- The chosen receivers are removed, and they are counted. -/
theorem removeWhere_achieves (plain : ∀ receiver, choose (bare receiver) = choose receiver)
    (present : (roster world host).present = true) (proper : Proper (roster world host).registry)
    (yielding : ∀ id ∈ (roster world host).registry.registered, ∀ slot,
      (roster world host).registry.slots[id]? = some slot → choose slot.receiver = true →
        Yielding call host slot.receiver) :
    Achieves host world (Scheduler.removeWhere call host choose) fun removed seen =>
      removed = ((roster world host).registry.take choose).2.length ∧ seen = (roster world host).remove choose := by
  unfold Scheduler.removeWhere
  refine registry_achieves.bind fun registry after holds => ?_
  obtain ⟨same, shown, -⟩ := holds
  rw [← same] at present proper yielding ⊢
  dsimp only
  obtain ⟨kept, gone⟩ := Prod.mk.inj ((bareRegistry_take plain registry).symm.trans
    (congrArg (·.take choose) shown))
  have retirable : ∀ id ∈ (registry.take choose).2,
      Retirable call host ((roster after host).list (registry.take choose).1) id := by
    intro id member
    rw [gone] at member
    obtain ⟨registered, picked⟩ := List.mem_filter.mp member
    obtain ⟨slot, held⟩ := proper.held registered
    rw [Schedule.Registry.chosen, Schedule.Registry.receiver?, Schedule.Registry.slot?, held] at picked
    refine ⟨slot, ?_, proper.live id registered slot held, yielding id registered slot held picked⟩
    rw [Roster.list, kept]
    exact held
  refine (setRegistry_achieves present _).bind fun _ listed taken => ?_
  rw [← taken] at retirable
  have distinct : (registry.take choose).2.Nodup := by
    rw [gone]
    exact proper.distinct.filter _
  have present' : (roster listed host).present = true := by
    rw [taken]
    exact present
  refine (retireAll_achieves present' distinct retirable).bind fun _ last retired => ?_
  refine (note_achieves _).bind fun _ noted told => ?_
  apply achieves_pure
  refine ⟨congrArg List.length gone, ?_⟩
  rw [told, retired, taken, Roster.list, kept, gone]
  rfl

/-- The chosen receivers have left the registry. Those that are not busy have been finalized once more. -/
structure Removed (choose : Receiver → Bool) (before after : Roster) : Prop where
  registered : after.registry.registered =
    before.registry.registered.filter fun id => !before.registry.chosen choose id
  slots : ∀ id, after.registry.slots[id]? = before.registry.slots[id]?.map fun slot =>
    if id ∈ before.registry.registered ∧ before.registry.chosen choose id = true then retired slot else slot
  ended : ∀ id, after.moves.count (.ended id) = before.moves.count (.ended id) +
    if id ∈ before.registry.registered ∧ before.registry.chosen choose id = true ∧ before.idle id = true
    then 1 else 0
  since : ∃ gone : List Nat, after.moves = gone.map .ended ++ before.moves ∧
    ∀ id ∈ gone, id ∈ before.registry.registered ∧ before.registry.chosen choose id = true
  present : after.present = before.present

variable {roster before middle last : Roster} {second : Receiver → Bool}

/-- A condition is tested on the receiver that is held. -/
theorem chosen_held {registry : Registry} (held : registry.slots[id]? = some slot) (choose : Receiver → Bool) :
    registry.chosen choose id = choose slot.receiver := by
  rw [Schedule.Registry.chosen, Schedule.Registry.receiver?, Schedule.Registry.slot?, held]
  rfl

/-- Removal changes slots, the list of the registered, and nothing else of a registry. -/
theorem remove_registered (roster : Roster) (choose : Receiver → Bool) :
    (roster.remove choose).registry = { roster.registry with
      slots := (roster.remove choose).registry.slots
      registered := roster.registry.registered.filter fun id => !roster.registry.chosen choose id } := by
  unfold Roster.remove
  rw [Roster.retireAll_frame]
  rfl

/-- Exactly the slots of the chosen receivers retire. -/
theorem remove_slot? (roster : Roster) (choose : Receiver → Bool) (id : Nat) :
    (roster.remove choose).registry.slots[id]? = roster.registry.slots[id]?.map fun slot =>
      if id ∈ roster.registry.registered ∧ roster.registry.chosen choose id = true then retired slot else slot := by
  unfold Roster.remove
  rw [Roster.retireAll_slot?]
  simp only [Schedule.Registry.take, List.mem_filter]

/-- The chosen receivers that are idle end at once, in order. -/
theorem remove_moves (roster : Roster) (choose : Receiver → Bool) : (roster.remove choose).moves =
    (((roster.registry.registered.filter (roster.registry.chosen choose)).filter roster.idle).map
      .ended).reverse ++ roster.moves := by
  unfold Roster.remove
  rw [Roster.retireAll_moves]
  rfl

/-- A single removal takes out the chosen receivers. -/
theorem remove_removed (proper : Proper roster.registry) (choose : Receiver → Bool) :
    Removed choose roster (roster.remove choose) where
  registered := by rw [remove_registered]
  slots := remove_slot? roster choose
  ended := by
    intro id
    rw [remove_moves, List.count_append, List.count_reverse, Nat.add_comm]
    congr 1
    rw [List.count_map_of_injective _ Move.ended fun _ _ same => Move.ended.inj same]
    have distinct := (proper.distinct.filter (roster.registry.chosen choose)).filter roster.idle
    rw [List.Nodup.count distinct]
    simp only [List.mem_filter, and_assoc]
  since := by
    refine ⟨_, (remove_moves roster choose).trans (congrArg (· ++ _) List.map_reverse.symm), fun id member => ?_⟩
    exact List.mem_filter.mp (List.mem_filter.mp (List.mem_reverse.mp member)).1
  present := by
    unfold Roster.remove
    rw [Roster.retireAll_frame]

/-- Slots keep their receivers, so the same ones can be chosen afterwards. -/
theorem Removed.chosen (removed : Removed choose before middle) (second : Receiver → Bool) :
    middle.registry.chosen second = before.registry.chosen second := by
  have receivers : ∀ id, middle.registry.receiver? id = before.registry.receiver? id := by
    intro id
    unfold Schedule.Registry.receiver? Schedule.Registry.slot?
    rw [removed.slots, Option.map_map]
    congr 1
    funext slot
    change (if _ then retired slot else slot).receiver = slot.receiver
    split <;> rfl
  funext id
  rw [Schedule.Registry.chosen, receivers]
  rfl

/-- Those stay who were registered and not chosen. -/
theorem Removed.stays (removed : Removed choose before middle) : id ∈ middle.registry.registered ↔
    id ∈ before.registry.registered ∧ before.registry.chosen choose id = false := by
  rw [removed.registered, List.mem_filter, Bool.not_eq_true']

/-- The slots of those who stay are left alone. -/
theorem Removed.kept (removed : Removed choose before middle) (stays : id ∈ middle.registry.registered) :
    middle.registry.slots[id]? = before.registry.slots[id]? := by
  have spared := (removed.stays.mp stays).2
  simp [removed.slots, spared]

/-- Removal does not change who is idle. -/
theorem Removed.idle (removed : Removed choose before middle) : middle.idle = before.idle := by
  funext id
  unfold Roster.idle
  rw [removed.slots]
  cases before.registry.slots[id]? with
  | none => rfl
  | some slot =>
      rw [Option.map_some]
      split <;> rfl

/-- A proper registry stays proper when receivers are removed. -/
theorem Removed.proper (removed : Removed choose before middle) (proper : Proper before.registry) :
    Proper middle.registry where
  within := by
    intro id member
    obtain ⟨slot, held⟩ := proper.held (removed.stays.mp member).1
    exact (List.getElem?_eq_some_iff.mp ((removed.kept member).trans held)).1
  distinct := by
    rw [removed.registered]
    exact proper.distinct.filter _
  live := by
    intro id member slot held
    rw [removed.kept member] at held
    exact proper.live id (removed.stays.mp member).1 slot held

/-- Two removals come to one. -/
theorem Removed.trans (first : Removed choose before middle) (later : Removed second middle last) :
    Removed (fun receiver => choose receiver || second receiver) before last := by
  have either : ∀ id, before.registry.chosen (fun receiver => choose receiver || second receiver) id =
      (before.registry.chosen choose id || before.registry.chosen second id) := by
    intro id
    unfold Schedule.Registry.chosen
    cases before.registry.receiver? id <;> rfl
  constructor
  · rw [later.registered, first.registered, first.chosen, List.filter_filter]
    apply List.filter_congr
    intro id _
    rw [either, Bool.not_or, Bool.and_comm]
  · intro id
    rw [later.slots, first.slots, first.chosen, Option.map_map]
    congr 1
    funext slot
    simp only [Function.comp, first.stays, either]
    by_cases registered : id ∈ before.registry.registered <;>
      cases before.registry.chosen choose id <;> cases before.registry.chosen second id <;> simp [registered]
  · intro id
    rw [later.ended, first.ended, first.chosen, first.idle, Nat.add_assoc]
    simp only [first.stays, either]
    by_cases registered : id ∈ before.registry.registered <;>
      cases before.registry.chosen choose id <;> cases before.registry.chosen second id <;> simp [registered]
  · obtain ⟨earlier, before', known⟩ := first.since
    obtain ⟨more, middle', known'⟩ := later.since
    refine ⟨more ++ earlier, by rw [middle', before', List.map_append, List.append_assoc], fun id member => ?_⟩
    rw [either]
    rcases List.mem_append.mp member with member | member
    · obtain ⟨inside, chosen⟩ := known' id member
      rw [first.chosen] at chosen
      exact ⟨(first.stays.mp inside).1, by rw [chosen, Bool.or_true]⟩
    · obtain ⟨inside, chosen⟩ := known id member
      exact ⟨inside, by rw [chosen, Bool.true_or]⟩
  · rw [later.present, first.present]

/-- Choosing nobody removes nobody. -/
theorem removed_none (roster : Roster) : Removed (fun _ => false) roster roster := by
  have never : ∀ id, roster.registry.chosen (fun _ => false) id = false := by
    intro id
    unfold Schedule.Registry.chosen
    cases roster.registry.receiver? id <;> rfl
  constructor
  · simp [never]
  · intro id
    simp [never]
  · intro id
    simp [never]
  · exact ⟨[], rfl, nofun⟩
  · rfl

/-- The behaviours of these entities. -/
def ofEntities (entities : List Entity) (receiver : Receiver) : Bool :=
  receiver.binding?.any fun pair => entities.contains pair.1

/-- One entity is a list of one. -/
theorem ofEntity_eq (entity : Entity) : Scheduler.ofEntity entity = ofEntities [entity] := by
  funext receiver
  unfold Scheduler.ofEntity ofEntities
  cases receiver.binding? with
  | none => rfl
  | some pair => by_cases same : pair.1 = entity <;> simp [same]

/-- A list of entities is chosen entity by entity. -/
theorem ofEntities_cons (entity : Entity) (rest : List Entity) : ofEntities (entity :: rest) =
    fun receiver => ofEntities [entity] receiver || ofEntities rest receiver := by
  funext receiver
  unfold ofEntities
  cases receiver.binding? with
  | none => rfl
  | some pair => simp

/-- Whose entity a receiver belongs to shows without its hooks. -/
theorem ofEntities_bare (entities : List Entity) (receiver : Receiver) :
    ofEntities entities (bare receiver) = ofEntities entities receiver := by
  rw [ofEntities, bare_binding?, ofEntities]

/-- The behaviours of one entity after the other are removed. -/
theorem prune_achieves {entities : List Entity} (present : (Binding.roster world host).present = true)
    (proper : Proper (Binding.roster world host).registry)
    (yielding : ∀ id ∈ (Binding.roster world host).registry.registered, ∀ slot,
      (Binding.roster world host).registry.slots[id]? = some slot → ofEntities entities slot.receiver = true →
        Yielding call host slot.receiver) (pruned : Nat) :
    Achieves host world (prune call host entities pruned)
      fun _ seen => Removed (ofEntities entities) (Binding.roster world host) seen := by
  induction entities generalizing world pruned with
  | nil =>
      have none : ofEntities [] = fun _ => false := by
        funext receiver
        unfold ofEntities
        cases receiver.binding? <;> simp
      rw [none]
      exact achieves_pure (removed_none _)
  | cons entity rest ih =>
      have either : ∀ receiver, ofEntities (entity :: rest) receiver =
          (ofEntities [entity] receiver || ofEntities rest receiver) :=
        congrFun (ofEntities_cons entity rest)
      rw [ofEntities_cons]
      unfold prune Scheduler.purgeEntity
      rw [ofEntity_eq]
      refine (removeWhere_achieves (ofEntities_bare _) present proper fun id member slot held chosen =>
        yielding id member slot held (by rw [either, chosen, Bool.true_or])).bind fun removed after holds => ?_
      obtain ⟨-, same⟩ := holds
      have first := remove_removed proper (ofEntities [entity])
      rw [← same] at first
      refine (ih (first.present.trans present) (first.proper proper) ?_ _).mono fun _ _ later => first.trans later
      intro id member slot held chosen
      rw [first.kept member] at held
      exact yielding id (first.stays.mp member).1 slot held (by rw [either, chosen, Bool.or_true])

end ScriptHost.Session.Binding

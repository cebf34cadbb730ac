/-
This file keeps account of who has come to a registry and who has been finalized, and it says what it means
for hooks and factories to leave that alone.
-/
import ScriptHost.Proofs.Binding.Passes
import ScriptHost.Proofs.Session.Routine
import ScriptHost.Proofs.Shutdown.Accounts

namespace ScriptHost.Session.Binding

open World (registryOf)
open Shutdown (finals)

/-- A receiver comes when it is accepted, and it ends when its finalizer begins. -/
inductive Move where
  | came (id : Nat)
  | ended (id : Nat)
  deriving DecidableEq, Repr

def move? (host : Nat) : Entry → Option Move
  | .accepted place id => if place = host then some (.came id) else none
  | .finalized place id => if place = host then some (.ended id) else none
  | _ => none

def bareSlot (slot : Slot) : Slot :=
  { slot with receiver := bare slot.receiver }

def bareRegistry (registry : Registry) : Registry :=
  { registry with slots := registry.slots.map bareSlot }

/-- The registry of a host with the factories that its binder asks. The moves stand latest first. -/
structure Roster where
  present : Bool
  factories : List Nat
  chain : List (Nat × Factory Operation)
  registry : Registry
  moves : List Move

def roster (world : World) (host : Nat) : Roster where
  present := host < world.hosts.length
  factories := ((world.hosts[host]?).getD .core).binder.factories
  chain := chainOf world ((world.hosts[host]?).getD .core).binder.factories
  registry := bareRegistry (world.registryOf host)
  moves := world.journal.filterMap (move? host)

namespace Roster

def list (roster : Roster) (registry : Registry) : Roster :=
  { roster with registry := bareRegistry registry }

def note (roster : Roster) (moves : List Move) : Roster :=
  { roster with moves := moves.reverse ++ roster.moves }

end Roster

variable {world after : World} {host id : Nat} {registry : Registry} {slot : Slot} {receiver : Receiver}

/-- Bare slots stand where the slots stood. -/
theorem bareRegistry_slot? (registry : Registry) (id : Nat) :
    (bareRegistry registry).slots[id]? = registry.slots[id]?.map bareSlot :=
  List.getElem?_map

/-- The receivers of a bare registry are bare. -/
theorem bareRegistry_receivers (registry : Registry) :
    (bareRegistry registry).receivers = registry.receivers.map bare := by
  have each : (bareRegistry registry).receiver? = fun id => (registry.receiver? id).map bare := by
    funext id
    unfold Schedule.Registry.receiver? Schedule.Registry.slot?
    rw [bareRegistry_slot?, Option.map_map, Option.map_map]
    rfl
  unfold Schedule.Registry.receivers
  rw [each, List.map_filterMap]
  rfl

/-- A bare registry has the bindings of the registry. -/
@[simp] theorem bareRegistry_bindings (registry : Registry) :
    (bareRegistry registry).bindings = registry.bindings := by
  unfold Schedule.Registry.bindings
  rw [bareRegistry_receivers, List.filterMap_map]
  exact List.filterMap_congr fun receiver _ => bare_binding? receiver

/-- Baring a registry and adding a receiver to it go together. -/
theorem bareRegistry_add (registry : Registry) (receiver : Receiver) :
    bareRegistry (registry.add receiver).1 = ((bareRegistry registry).add (bare receiver)).1 := by
  simp [bareRegistry, Schedule.Registry.add, bareSlot]

/-- Baring a registry and setting a slot in it go together. -/
theorem bareRegistry_setSlot (registry : Registry) (id : Nat) (slot : Slot) :
    bareRegistry (registry.setSlot id slot) = (bareRegistry registry).setSlot id (bareSlot slot) := by
  simp [bareRegistry, Schedule.Registry.setSlot, List.map_set]

/-- The choice of receivers does not depend on what they keep for themselves. -/
theorem bareRegistry_chosen {choose : Receiver → Bool}
    (plain : ∀ receiver, choose (bare receiver) = choose receiver) (registry : Registry) :
    (bareRegistry registry).chosen choose = registry.chosen choose := by
  funext id
  unfold Schedule.Registry.chosen Schedule.Registry.receiver? Schedule.Registry.slot?
  rw [bareRegistry_slot?]
  cases registry.slots[id]? with
  | none => rfl
  | some slot => exact plain slot.receiver

/-- A roster is there if its host is. -/
theorem roster_present_iff : (roster world host).present = true ↔ host < world.hosts.length :=
  decide_eq_true_iff

/-- The moves count how often a receiver was finalized. -/
theorem finals_moves (world : World) (host id : Nat) :
    finals host world.journal id = (roster world host).moves.count (.ended id) := by
  change _ = (world.journal.filterMap (move? host)).count (.ended id)
  unfold finals
  rw [List.count, List.countP_filterMap]
  apply List.countP_congr
  intro entry _
  cases entry <;> simp [move?]
  case finalized place other _ =>
    by_cases here : place = host <;> simp [here]
  case accepted place other _ =>
    by_cases here : place = host <;> simp [here]

/-- A note adds its move to the roster, if it is one. -/
theorem roster_note (entry : Entry) :
    roster (world.note entry) host = (roster world host).note (move? host entry).toList := by
  have moved : (entry :: world.journal).filterMap (move? host) =
      (move? host entry).toList.reverse ++ world.journal.filterMap (move? host) := by
    rw [List.filterMap_cons]
    cases move? host entry <;> rfl
  rw [Roster.note]
  exact congrArg (fun moves => { roster world host with moves }) moved

/-- A note without a move does not show. -/
theorem roster_still {entry : Entry} (still : move? host entry = none) :
    roster (world.note entry) host = roster world host := by
  rw [roster_note, still]
  rfl

/-- A new registry shows as it is. -/
theorem roster_putRegistry (present : host < world.hosts.length) :
    roster (world.putRegistry host registry) host = (roster world host).list registry := by
  simp [roster, Roster.list, World.putRegistry, World.registryOf, present, chainOf, look]

/-- A slot of the registry shows as a bare one. -/
theorem roster_held (held : (world.registryOf host).slots[id]? = some slot) :
    (roster world host).registry.slots[id]? = some (bareSlot slot) := by
  change (bareRegistry _).slots[id]? = _
  rw [bareRegistry_slot?, held]
  rfl

/-- Every slot of a roster is the bare form of an actual one. -/
theorem roster_shows (held : (roster world host).registry.slots[id]? = some slot) :
    ∃ actual, (world.registryOf host).slots[id]? = some actual ∧ bareSlot actual = slot := by
  change (bareRegistry (world.registryOf host)).slots[id]? = some slot at held
  rw [bareRegistry_slot?] at held
  exact Option.map_eq_some_iff.mp held

/-- Commands that stir nothing leave the roster alone. -/
theorem roster_spares (spares : world.Spares after) : roster after host = roster world host := by
  have alike : ((world.hosts[host]?).getD .core).Spares ((after.hosts[host]?).getD .core) :=
    Forall₂.getD spares.hosts (.refl _) host
  have factories : ∀ ids, chainOf after ids = chainOf world ids := by
    intro ids
    unfold chainOf look
    rw [spares.factories]
  obtain ⟨records, journal⟩ := spares.journal
  have moves : after.journal.filterMap (move? host) = world.journal.filterMap (move? host) := by
    rw [journal, List.filterMap_append, List.filterMap_map]
    have nothing : records.filterMap (move? host ∘ Entry.reported) = [] :=
      List.filterMap_eq_nil_iff.mpr fun _ _ => rfl
    rw [nothing, List.nil_append]
  unfold roster
  rw [factories, moves, alike.binder, ← spares.hosts.length_eq]
  exact congrArg (Roster.mk _ _ _ · _) (congrArg bareRegistry alike.registry)

/-- The body leaves the roster alone, however it ends. -/
def Aside {α : Type} (host : Nat) (body : Run α) : Prop :=
  ∀ world, body.Ends world fun _ after => roster after host = roster world host

/-- The body leaves the roster alone, and this is what it returns if it returns. -/
def Retains {α : Type} (host : Nat) (world : World) (body : Run α) (good : α → Prop) : Prop :=
  body.Ends world fun result after =>
    roster after host = roster world host ∧ ∀ value, result = .ok value → good value

/-- If the body returns, then this is the roster by then. -/
def Achieves {α : Type} (host : Nat) (world : World) (body : Run α) (good : α → Roster → Prop) : Prop :=
  body.Ends world fun result after => ∀ value, result = .ok value → good value (roster after host)

section Rules

variable {α β : Type} {body : Run α} {next : α → Run β}

/-- A run that only returns moves nobody. -/
theorem aside_pure (value : α) : Aside host (pure value) := fun _ => rfl

/-- A run that only throws moves nobody. -/
theorem aside_throw (raised : Raised) : Aside host (throw raised : Run α) := fun _ => rfl

/-- Writing a note without a move moves nobody. -/
theorem aside_note {entry : Entry} (still : move? host entry = none) : Aside host (Run.note entry) :=
  fun _ => roster_still still

/-- A report moves nobody. -/
theorem aside_report (record : TraceRecord) : Aside host (Run.report record) := aside_note rfl

/-- Plain runs move nobody. -/
theorem aside_plain (plain : Run.Plain body) : Aside host body :=
  fun world => roster_spares (plain.spares world)

/-- Two runs that move nobody do so together. -/
theorem Aside.bind (first : Aside host body) (rest : ∀ value, Aside host (next value)) :
    Aside host (body >>= next) := by
  intro world
  rw [Run.ends_bind]
  apply (first world).mono
  intro result after same
  cases result with
  | error raised => exact same
  | ok value => exact (rest value after).mono fun _ _ later => later.trans same

/-- Isolating a run that moves nobody moves nobody. -/
theorem Aside.isolate {body : Run Unit} (aside : Aside host body) : Aside host (Run.isolate body) := by
  intro world
  unfold Run.Ends
  rw [Run.isolate_run]
  exact aside world

/-- A run that moves nobody retains the roster. -/
theorem Aside.retains (aside : Aside host body) : Retains host world body fun _ => True :=
  (aside world).mono fun _ _ same => ⟨same, fun _ _ => trivial⟩

/-- A run that only returns retains the roster. -/
theorem retains_pure {value : α} {good : α → Prop} (holds : good value) : Retains host world (pure value) good :=
  ⟨rfl, fun _ same => Except.ok.inj same ▸ holds⟩

/-- Two runs that retain the roster do so together. -/
theorem Retains.bind {good : α → Prop} {better : β → Prop} (first : Retains host world body good)
    (rest : ∀ value after, good value → roster after host = roster world host →
      Retains host after (next value) better) : Retains host world (body >>= next) better := by
  unfold Retains
  rw [Run.ends_bind]
  apply Run.Ends.mono first
  intro result after holds
  obtain ⟨same, returns⟩ := holds
  cases result with
  | error raised => exact ⟨same, fun _ => nofun⟩
  | ok value =>
      refine (Run.followed_ok ..).mpr (Run.Ends.mono (rest value after (returns value rfl) same) ?_)
      intro result last later
      exact ⟨later.1.trans same, later.2⟩

/-- A handler retains the roster if it starts from the same one. -/
theorem Retains.tryCatch {handler : Raised → Run α} {good : α → Prop} (first : Retains host world body good)
    (rest : ∀ raised after, roster after host = roster world host → Retains host after (handler raised) good) :
    Retains host world (tryCatch body handler) good := by
  unfold Retains
  rw [Run.ends_tryCatch]
  apply Run.Ends.mono first
  intro result after holds
  obtain ⟨same, returns⟩ := holds
  cases result with
  | ok value => exact ⟨same, returns⟩
  | error raised =>
      refine (Run.caught_error ..).mpr (Run.Ends.mono (rest raised after same) ?_)
      intro result last later
      exact ⟨later.1.trans same, later.2⟩

/-- An isolated run retains the roster whatever it ends with. -/
theorem Retains.isolate {body : Run Unit} {good : Unit → Prop} (retains : Retains host world body good) :
    Retains host world (Run.isolate body) fun _ => True := by
  unfold Retains Run.Ends
  rw [Run.isolate_run]
  exact ⟨retains.1, fun _ _ => trivial⟩

/-- A run that retains the roster achieves no change of it. -/
theorem Retains.achieves {good : α → Prop} (retains : Retains host world body good) :
    Achieves host world body fun value seen => seen = roster world host ∧ good value :=
  Run.Ends.mono retains fun _ _ holds value same => ⟨holds.1, holds.2 value same⟩

/-- A run that only returns achieves what holds already. -/
theorem achieves_pure {value : α} {good : α → Roster → Prop} (holds : good value (roster world host)) :
    Achieves host world (pure value) good :=
  fun _ same => Except.ok.inj same ▸ holds

/-- What two runs achieve follows from what each one does. -/
theorem Achieves.bind {good : α → Roster → Prop} {better : β → Roster → Prop}
    (first : Achieves host world body good)
    (rest : ∀ value after, good value (roster after host) → Achieves host after (next value) better) :
    Achieves host world (body >>= next) better := by
  unfold Achieves
  rw [Run.ends_bind]
  apply Run.Ends.mono first
  intro result after holds
  cases result with
  | error raised => exact fun _ => nofun
  | ok value => exact rest value after (holds value rfl)

/-- A weaker aim is achieved as well. -/
theorem Achieves.mono {good better : α → Roster → Prop} (achieves : Achieves host world body good)
    (implies : ∀ value seen, good value seen → better value seen) : Achieves host world body better :=
  Run.Ends.mono achieves fun _ _ holds value same => implies value _ (holds value same)

end Rules

/-- Whoever gets to read the registry finds it unlocked. -/
theorem registry_achieves : Achieves host world (Run.registry host) fun registry seen =>
    seen = roster world host ∧ bareRegistry registry = seen.registry ∧ registry.locked = false := by
  unfold Achieves
  cases locked : (world.registryOf host).locked with
  | true =>
      rw [Run.ends_registry_locked locked]
      exact fun _ => nofun
  | false =>
      rw [Run.ends_registry locked]
      intro registry same
      obtain rfl := Except.ok.inj same
      exact ⟨rfl, rfl, locked⟩

/-- Setting a registry lists those who are in it. -/
theorem setRegistry_achieves (present : (roster world host).present = true) (registry : Registry) :
    Achieves host world (Run.setRegistry host registry) fun _ seen => seen = (roster world host).list registry :=
  fun _ _ => (roster_still rfl).trans (roster_putRegistry (roster_present_iff.mp present))

/-- A note is achieved with its move. -/
theorem note_achieves (entry : Entry) : Achieves host world (Run.note entry) fun _ seen =>
    seen = (roster world host).note (move? host entry).toList :=
  fun _ _ => roster_note entry

end ScriptHost.Session.Binding

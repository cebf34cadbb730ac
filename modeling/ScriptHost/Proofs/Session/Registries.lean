/-
This file says what the small runs that read and write a registry do to the world.
-/
import ScriptHost.Proofs.Session.Ends

namespace ScriptHost

namespace Schedule.Registry

variable {System Behaviour : Type} (registry : Registry System Behaviour) (id : Nat)
  (slot other : Slot System Behaviour)

/-- Writing a slot adds none. -/
@[simp] theorem setSlot_length : (registry.setSlot id slot).slots.length = registry.slots.length :=
  List.length_set

/-- The later of two writings of a slot stands. -/
@[simp] theorem setSlot_setSlot : (registry.setSlot id slot).setSlot id other = registry.setSlot id other := by
  unfold setSlot
  rw [List.set_set]

end Schedule.Registry

namespace Session

namespace World

def registryOf (world : World) (host : Nat) : Registry :=
  ((world.hosts[host]?).getD .core).registry

def putRegistry (world : World) (host : Nat) (registry : Registry) : World :=
  { world with
    hosts := world.hosts.set host { (world.hosts[host]?).getD .core with registry } }

def note (world : World) (entry : Entry) : World :=
  { world with journal := entry :: world.journal }

def count (world : World) (uses : List Nat) : World :=
  { world with uses }

/-- The engine, the draws, the log of the host and the journal are as a script left them. -/
def leave (world : World) (host : Nat) (outside : Script.Outside) : World :=
  { world with
    engine := outside.engine
    draws := outside.draws
    hosts := world.hosts.set host { (world.hosts[host]?).getD .core with log := outside.log }
    journal := (outside.records.map .reported).reverse ++ world.journal }

variable {world : World} {host : Nat} {registry other : Registry} {entry : Entry} {uses : List Nat}

@[simp] theorem note_journal : (world.note entry).journal = entry :: world.journal := rfl

@[simp] theorem note_hosts : (world.note entry).hosts = world.hosts := rfl

@[simp] theorem note_names : (world.note entry).names = world.names := rfl

@[simp] theorem note_uses : (world.note entry).uses = world.uses := rfl

@[simp] theorem note_registryOf : (world.note entry).registryOf host = world.registryOf host := rfl

@[simp] theorem count_journal : (world.count uses).journal = world.journal := rfl

@[simp] theorem count_hosts : (world.count uses).hosts = world.hosts := rfl

@[simp] theorem count_names : (world.count uses).names = world.names := rfl

@[simp] theorem count_uses : (world.count uses).uses = uses := rfl

@[simp] theorem count_registryOf : (world.count uses).registryOf host = world.registryOf host := rfl

@[simp] theorem putRegistry_journal : (world.putRegistry host registry).journal = world.journal := rfl

@[simp] theorem putRegistry_names : (world.putRegistry host registry).names = world.names := rfl

@[simp] theorem putRegistry_uses : (world.putRegistry host registry).uses = world.uses := rfl

@[simp] theorem putRegistry_length :
    (world.putRegistry host registry).hosts.length = world.hosts.length := List.length_set

@[simp] theorem putRegistry_note :
    (world.note entry).putRegistry host registry = (world.putRegistry host registry).note entry := rfl

/-- Scripts leave the registry as it is. -/
theorem leave_registryOf (present : host < world.hosts.length) (outside : Script.Outside) :
    (world.leave host outside).registryOf host = world.registryOf host := by
  simp [registryOf, leave, present]

/-- The registry that was put is read. -/
theorem putRegistry_registryOf (present : host < world.hosts.length) :
    (world.putRegistry host registry).registryOf host = registry := by
  simp [registryOf, putRegistry, present]

/-- The later of two registries stands. -/
theorem putRegistry_putRegistry (present : host < world.hosts.length) :
    (world.putRegistry host registry).putRegistry host other = world.putRegistry host other := by
  simp [putRegistry, present]

end World

namespace Run

variable {world : World} {host : Nat}

@[simp] theorem ends_note (entry : Entry) (post : Except Raised Unit → World → Prop) :
    (note entry).Ends world post ↔ post (.ok ()) (world.note entry) := Iff.rfl

@[simp] theorem ends_report (record : TraceRecord) (post : Except Raised Unit → World → Prop) :
    (report record).Ends world post ↔ post (.ok ()) (world.note (.reported record)) := Iff.rfl

@[simp] theorem ends_host (id : Nat) (post : Except Raised Host → World → Prop) :
    (Run.host id).Ends world post ↔ post (.ok ((world.hosts[id]?).getD .core)) world := Iff.rfl

@[simp] theorem ends_runtime? (id : Nat) (post : Except Raised (Option Runtime) → World → Prop) :
    (runtime? id).Ends world post ↔
      post (.ok ((world.hosts[id]?).getD .core).runtime) world := Iff.rfl

@[simp] theorem ends_hostNamed (name : String) (post : Except Raised Nat → World → Prop) :
    (hostNamed name).Ends world post ↔
      post (.ok ((world.names.hosts.lookup name).getD 0)) world := Iff.rfl

/-- Setting a registry writes down who is listed. -/
@[simp] theorem ends_setRegistry (registry : Registry) (post : Except Raised Unit → World → Prop) :
    (setRegistry host registry).Ends world post ↔
      post (.ok ()) ((world.putRegistry host registry).note (.listed host registry.registered)) :=
  Iff.rfl

@[simp] theorem ends_modifyRegistry (change : Registry → Registry)
    (post : Except Raised Unit → World → Prop) :
    (modifyRegistry host change).Ends world post ↔
      post (.ok ()) (world.putRegistry host (change (world.registryOf host))) := Iff.rfl

@[simp] theorem ends_modifyHost (id : Nat) (change : Host → Host)
    (post : Except Raised Unit → World → Prop) :
    (modifyHost id change).Ends world post ↔ post (.ok ())
      { world with hosts := world.hosts.set id (change ((world.hosts[id]?).getD .core)) } := Iff.rfl

@[simp] theorem ends_reportAll (records : List TraceRecord) (post : Except Raised Unit → World → Prop) :
    (reportAll records).Ends world post ↔ post (.ok ())
      { world with journal := (records.map .reported).reverse ++ world.journal } := Iff.rfl

/-- A registry that is not locked is read. -/
theorem ends_registry (unlocked : (world.registryOf host).locked = false)
    (post : Except Raised Registry → World → Prop) :
    (Run.registry host).Ends world post ↔ post (.ok (world.registryOf host)) world := by
  have read : (Run.registry host).run.run world =
      if (world.registryOf host).locked then (.error .stuck, world)
      else (.ok (world.registryOf host), world) := by
    change ((if (world.registryOf host).locked then throw Raised.stuck
      else pure (world.registryOf host) : Run Registry)).run.run world = _
    split <;> rfl
  unfold Ends
  rw [read, unlocked]
  rfl

/-- Whoever finds the registry locked waits for ever. -/
theorem ends_registry_locked (locked : (world.registryOf host).locked = true)
    (post : Except Raised Registry → World → Prop) :
    (Run.registry host).Ends world post ↔ post (.error .stuck) world := by
  have read : (Run.registry host).run.run world = (.error .stuck, world) := by
    change ((if (world.registryOf host).locked then throw Raised.stuck
      else pure (world.registryOf host) : Run Registry)).run.run world = _
    rw [locked]
    rfl
  unfold Ends
  rw [read]

@[simp] theorem ends_slot? (id : Nat) (post : Except Raised (Option Slot) → World → Prop) :
    (Scheduler.slot? host id).Ends world post ↔
      post (.ok (world.registryOf host).slots[id]?) world := Iff.rfl

@[simp] theorem ends_setSlot (id : Nat) (slot : Slot) (post : Except Raised Unit → World → Prop) :
    (Scheduler.setSlot host id slot).Ends world post ↔
      post (.ok ()) (world.putRegistry host ((world.registryOf host).setSlot id slot)) := Iff.rfl

/-- A script is run on what the host shows of the world. -/
theorem ends_outside {α : Type} (act : Script.Outside → α × Script.Outside)
    (post : Except Raised α → World → Prop) :
    (outside host act).Ends world post ↔
      post (.ok (act ⟨world.engine, world.draws, ((world.hosts[host]?).getD .core).log, []⟩).1)
        (world.leave host (act ⟨world.engine, world.draws, ((world.hosts[host]?).getD .core).log, []⟩).2) :=
  Iff.rfl

/-- The world counts the calls of the hooks. -/
theorem ends_use (hooked : Hooked) (post : Except Raised Nat → World → Prop)
    (holds : ∀ count uses, uses.length = world.uses.length →
      post (.ok count) (world.count uses)) :
    (use hooked).Ends world post :=
  holds _ _ List.length_set

/-- A hook that is called takes the turn of this call, and it ends as the turn does. -/
theorem ends_called {depth : Nat} {hooked : Hooked} {arguments : Arguments}
    {post : Except Raised Unit → World → Prop}
    (turns : ∀ count uses, uses.length = world.uses.length → (do
      Perform.performAll (caller depth) (hooked.hook.turn count).commands
      note (.finished hooked.id arguments (hooked.hook.turn count).ending)
      (hooked.hook.turn count).ending.enact : Run Unit).Ends
        ((world.note (.called hooked.id hooked.label arguments)).count uses) post) :
    ((caller (depth + 1)).hook hooked arguments).Ends world post := by
  unfold caller
  rw [ends_bind, ends_note, followed_ok, ends_bind]
  refine ends_use hooked _ fun count uses length => ?_
  rw [followed_ok]
  exact turns count uses length

@[simp] theorem ends_hooked (label : String) (hook : Hook Operation)
    (post : Except Raised Hooked → World → Prop) :
    (hooked label hook).Ends world post ↔
      post (.ok ⟨world.uses.length, label, hook⟩) (world.count (world.uses ++ [0])) := Iff.rfl

end Run

end Session

end ScriptHost

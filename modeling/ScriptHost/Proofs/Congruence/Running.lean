/-
This file runs the small steps of sessions in related worlds. Where a step depends on which receiver stands
under a number, the relation is narrowed to the worlds that have this receiver there.
-/
import ScriptHost.Proofs.Congruence.Relations

namespace ScriptHost.Session

open Effect (Together Twin together_pure together_throw)

variable {scope : Scope} {fits : Nat → Receiver → Prop} {related : World → World → Prop} {α β : Type}
  {host id : Nat} {receiver : Receiver} {world : World}

namespace Run

/-- A run that only returns does the same everywhere. -/
theorem agrees_pure (value : α) : (pure value : Run α).Agrees related := together_pure rfl

/-- A run that only throws does the same everywhere. -/
theorem agrees_throw (raised : Raised) : (throw raised : Run α).Agrees related := together_throw rfl

/-- Two runs that do the same do so together. -/
theorem Agrees.bind {body : Run α} {next : α → Run β} (first : body.Agrees related)
    (rest : ∀ value, (next value).Agrees related) : (body >>= next).Agrees related := by
  apply first.then
  rintro value _ rfl
  exact rest value

/-- Runs that do the same end alike and leave related worlds. -/
theorem AgreesAt.ran {body : Run α} {world other : World} (agrees : body.AgreesAt related world other) :
    ∃ result after late, body.run.run world = (result, after) ∧ body.run.run other = (result, late) ∧
      related after late := by
  obtain ⟨ends, after⟩ := agrees
  exact ⟨_, _, (body.run.run other).2, rfl, Prod.ext (Effect.twin_eq.mp ends).symm rfl, after⟩

/-- A run that does the same here may go on with one that does so everywhere. -/
theorem AgreesAt.bind {body : Run α} {next : α → Run β} {world other : World}
    (first : body.AgreesAt related world other) (rest : ∀ value, (next value).Agrees related) :
    (body >>= next).AgreesAt related world other := by
  obtain ⟨result, after, late, ran, also, linked⟩ := first.ran
  unfold AgreesAt
  rw [Stateful.run_bind, Stateful.run_bind, ran, also]
  cases result with
  | error raised => exact ⟨rfl, linked⟩
  | ok value => exact rest value after late linked

/-- Whoever needs a locked registry waits for ever. -/
theorem registry_run (next : Registry → Run α) (world : World) :
    (Run.registry host >>= next).run.run world =
      if (world.registryOf host).locked then (.error .stuck, world)
      else (next (world.registryOf host)).run.run world := by
  change ((if (world.registryOf host).locked then throw Raised.stuck
    else pure (world.registryOf host) : Run Registry) >>= next).run.run world = _
  split <;> rfl

/-- A registry that is not locked is read. -/
theorem AgreesAt.reading {next : Registry → Run α} (unlocked : (world.registryOf host).locked = false)
    (rest : (next (world.registryOf host)).AgreesAt related world world) :
    (Run.registry host >>= next).AgreesAt related world world := by
  unfold AgreesAt
  rw [registry_run, unlocked]
  exact rest

/-- Dropping the value of a run changes nothing. -/
theorem AgreesAt.discard {body : Run α} {world other : World} (agrees : body.AgreesAt related world other) :
    (Functor.discard body).AgreesAt related world other := by
  obtain ⟨result, after, late, ran, also, linked⟩ := agrees.ran
  unfold AgreesAt
  rw [Stateful.run_discard, Stateful.run_discard, ran, also]
  cases result <;> exact ⟨rfl, linked⟩

/-- A handler that does the same everywhere may stand around the run. -/
theorem AgreesAt.tryCatch {body : Run α} {handler : Raised → Run α} {world other : World}
    (agrees : body.AgreesAt related world other) (handled : ∀ raised, (handler raised).Agrees related) :
    (tryCatch body handler).AgreesAt related world other := by
  obtain ⟨result, after, late, ran, also, linked⟩ := agrees.ran
  unfold AgreesAt
  rw [Stateful.run_tryCatch, Stateful.run_tryCatch, ran, also]
  cases result with
  | error raised => exact handled raised after late linked
  | ok value => exact ⟨rfl, linked⟩

/-- Dropping values leaves runs in agreement. -/
theorem Agrees.discard {body : Run α} (agrees : body.Agrees related) :
    (Functor.discard body).Agrees related := Together.discard agrees

/-- Handlers of runs that do the same do the same. -/
theorem Agrees.tryCatch {body : Run α} {handler : Raised → Run α} (agrees : body.Agrees related)
    (handled : ∀ raised, (handler raised).Agrees related) : (tryCatch body handler).Agrees related :=
  Together.tryCatch agrees handled

/-- Isolated runs tell the same fault. -/
theorem Agrees.isolate {body : Run Unit} (agrees : body.Agrees related) : (isolate body).Agrees related := by
  intro world other holds
  obtain ⟨same, after⟩ := agrees world other holds
  rw [isolate_run, isolate_run, Effect.twin_eq.mp same]
  exact ⟨Effect.twin_eq.mpr rfl, after⟩

/-- Finishers of runs that do the same do the same. -/
theorem Agrees.afterwards {body : Run α} {finish : Run Unit} (agrees : body.Agrees related)
    (finished : finish.Agrees related) : (afterwards body finish).Agrees related := by
  rw [afterwards_eq]
  apply Agrees.tryCatch
  · exact agrees.bind fun _ => finished.bind fun _ => agrees_pure _
  · exact fun _ => finished.bind fun _ => agrees_throw _

/-- A finisher may stand around a run that does the same here. -/
theorem AgreesAt.afterwards {body : Run α} {finish : Run Unit} {world other : World}
    (agrees : body.AgreesAt related world other) (finished : finish.Agrees related) :
    (afterwards body finish).AgreesAt related world other := by
  rw [afterwards_eq]
  apply AgreesAt.tryCatch
  · exact agrees.bind fun _ => finished.bind fun _ => agrees_pure _
  · exact fun _ => finished.bind fun _ => agrees_throw _

/-- A run that returns a good value does so everywhere. -/
theorem agreesOn_pure {good : α → Prop} {value : α} (holds : good value) :
    (pure value : Run α).AgreesOn related good := together_pure ⟨rfl, holds⟩

/-- A value that both worlds gave may be relied on by what follows. -/
theorem AgreesOn.bind {body : Run α} {next : α → Run β} {good : α → Prop} (first : body.AgreesOn related good)
    (rest : ∀ value, good value → (next value).Agrees related) : (body >>= next).Agrees related := by
  apply first.then
  rintro value _ ⟨rfl, holds⟩
  exact rest value holds

/-- Whoever reads of a world only what is related goes on alike. -/
theorem agrees_get {next : World → Run α} {results : Except Raised α → Except Raised α → Prop}
    (same : ∀ world other, related world other → next world = next other)
    (rest : ∀ world other, related world other → Together related results (next world) (next world)) :
    Together related results (get >>= next) (get >>= next) := by
  intro world other holds
  rw [Stateful.run_get, Stateful.run_get, ← same world other holds]
  exact rest world other holds world other holds

/-- Whoever reads of a host only what is related goes on alike. -/
theorem agrees_host {next : Host → Run α}
    (same : ∀ world other, related world other → next (world.hostOf host) = next (other.hostOf host))
    (rest : ∀ {world other}, related world other →
      (next (world.hostOf host)).AgreesAt related world other) :
    (Run.host host >>= next).Agrees related := by
  have read : ∀ world : World, (Run.host host >>= next).run.run world =
      (next (world.hostOf host)).run.run world := fun _ => rfl
  intro world other holds
  rw [read, read, ← same world other holds]
  exact rest holds

/-- Whoever reads the runtime goes on alike. -/
theorem agrees_runtime? {next : Option Runtime → Run α}
    (same : ∀ world other, related world other →
      next (world.hostOf host).runtime = next (other.hostOf host).runtime)
    (rest : ∀ runtime, (next runtime).Agrees related) : (Run.runtime? host >>= next).Agrees related := by
  have read : ∀ world : World, (Run.runtime? host >>= next).run.run world =
      (next (world.hostOf host).runtime).run.run world := fun _ => rfl
  intro world other holds
  rw [read, read, ← same world other holds]
  exact rest _ world other holds

/-- A change that keeps the relation may be made in both worlds. -/
theorem agrees_modify {change : World → World}
    (kept : ∀ world other, related world other → related (change world) (change other)) :
    (modify change : Run Unit).Agrees related :=
  fun world other holds => ⟨rfl, kept world other holds⟩

end Run

/-- The relation holds, and this receiver stands under the number. -/
def Narrow (related : World → World → Prop) (host id : Nat) (receiver : Receiver) (world other : World) : Prop :=
  related world other ∧ Bears host id receiver world

/-- What holds in a narrower relation holds in the wider one. -/
theorem Run.AgreesAt.widen {body : Run α} {other : World}
    (agrees : body.AgreesAt (Narrow related host id receiver) world other) :
    body.AgreesAt related world other :=
  ⟨agrees.1, agrees.2.1⟩

/-- A slot may be overwritten as long as its receiver stays. -/
theorem alters_setSlot {registry : Registry} {slot former : Slot} (found : registry.slots[id]? = some former)
    (same : Binding.bare slot.receiver = Binding.bare former.receiver) :
    Alters registry (registry.setSlot id slot) := by
  refine ⟨?_, List.Subset.refl _⟩
  change (registry.slots.set id slot).map _ = _
  obtain ⟨inside, rfl⟩ := List.getElem?_eq_some_iff.mp found
  rw [List.map_set, same]
  refine (congrArg (List.set _ id) ?_).trans (List.set_getElem_self (by simpa using inside))
  rw [List.getElem_map]

/-- Receivers may be taken out. -/
theorem alters_take (registry : Registry) (choose : Receiver → Bool) :
    Alters registry (registry.take choose).1 :=
  ⟨rfl, List.filter_subset_self _⟩

/-- A receiver may be erased. -/
theorem alters_erase (registry : Registry) (id : Nat) : Alters registry (registry.erase id) :=
  ⟨rfl, List.filter_subset_self _⟩

/-- A registry may be locked. -/
theorem alters_lock (registry : Registry) (locked : Bool) : Alters registry { registry with locked } :=
  ⟨rfl, List.Subset.refl _⟩

/-- A receiver that stood there before a change stands there behind it. -/
theorem Alters.bears {registry after : Registry} (alters : Alters registry after) {slot : Slot}
    (found : registry.slots[id]? = some slot) :
    ∃ later, after.slots[id]? = some later ∧ Binding.bare later.receiver = Binding.bare slot.receiver := by
  have same := congrArg (fun receivers : List Receiver => receivers[id]?) alters.slots
  simp only [List.getElem?_map, found, Option.map_some] at same
  obtain ⟨later, held, equal⟩ := Option.map_eq_some_iff.mp same
  exact ⟨later, held, equal⟩

namespace Bears

/-- A host that bears a receiver is present. -/
theorem present (bears : Bears host id receiver world) : host < world.hosts.length := by
  by_contra absent
  obtain ⟨slot, found, -⟩ := bears
  have missing : world.hosts[host]? = none := List.getElem?_eq_none (Nat.le_of_not_lt absent)
  rw [World.registryOf, missing] at found
  cases found

/-- Where the registry is the same, it bears the same receivers. -/
theorem of_registryOf {after : World} (bears : Bears host id receiver world)
    (same : after.registryOf host = world.registryOf host) : Bears host id receiver after := by
  rw [Bears, same]
  exact bears

/-- A registry may be replaced as long as the receiver stays. -/
theorem putRegistry {place : Nat} {registry : Registry} (bears : Bears host id receiver world)
    (kept : ∀ slot, (world.registryOf place).slots[id]? = some slot →
      ∃ later, registry.slots[id]? = some later ∧ Binding.bare later.receiver = Binding.bare slot.receiver) :
    Bears host id receiver (world.putRegistry place registry) := by
  by_cases same : place = host
  · subst same
    obtain ⟨slot, found, equal⟩ := bears
    obtain ⟨later, held, equal'⟩ := kept slot found
    refine ⟨later, ?_, equal'.trans equal⟩
    rw [World.putRegistry_registryOf (present ⟨slot, found, equal⟩)]
    exact held
  · apply bears.of_registryOf
    simp [World.registryOf, World.putRegistry, same]

/-- A host may be replaced as long as its registry stays. -/
theorem putHost {place : Nat} {state : Host} (bears : Bears host id receiver world)
    (same : state.registry = world.registryOf place) : Bears host id receiver (world.putHost place state) := by
  apply bears.of_registryOf
  by_cases here : place = host
  · subst here
    rw [← same]
    simp [World.registryOf, World.putHost, bears.present]
  · simp [World.registryOf, World.putHost, here]

/-- Scripts take no receiver away. -/
theorem leave {place : Nat} (bears : Bears host id receiver world) (outside : Script.Outside) :
    Bears host id receiver (world.leave place outside) := by
  apply bears.of_registryOf
  by_cases here : place = host
  · subst here
    exact World.leave_registryOf bears.present outside
  · simp [World.registryOf, World.leave, here]

end Bears

section Narrowing

variable {narrowed : World → World → Prop}

/-- A congruence may be narrowed to the worlds that bear a receiver. -/
theorem Congruence.narrow (congruence : Congruence scope fits related) (host id : Nat) (receiver : Receiver) :
    Congruence scope fits (Narrow related host id receiver) where
  engine holds := congruence.engine holds.1
  draws holds := congruence.draws holds.1
  names holds := congruence.names holds.1
  uses holds := congruence.uses holds.1
  claimed holds := congruence.claimed holds.1
  registry holds := congruence.registry holds.1
  log holds := congruence.log holds.1
  scripts holds := congruence.scripts holds.1
  within holds := congruence.within holds.1
  system := congruence.system
  hooked := congruence.hooked
  note quiet holds := ⟨congruence.note quiet holds.1, holds.2.of_registryOf rfl⟩
  leave place outside holds := ⟨congruence.leave place outside holds.1, holds.2.leave outside⟩
  count uses holds := ⟨congruence.count uses holds.1, holds.2.of_registryOf rfl⟩
  steer engine holds := ⟨congruence.steer engine holds.1, holds.2.of_registryOf rfl⟩
  rename names holds same := ⟨congruence.rename names holds.1 same, holds.2.of_registryOf rfl⟩
  change holds alters := ⟨congruence.change holds.1 alters, holds.2.putRegistry fun _ => alters.bears⟩
  add holds fit within := by
    refine ⟨congruence.add holds.1 fit within, holds.2.putRegistry fun slot found => ⟨slot, ?_, rfl⟩⟩
    obtain ⟨inside, -⟩ := List.getElem?_eq_some_iff.mp found
    exact (List.getElem?_append_left inside).trans found

/-- Narrowing leaves the stock of factories as it is. -/
theorem Stocked.narrow (stocked : Stocked scope related) (host id : Nat) (receiver : Receiver) :
    Stocked scope (Narrow related host id receiver) where
  factories holds := stocked.factories holds.1
  within holds := stocked.within holds.1
  binder holds := stocked.binder holds.1
  restock factories holds within := ⟨stocked.restock factories holds.1 within, holds.2.of_registryOf rfl⟩
  rebind place binder holds := ⟨stocked.rebind place binder holds.1, holds.2.putHost rfl⟩

/-- Narrowing leaves a relation audible. -/
theorem Audible.narrow (audible : Audible scope related) (host id : Nat) (receiver : Receiver) :
    Audible scope (Narrow related host id receiver) where
  bridge holds := audible.bridge holds.1
  source holds := audible.source holds.1
  freed holds := audible.freed holds.1
  handlers holds := audible.handlers holds.1
  listeners holds := audible.listeners holds.1
  note entry holds := ⟨audible.note entry holds.1, holds.2.of_registryOf rfl⟩
  rebridge holds within := ⟨audible.rebridge holds.1 within, holds.2.of_registryOf rfl⟩
  resource place holds within := ⟨audible.resource place holds.1 within, holds.2.putHost rfl⟩

/-- Worlds that are spared bear the same receivers. -/
theorem Bears.spared {after : World} (bears : Bears host id receiver world) (spares : world.Spares after) :
    Bears host id receiver after := by
  have spared : ((world.hosts[host]?).getD .core).Spares ((after.hosts[host]?).getD .core) :=
    Forall₂.getD spares.hosts (.refl _) host
  exact bears.of_registryOf spared.registry

/-- Whoever keeps a relation also keeps it in the worlds that have the receiver under the number. -/
theorem Heeds.narrow (heeds : Heeds scope fits related) (host id : Nat) (receiver : Receiver) :
    Heeds scope fits (Narrow related host id receiver) where
  toCongruence := heeds.toCongruence.narrow host id receiver
  calm allowed _ body plain := by
    intro world other holds
    obtain ⟨same, after⟩ := heeds.calm allowed plain world other holds.1
    exact ⟨same, after, holds.2.spared (plain.spares world)⟩
  stocks allowed := (heeds.stocks allowed).narrow host id receiver
  hears allowed := (heeds.hears allowed).narrow host id receiver

end Narrowing

namespace Congruence

variable (congruence : Congruence scope fits related)

include congruence

/-- A quiet note is written in both worlds. -/
theorem agrees_note {entry : Entry} (quiet : entry.ticks = false) : (Run.note entry).Agrees related :=
  fun _ _ holds => ⟨rfl, congruence.note quiet holds⟩

/-- A record is reported in both worlds. -/
theorem agrees_report (record : TraceRecord) : (Run.report record).Agrees related :=
  congruence.agrees_note rfl

/-- Records are reported in both worlds. -/
theorem agrees_reportAll (records : List TraceRecord) : (Run.reportAll records).Agrees related := by
  refine fun world other holds => ⟨rfl, ?_⟩
  change related { world with journal := (records.map .reported).reverse ++ world.journal }
    { other with journal := (records.map .reported).reverse ++ other.journal }
  induction records generalizing world other with
  | nil => exact holds
  | cons record rest ih =>
      have first : related (world.note (.reported record)) (other.note (.reported record)) :=
        congruence.note rfl holds
      have later := ih _ _ first
      rw [List.map_cons, List.reverse_cons, List.append_assoc, List.append_assoc]
      exact later

/-- A script does the same in both worlds. -/
theorem agrees_outside (act : Script.Outside → α × Script.Outside) : (Run.outside host act).Agrees related := by
  intro world other holds
  have left : ∀ world : World, (Run.outside host act).run.run world =
      (.ok (act ⟨world.engine, world.draws, (world.hostOf host).log, []⟩).1,
        world.leave host (act ⟨world.engine, world.draws, (world.hostOf host).log, []⟩).2) := fun _ => rfl
  rw [left, left, congruence.engine holds, congruence.draws holds, congruence.log holds host]
  exact ⟨rfl, congruence.leave host _ holds⟩

/-- A hook has been used equally often in both worlds. -/
theorem agrees_use (hooked : Hooked) : (Run.use hooked).Agrees related := by
  intro world other holds
  have counted : ∀ world : World, (Run.use hooked).run.run world =
      (.ok ((world.uses[hooked.id]?).getD 0),
        world.count (world.uses.set hooked.id ((world.uses[hooked.id]?).getD 0 + 1))) := fun _ => rfl
  rw [counted, counted, congruence.uses holds]
  exact ⟨rfl, congruence.count _ holds⟩

/-- A hook takes the same number in both worlds. -/
theorem agrees_hooked (label : String) (hook : Hook Operation) :
    (Run.hooked label hook).AgreesOn related fun hooked => hooked.hook = hook := by
  intro world other holds
  have made : ∀ world : World, (Run.hooked label hook).run.run world =
      (.ok ⟨world.uses.length, label, hook⟩, world.count (world.uses ++ [0])) := fun _ => rfl
  rw [made, made, congruence.uses holds]
  exact ⟨⟨rfl, rfl⟩, congruence.count _ holds⟩

/-- Names may change alike as long as those of hosts stay. -/
theorem agrees_modifyNames {change : Names → Names} (hosts : ∀ names, (change names).hosts = names.hosts) :
    (Run.modifyNames change).Agrees related := by
  apply Run.agrees_modify
  intro world other holds
  have renamed := congruence.rename (change world.names) holds (hosts _)
  rw [World.rename, World.rename] at renamed
  rwa [← congruence.names holds]

/-- The engine may change alike. -/
theorem agrees_modifyEngine (change : Engine → Engine) : (Run.modifyEngine change).Agrees related := by
  apply Run.agrees_modify
  intro world other holds
  have steered := congruence.steer (change world.engine) holds
  rw [World.steer, World.steer] at steered
  rwa [← congruence.engine holds]

/-- A registry is read, or both runs are stuck. -/
theorem agrees_reading {next : Registry → Run α} (rest : ∀ {world other : World}, related world other →
      (next (world.registryOf host)).AgreesAt related world other) :
    (Run.registry host >>= next).Agrees related := by
  intro world other holds
  rw [Run.registry_run, Run.registry_run, ← congruence.registry holds host]
  split
  · exact ⟨rfl, holds⟩
  · exact rest holds

/-- The receivers of a registry that was read are of the scope. -/
theorem agrees_registry {next : Registry → Run α} (rest : ∀ registry : Registry,
      (∀ slot ∈ registry.slots, WithinReceiver scope slot.receiver) → (next registry).Agrees related) :
    (Run.registry host >>= next).Agrees related :=
  congruence.agrees_reading fun holds => rest _ (congruence.within holds host) _ _ holds

/-- A registry is set in both worlds. -/
theorem agreesAt_setRegistry {registry : Registry} {next : Unit → Run α} {world other : World}
    (kept : related (world.putRegistry host registry) (other.putRegistry host registry))
    (rest : (next ()).Agrees related) :
    (Run.setRegistry host registry >>= next).AgreesAt related world other :=
  rest _ _ (congruence.note rfl kept)

/-- A registry is locked in both worlds. -/
theorem agrees_lock (locked : Bool) :
    (Run.modifyRegistry host fun registry => { registry with locked }).Agrees related := by
  refine fun world other holds => ⟨rfl, ?_⟩
  have kept := congruence.change holds (alters_lock (world.registryOf host) locked)
  change related (world.putRegistry host { world.registryOf host with locked })
    (other.putRegistry host { other.registryOf host with locked })
  rwa [← congruence.registry holds host]

/-- A slot is set in both worlds as long as its receiver stays. -/
theorem agrees_setSlot (slot : Slot) (bears : ∀ {world other}, related world other → Bears host id receiver world)
    (same : Binding.bare slot.receiver = Binding.bare receiver) :
    (Scheduler.setSlot host id slot).Agrees related := by
  refine fun world other holds => ⟨rfl, ?_⟩
  obtain ⟨former, found, equal⟩ := bears holds
  have kept := congruence.change holds (alters_setSlot found (same.trans equal.symm))
  change related (world.putRegistry host ((world.registryOf host).setSlot id slot))
    (other.putRegistry host ((other.registryOf host).setSlot id slot))
  rwa [← congruence.registry holds host]

/-- When a slot has been found, the relation is narrowed to the worlds that have its receiver there. -/
theorem agrees_slot? {next : Option Slot → Run α} (absent : (next none).Agrees related)
    (present : ∀ slot : Slot, WithinReceiver scope slot.receiver →
      (next (some slot)).Agrees (Narrow related host id slot.receiver)) :
    (Scheduler.slot? host id >>= next).Agrees related := by
  have read : ∀ world : World, (Scheduler.slot? host id >>= next).run.run world =
      (next (world.registryOf host).slots[id]?).run.run world := fun _ => rfl
  intro world other holds
  rw [read, read, ← congruence.registry holds host]
  cases found : (world.registryOf host).slots[id]? with
  | none => exact absent world other holds
  | some slot =>
      have within := congruence.within holds host slot (List.mem_of_getElem? found)
      obtain ⟨same, after⟩ := present slot within world other ⟨holds, slot, found, rfl⟩
      exact ⟨same, after.1⟩

end Congruence

end ScriptHost.Session
